import Evdevxx.Model.Grabber
import Evdevxx.Device.Evaluation

/-!
# Evaluation — how the member functions of `Grabber` end
-/

namespace Evdevxx

namespace Grabber

variable {σ : Type} {P : Platform σ} {w : World σ} {this other : GrabberId} {G E : Grabber}
variable {d : DeviceId} {D : Device} {h : Handle}

@[simp] theorem load_apply (hG : w.grabbers this = some G) : load this w = .returned G w :=
  Memory.load_apply hG

@[simp] theorem load_apply_none (hG : w.grabbers this = none) : load this w = .undefined :=
  Memory.load_apply_none hG

@[simp] theorem store_apply (G : Grabber) :
    store this G w = .returned () (w.setGrabber this (some G)) := rfl

@[simp] theorem memory_set (X : Option Grabber) : memory.set w this X = w.setGrabber this X := rfl

theorem construct_of_returned {body : Op σ Unit} {w' : World σ}
    (hfree : w.grabbers this = none)
    (hbody : body (w.setGrabber this (some {})) = .returned () w') :
    construct this body w = .returned () w' :=
  Memory.construct_of_returned hfree hbody

theorem construct_of_threw {body : Op σ Unit} {e : Exn} {w' : World σ}
    (hfree : w.grabbers this = none)
    (hbody : body (w.setGrabber this (some {})) = .threw e w') :
    construct this body w = .threw e (w'.setGrabber this none) :=
  Memory.construct_of_threw hfree hbody

/-- A constructor needs room for the object. -/
theorem construct_apply_occupied {body : Op σ Unit} (hG : w.grabbers this = some G) :
    construct this body w = .undefined :=
  Memory.construct_apply_occupied hG

theorem ungrab_apply_none (hG : w.grabbers this = none) : ungrab P this w = .undefined := by
  simp [ungrab, hG]

/-- A `Grabber` holds nothing, or a valid device, or using it is undefined. -/
theorem ungrab_cases (P : Platform σ) (hG : w.grabbers this = some G) :
    G.dev = none ∨
      (∃ d D h, G.dev = some d ∧ w.devices d = some D ∧ D.raw = some h) ∨
        ungrab P this w = .undefined := by
  cases hdev : G.dev with
  | none => exact Or.inl rfl
  | some d =>
      refine Or.inr ?_
      cases hD : w.devices d with
      | none => exact Or.inr (by simp [ungrab, hG, hdev, Device.ungrab, hD])
      | some D =>
          cases hraw : D.raw with
          | none => exact Or.inr (by simp [ungrab, hG, hdev, Device.ungrab, hD, hraw])
          | some h => exact Or.inl ⟨d, D, h, rfl, hD, hraw⟩

theorem ungrab_apply_empty (hG : w.grabbers this = some G) (hdev : G.dev = none) :
    ungrab P this w = .returned () w := by
  simp [ungrab, hG, hdev]

theorem ungrab_apply (hG : w.grabbers this = some G) (hdev : G.dev = some d)
    (hD : w.devices d = some D) (hraw : D.raw = some h) :
    ungrab P this w =
      let r := P.libevdevGrab h .ungrab w.env
      let w₁ := w.called (.libevdevGrab h .ungrab r.1) r.2
      if r.1 < 0 then
        .threw (.std (.systemError (-r.1) (some "libevdev_grab()."))) w₁
      else
        .returned () (w₁.setGrabber this (some {})) := by
  simp only [ungrab, Prog.bind_apply, load_apply hG, Outcome.returned_andThen, hdev,
    Device.ungrab_apply hD hraw]
  split <;> rfl

theorem constructEmpty_apply (hfree : w.grabbers this = none) :
    constructEmpty this w = .returned () (w.setGrabber this (some {})) :=
  construct_of_returned hfree rfl

theorem constructFrom_apply (hfree : w.grabbers this = none) (hD : w.devices d = some D)
    (hraw : D.raw = some h) :
    constructFrom P this d w =
      let r := P.libevdevGrab h .grab w.env
      let w₁ := w.called (.libevdevGrab h .grab r.1) r.2
      if r.1 < 0 then
        .threw (.std (.systemError (-r.1) (some "libevdev_grab()."))) (w₁.setGrabber this none)
      else
        .returned () (w₁.setGrabber this (some { dev := some d })) := by
  have hD' : (w.setGrabber this (some { dev := some d })).devices d = some D := by simpa using hD
  have hgrab := Device.grab_apply (P := P) hD' hraw
  -- `grab` is called on the device with the new object in place.
  have hbody : (do store this { dev := some d }; Device.grab P d : Op σ Unit)
      (w.setGrabber this (some {})) =
        Device.grab P d (w.setGrabber this (some { dev := some d })) := by
    simp
  rw [hgrab] at hbody
  simp only [World.setGrabber_env, World.setGrabber_called] at hbody ⊢
  by_cases hneg : (P.libevdevGrab h .grab w.env).1 < 0
  · simp only [hneg, if_true] at hbody ⊢
    have hend := construct_of_threw hfree hbody
    rw [World.setGrabber_setGrabber] at hend
    exact hend
  · simp only [hneg, if_false] at hbody ⊢
    exact construct_of_returned hfree hbody

/-- Constructing a `Grabber` on something that is not a valid device is undefined. -/
theorem constructFrom_cases (P : Platform σ) (hfree : w.grabbers this = none) (d : DeviceId) :
    (∃ D h, w.devices d = some D ∧ D.raw = some h) ∨
      constructFrom P this d w = .undefined := by
  have hget : memory.get w this = none := hfree
  cases hD : w.devices d with
  | none =>
      refine Or.inr ?_
      simp [constructFrom, construct, Memory.construct_apply hget, Prog.catchRethrow, Device.grab,
        hD]
  | some D =>
      cases hraw : D.raw with
      | none =>
          refine Or.inr ?_
          simp [constructFrom, construct, Memory.construct_apply hget, Prog.catchRethrow,
            Device.grab, hD, hraw]
      | some h => exact Or.inl ⟨D, h, rfl, hraw⟩

/-- An object that is initialised from itself is empty. -/
theorem moveConstruct_apply_self (hfree : w.grabbers this = none) :
    moveConstruct this this w = .returned () (w.setGrabber this (some {})) := by
  apply construct_of_returned hfree
  apply Prog.noexcept_of_returned
  simp

theorem moveConstruct_apply_none (hne : other ≠ this) (hE : w.grabbers other = none) :
    moveConstruct this other w = .undefined := by
  cases hG : w.grabbers this with
  | some G => exact construct_apply_occupied hG
  | none =>
      have hE' : (w.setGrabber this (some {})).grabbers other = none := by simp [hne, hE]
      have hget : memory.get w this = none := hG
      simp [moveConstruct, construct, Memory.construct_apply hget, Prog.catchRethrow,
        Prog.noexcept, load_apply_none hE']

theorem moveAssign_apply_none (hG : w.grabbers this = none) :
    moveAssign P this other w = .undefined := by
  simp [moveAssign, hG]

theorem moveConstruct_apply (hfree : w.grabbers this = none) (hE : w.grabbers other = some E) :
    moveConstruct this other w =
      .returned () ((w.setGrabber other (some {})).setGrabber this (some E)) := by
  have hne : other ≠ this := ne_of_lives_of_free hE hfree
  apply construct_of_returned hfree
  apply Prog.noexcept_of_returned
  have hE' : (w.setGrabber this (some {})).grabbers other = some E := by simp [hne, hE]
  simp only [Prog.bind_apply, load_apply hE', Outcome.returned_andThen, store_apply,
    World.setGrabber_setGrabber]
  rw [World.setGrabber_comm _ _ hne.symm]

theorem moveAssign_apply_self (hG : w.grabbers this = some G) :
    moveAssign P this this w = .returned () w := by
  simp [moveAssign, hG]

/-- The destructor of a `Grabber` that holds a device. -/
theorem destruct_apply (hG : w.grabbers this = some G) (hdev : G.dev = some d)
    (hD : w.devices d = some D) (hraw : D.raw = some h) :
    destruct P this w =
      let r := P.libevdevGrab h .ungrab w.env
      if r.1 < 0 then
        .terminated
      else
        .returned () ((w.called (.libevdevGrab h .ungrab r.1) r.2).setGrabber this none) := by
  have hungrab := ungrab_apply (P := P) hG hdev hD hraw
  simp only
  split
  · next hneg =>
    simp only [hneg, if_true] at hungrab
    have hbody : (do ungrab P this; memory.deallocate this : Op σ Unit) w =
        .threw (.std (.systemError (-(P.libevdevGrab h .ungrab w.env).1)
          (some "libevdev_grab().")))
          (w.called (.libevdevGrab h .ungrab (P.libevdevGrab h .ungrab w.env).1)
            (P.libevdevGrab h .ungrab w.env).2) := by
      simp [hungrab]
    exact Prog.noexcept_of_threw hbody
  · next hneg =>
    simp only [hneg, if_false] at hungrab
    apply Prog.noexcept_of_returned
    simp [hungrab]

end Grabber

end Evdevxx
