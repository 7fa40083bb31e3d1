import Evdevxx.Model.Uinput
import Evdevxx.Device.Evaluation

/-!
# Evaluation — how the member functions of `Uinput` end
-/

namespace Evdevxx

open Op

namespace World

variable {σ : Type} (P : Platform σ) (w : World σ)

/-- What `Uinput::destroy` does with the released value. -/
def udestroyed (raw : Option UinputHandle) : World σ :=
  match raw with
  | some u => w.called (.libevdevUinputDestroy u) (P.libevdevUinputDestroy u w.env)
  | none => w

section Projections

variable (raw : Option UinputHandle) (u : UinputId) (U : Option Uinput)

@[simp] theorem udestroyed_none : w.udestroyed P none = w := rfl

@[simp] theorem udestroyed_uinputs : (w.udestroyed P raw).uinputs = w.uinputs := by
  cases raw <;> rfl

@[simp] theorem udestroyed_devices : (w.udestroyed P raw).devices = w.devices := by
  cases raw <;> rfl

@[simp] theorem udestroyed_grabbers : (w.udestroyed P raw).grabbers = w.grabbers := by
  cases raw <;> rfl

@[simp] theorem udestroyed_setUinput :
    (w.setUinput u U).udestroyed P raw = (w.udestroyed P raw).setUinput u U := by
  cases raw <;> rfl

end Projections

end World

namespace Uinput

variable {σ : Type} {P : Platform σ} {w : World σ} {this other : UinputId} {U E : Uinput}

@[simp] theorem load_apply (hU : w.uinputs this = some U) : load this w = .returned U w :=
  Memory.load_apply hU

@[simp] theorem load_apply_none (hU : w.uinputs this = none) : load this w = .undefined :=
  Memory.load_apply_none hU

@[simp] theorem store_apply (U : Uinput) :
    store this U w = .returned () (w.setUinput this (some U)) := rfl

@[simp] theorem memory_set (X : Option Uinput) : memory.set w this X = w.setUinput this X := rfl

theorem construct_of_returned {body : Op σ Unit} {w' : World σ}
    (hfree : w.uinputs this = none)
    (hbody : body (w.setUinput this (some {})) = .returned () w') :
    construct this body w = .returned () w' :=
  Memory.construct_of_returned hfree hbody

/-- A constructor ends like its body, but for the lifetime of the object. -/
theorem after_construct {body : Op σ Unit} {w' : World σ}
    (h : (construct this body w).after = some w') :
    w.uinputs this = none ∧
      (body (w.setUinput this (some {})) = .returned () w' ∨
        ∃ e w₁, body (w.setUinput this (some {})) = .threw e w₁ ∧
          w' = w₁.setUinput this none) := by
  rcases Memory.after_construct h with ⟨hfree, ⟨_, hbody⟩ | hbody⟩
  · exact ⟨hfree, Or.inl hbody⟩
  · exact ⟨hfree, Or.inr hbody⟩

@[simp] theorem destroyIfSet_apply (raw : Option UinputHandle) :
    destroyIfSet P raw w = .returned () (w.udestroyed P raw) := by
  cases raw <;> rfl

theorem acquire_apply (hU : w.uinputs this = some U) (raw : Option UinputHandle) :
    acquire this raw w = .returned () (w.setUinput this (some { raw := raw })) := by
  apply Prog.noexcept_of_returned
  simp [hU, BasicWrapper.acquire]

theorem release_apply (hU : w.uinputs this = some U) :
    release this w = .returned U.raw (w.setUinput this (some {})) := by
  apply Prog.noexcept_of_returned
  simp only [Prog.bind_apply, load_apply hU, Outcome.returned_andThen, store_apply,
    Prog.pure_apply]
  rfl

theorem destroy_apply (hU : w.uinputs this = some U) :
    destroy P this w = .returned () ((w.udestroyed P U.raw).setUinput this (some {})) := by
  apply Prog.noexcept_of_returned
  simp [release_apply hU]

theorem destroy_acquire_apply (hU : w.uinputs this = some U) (raw : Option UinputHandle) :
    (destroy P this >>= fun _ => acquire this raw) w =
      .returned () ((w.udestroyed P U.raw).setUinput this (some { raw := raw })) := by
  have hempty : ((w.udestroyed P U.raw).setUinput this (some {})).uinputs this = some {} := by
    simp
  simp [destroy_apply hU, acquire_apply hempty]

theorem create_apply {dev : DeviceId} {D : Device} {h : Handle}
    (hU : w.uinputs this = some U) (hD : w.devices dev = some D) (hraw : D.raw = some h)
    (fd : Fd) :
    create P this dev fd w =
      let r := P.libevdevUinputCreateFromDevice h fd w.env
      let w₁ := w.called (.libevdevUinputCreateFromDevice h fd r.1.1 r.1.2) r.2
      if r.1.1 < 0 then
        .threw (.std (.systemError (-r.1.1)
          (some "from libevdev_uinput_create_from_device()"))) w₁
      else
        .returned () ((w₁.udestroyed P U.raw).setUinput this (some { raw := r.1.2 })) := by
  simp only [create, Prog.bind_apply, load_apply hU, Device.load_apply hD, hraw, deref_some_apply,
    libevdevUinputCreateFromDevice_apply, Outcome.returned_andThen, Prog.ite_apply',
    throwSysError_apply]
  split
  · rfl
  · exact destroy_acquire_apply (by simpa using hU) _

theorem create_apply_invalid {dev : DeviceId} {D : Device} (hU : w.uinputs this = some U)
    (hD : w.devices dev = some D) (hraw : D.raw = none) (fd : Fd) :
    create P this dev fd w = .undefined := by
  simp [create, hU, hD, hraw]

theorem create_apply_dangling {dev : DeviceId} (hU : w.uinputs this = some U)
    (hD : w.devices dev = none) (fd : Fd) : create P this dev fd w = .undefined := by
  simp [create, hU, hD]

theorem create_apply_none (hU : w.uinputs this = none) (dev : DeviceId) (fd : Fd) :
    create P this dev fd w = .undefined := by
  simp [create, hU]

theorem destroy_apply_none (hU : w.uinputs this = none) : destroy P this w = .undefined := by
  simp [destroy, release, Prog.noexcept, hU]

theorem destruct_apply_none (hU : w.uinputs this = none) : destruct P this w = .undefined := by
  simp [destruct, Prog.noexcept, destroy_apply_none hU]

/-! ## Constructors, moves, the destructor -/

/-- A constructor needs room for the object. -/
theorem construct_apply_occupied {body : Op σ Unit} (hU : w.uinputs this = some U) :
    construct this body w = .undefined :=
  Memory.construct_apply_occupied hU

/-- An object that is initialised from itself is empty. -/
theorem moveConstruct_apply_self (hfree : w.uinputs this = none) :
    moveConstruct this this w = .returned () (w.setUinput this (some {})) := by
  apply construct_of_returned hfree
  apply Prog.noexcept_of_returned
  have hthis : (w.setUinput this (some {})).uinputs this = some {} := by simp
  have hempty : ((w.setUinput this (some {})).setUinput this (some {})).uinputs this =
      some {} := by simp
  simp only [Prog.bind_apply, release_apply hthis, Outcome.returned_andThen, acquire_apply hempty]
  simp

theorem moveConstruct_apply_none (hne : other ≠ this) (hE : w.uinputs other = none) :
    moveConstruct this other w = .undefined := by
  cases hU : w.uinputs this with
  | some U => exact construct_apply_occupied hU
  | none =>
      have hE' : (w.setUinput this (some {})).uinputs other = none := by simp [hne, hE]
      have hget : memory.get w this = none := hU
      simp [moveConstruct, construct, Memory.construct_apply hget, Prog.catchRethrow,
        Prog.noexcept, release, load_apply_none hE']

theorem moveAssign_apply_none (hU : w.uinputs this = none) :
    moveAssign P this other w = .undefined := by
  simp [moveAssign, Prog.noexcept, hU]

theorem moveAssign_apply_from_none (hU : w.uinputs this = some U)
    (hE : w.uinputs other = none) : moveAssign P this other w = .undefined := by
  have hne : this ≠ other := ne_of_lives_of_free hU hE
  have hE' : ((w.udestroyed P U.raw).setUinput this (some {})).uinputs other = none := by
    simp [hne.symm, hE]
  simp [moveAssign, Prog.noexcept, hU, hne, destroy_apply hU, release, hE']

theorem moveConstruct_apply (hfree : w.uinputs this = none) (hE : w.uinputs other = some E) :
    moveConstruct this other w =
      .returned () ((w.setUinput other (some {})).setUinput this (some E)) := by
  have hne : other ≠ this := ne_of_lives_of_free hE hfree
  apply construct_of_returned hfree
  apply Prog.noexcept_of_returned
  have hE' : (w.setUinput this (some {})).uinputs other = some E := by simp [hne, hE]
  have hthis : ((w.setUinput this (some {})).setUinput other (some {})).uinputs this =
      some {} := by simp [hne.symm]
  simp only [Prog.bind_apply, release_apply hE', Outcome.returned_andThen, acquire_apply hthis]
  rw [World.setUinput_comm _ _ hne.symm, World.setUinput_setUinput]

theorem moveAssign_apply_self (hU : w.uinputs this = some U) :
    moveAssign P this this w = .returned () w := by
  apply Prog.noexcept_of_returned
  simp [hU]

theorem moveAssign_apply (hU : w.uinputs this = some U) (hne : this ≠ other)
    (hE : w.uinputs other = some E) :
    moveAssign P this other w =
      .returned () (((w.udestroyed P U.raw).setUinput other (some {})).setUinput this
        (some E)) := by
  apply Prog.noexcept_of_returned
  have hE' : ((w.udestroyed P U.raw).setUinput this (some {})).uinputs other = some E := by
    simp [hne.symm, hE]
  have hthis : (((w.udestroyed P U.raw).setUinput this (some {})).setUinput other
      (some {})).uinputs this = some {} := by simp [hne]
  simp only [Prog.bind_apply, load_apply hU, Outcome.returned_andThen, hne, ne_eq,
    not_false_eq_true, if_true, destroy_apply hU, release_apply hE', acquire_apply hthis]
  rw [World.setUinput_comm _ _ hne, World.setUinput_setUinput]

theorem destruct_apply (hU : w.uinputs this = some U) :
    destruct P this w = .returned () ((w.udestroyed P U.raw).setUinput this none) := by
  apply Prog.noexcept_of_returned
  simp [destroy_apply hU]

end Uinput

end Evdevxx
