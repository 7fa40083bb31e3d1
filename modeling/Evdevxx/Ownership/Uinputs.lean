import Evdevxx.Grabber.Steps
import Evdevxx.Model.Scripted
import Evdevxx.Ownership.Handles
import Evdevxx.Uinput.Steps

/-!
# Uinputs — who holds the `libevdev_uinput` objects, and both kinds of handles together

`uinputHandles V` is the custody of the handles of `Uinput`.  A program that uses `Device`,
`Uinput` and `Grabber` moves the two ownership machines side by side: the actions on one class
leave the books of the other as they are.
-/

namespace Evdevxx

open Ledger (Entry Moves Balanced)

variable {σ : Type} {P : Platform σ} {V : Views σ}

def uinputEntry : Call → Option (Entry UinputHandle)
  | .libevdevUinputCreateFromDevice _ _ ret udev =>
      if ret < 0 then none else udev.map Entry.acquired
  | .libevdevUinputDestroy udev => some (.released udev)
  | _ => none

def uinputHandles (V : Views σ) : Custody σ UinputId UinputHandle Uinput where
  memory := Uinput.memory
  held := fun U => U.raw
  entry := uinputEntry
  inUse := fun s u => V.uinputs s u = true

theorem uinputHandles_lawful (V : Views σ) : (uinputHandles V).Lawful where
  get_set := fun _ _ _ => rfl
  get_called := fun _ _ _ => rfl
  log_set := fun _ _ _ => rfl
  env_set := fun _ _ _ => rfl
  get_init := fun _ => rfl

theorem isTrue_update {ρ : Type} [DecidableEq ρ] (f : ρ → Bool) (r : ρ) (b : Bool) :
    (fun r' => Function.update f r b r' = true) =
      Function.update (fun r' => f r' = true) r (b = true) :=
  Function.comp_update (· = true) f r b

namespace UinputHandles

variable {w : World σ} {u : UinputId} {U : Uinput} {loc : Option UinputHandle} {h : UinputHandle}

theorem heldAt_of_some (hU : w.uinputs u = some U) : (uinputHandles V).heldAt w u = U.raw := by
  simp [Custody.heldAt, uinputHandles, Uinput.memory, hU]

/-- Writes to an object that keep its handle. -/
theorem books_setUinput {X : Option Uinput} (hX : X.bind (·.raw) = (w.uinputs u).bind (·.raw)) :
    (uinputHandles V).books loc (w.setUinput u X) = (uinputHandles V).books loc w :=
  Custody.books_set_of_held (uinputHandles_lawful V) hX

/-- Calls that create and destroy nothing. -/
theorem books_called {c : Call} {s : σ} (hc : uinputEntry c = none)
    (hs : V.uinputs s = V.uinputs w.env) :
    (uinputHandles V).books loc (w.called c s) = (uinputHandles V).books loc w := by
  refine Custody.books_called_of_neutral (uinputHandles_lawful V) hc ?_
  funext h
  simp [uinputHandles, hs]

/-- `destroy` destroys the handle of the object. -/
theorem moves_udestroyed (hdoc : P.Documented V) (hU : w.uinputs u = some U) :
    Moves ((uinputHandles V).books loc w)
      ((uinputHandles V).books loc ((w.udestroyed P U.raw).setUinput u (some {}))) := by
  cases hraw : U.raw with
  | none =>
      have hsame : (uinputHandles V).books loc (w.setUinput u (some {})) =
          (uinputHandles V).books loc w := books_setUinput (by simp [hU, hraw])
      rw [World.udestroyed_none, hsame]
      exact Relation.ReflTransGen.refl
  | some h =>
      refine Relation.ReflTransGen.single ?_
      refine Custody.move_drop (uinputHandles_lawful V) (c := .libevdevUinputDestroy h)
        (X := some {}) ((heldAt_of_some hU).trans hraw) rfl ?_ rfl
      calc (fun h' => V.uinputs (P.libevdevUinputDestroy h w.env) h' = true)
          = fun h' => Function.update (V.uinputs w.env) h false h' = true := by
            rw [(hdoc.libevdevUinputDestroy h w.env).1]
        _ = Function.update (fun h' => V.uinputs w.env h' = true) h (false = true) :=
            isTrue_update _ _ _
        _ = Function.update (fun h' => V.uinputs w.env h' = true) h False := by simp

/-- A new handle, then `destroy` and `acquire`. -/
theorem moves_create (hdoc : P.Documented V) {dev : Handle} {fd : Fd} (hU : w.uinputs u = some U)
    (hok : 0 ≤ (P.libevdevUinputCreateFromDevice dev fd w.env).1.1) :
    let r := P.libevdevUinputCreateFromDevice dev fd w.env
    Moves ((uinputHandles V).books none w)
      ((uinputHandles V).books none
        (((w.called (.libevdevUinputCreateFromDevice dev fd r.1.1 r.1.2) r.2).udestroyed P
          U.raw).setUinput u (some { raw := r.1.2 }))) := by
  intro r
  rcases (hdoc.libevdevUinputCreateFromDevice dev fd w.env).2.1 hok with ⟨h, hdev, hfresh, hui⟩
  let w₁ := w.called (.libevdevUinputCreateFromDevice dev fd r.1.1 r.1.2) r.2
  have hentry : uinputEntry (.libevdevUinputCreateFromDevice dev fd r.1.1 r.1.2) =
      some (.acquired h) := by
    have hneg : ¬ r.1.1 < 0 := Int.not_lt.2 hok
    have hdev' : r.1.2 = some h := hdev
    simp [uinputEntry, hneg, hdev']
  have hgain : Ledger.Move ((uinputHandles V).books none w)
      ((uinputHandles V).books (some h) w₁) := by
    refine Custody.move_gain (uinputHandles_lawful V) hentry ?_ ?_
    · intro hused
      have htrue : V.uinputs w.env h = true := hused
      rw [hfresh] at htrue
      cases htrue
    · calc (fun h' => V.uinputs r.2 h' = true)
          = fun h' => Function.update (V.uinputs w.env) h true h' = true := by rw [hui]
        _ = Function.update (fun h' => V.uinputs w.env h' = true) h (true = true) :=
            isTrue_update _ _ _
        _ = Function.update (fun h' => V.uinputs w.env h' = true) h True := by simp
  -- The old handle is destroyed while the new one waits in a local variable.
  have hdrop : Moves ((uinputHandles V).books (some h) w₁)
      ((uinputHandles V).books (some h) ((w₁.udestroyed P U.raw).setUinput u (some {}))) :=
    moves_udestroyed hdoc hU
  have hempty : ((w₁.udestroyed P U.raw).setUinput u (some {})).uinputs u = some {} := by simp
  have hinstall : Ledger.Move
      ((uinputHandles V).books (some h) ((w₁.udestroyed P U.raw).setUinput u (some {})))
      ((uinputHandles V).books none
        (((w₁.udestroyed P U.raw).setUinput u (some {})).setUinput u (some { raw := r.1.2 }))) :=
    Custody.move_install (uinputHandles_lawful V) (heldAt_of_some hempty) hdev
  rw [World.setUinput_setUinput] at hinstall
  exact (hdrop.head hgain).tail hinstall

/-- `Device::destroy` on a live handle. -/
theorem books_disposed (hdoc : P.Documented V) {D : Device}
    (hlive : D.Live V w.env) :
    (uinputHandles V).books loc (w.disposed P D) = (uinputHandles V).books loc w := by
  have hfreed : (uinputHandles V).books loc (w.freed P D.raw) = (uinputHandles V).books loc w := by
    cases hraw : D.raw with
    | none => rfl
    | some p =>
        rcases hlive _ hraw with ⟨v, hv⟩
        exact books_called rfl (hdoc.libevdevFree p w.env v hv).2.2
  have hclosed : (uinputHandles V).books loc ((w.freed P D.raw).closed P D.ownedFd) =
      (uinputHandles V).books loc (w.freed P D.raw) := by
    unfold World.closed
    split
    · exact books_called rfl (hdoc.posixClose _ _).2.2
    · rfl
  calc (uinputHandles V).books loc (w.disposed P D)
      = (uinputHandles V).books loc (w.freed P D.raw) := hclosed
    _ = (uinputHandles V).books loc w := hfreed

end UinputHandles

/-! ## Both machines -/

/-- The two ownership machines follow the program. -/
def HandlesFollowed (V : Views σ) (s₀ : σ) (w : World σ) : Prop :=
  (deviceHandles V).Followed s₀ w ∧ (uinputHandles V).Followed s₀ w

namespace HandlesFollowed

variable {w : World σ} {s₀ : σ} {d : DeviceId} {D : Device} {h : Handle}

theorem live (hw : HandlesFollowed V s₀ w) (hD : w.devices d = some D) : D.Live V w.env :=
  DeviceHandles.live hw.1 hD

theorem books_udestroyed (hdoc : P.Documented V) {loc : Option Handle}
    {raw : Option UinputHandle} {u : UinputId} {X : Option Uinput} :
    (deviceHandles V).books loc ((w.udestroyed P raw).setUinput u X) =
      (deviceHandles V).books loc w := by
  cases raw with
  | none => rfl
  | some p => exact DeviceHandles.books_called_of_same rfl (hdoc.libevdevUinputDestroy p w.env).2

theorem grabCalled (hdoc : P.Documented V) (hw : HandlesFollowed V s₀ w)
    (hD : w.devices d = some D) (hraw : D.raw = some h) {mode : GrabMode} :
    HandlesFollowed V s₀ (w.grabCalled P h mode) := by
  -- `libevdev_grab` neither creates nor frees a handle of either kind.
  rcases hw.live hD _ hraw with ⟨v, hv⟩
  refine ⟨hw.1.same (DeviceHandles.books_grab hdoc hv mode), hw.2.same ?_⟩
  exact UinputHandles.books_called rfl (hdoc.libevdevGrab h mode w.env v hv).2.2.2

theorem deviceInvariant (hdoc : P.Documented V) (s₀ : σ) :
    DeviceInvariant P (fun _ _ => True) (HandlesFollowed V s₀) where
  birth := fun hw hfree => ⟨(DeviceHandles.deviceInvariant hdoc s₀).birth hw.1 hfree, hw.2⟩
  death := fun hw hD => ⟨(DeviceHandles.deviceInvariant hdoc s₀).death hw.1 hD, hw.2⟩
  dispose := by
    intro w d D hw hD hG
    refine ⟨(DeviceHandles.deviceInvariant hdoc s₀).dispose hw.1 hD hG, hw.2.same ?_⟩
    exact UinputHandles.books_disposed hdoc (hw.live hD)
  give := by
    intro w d s E hw hds hempty hE hG
    exact ⟨(DeviceHandles.deviceInvariant hdoc s₀).give hw.1 hds hempty hE hG, hw.2⟩
  create := by
    intro w d D w' hw hD hG hafter
    refine ⟨(DeviceHandles.deviceInvariant hdoc s₀).create hw.1 hD hG hafter, hw.2.same ?_⟩
    let w₁ := w.called (.libevdevNew (P.libevdevNew w.env).1) (P.libevdevNew w.env).2
    have hcall : (uinputHandles V).books none w₁ = (uinputHandles V).books none w :=
      UinputHandles.books_called rfl (hdoc.libevdevNew w.env).2.2
    rcases Device.after_create hD hafter with ⟨_, rfl⟩ | ⟨p, _, rfl⟩
    · exact hcall
    · exact (UinputHandles.books_disposed (w := w₁) hdoc ((hw.live hD).new hdoc)).trans hcall
  createFd := by
    intro w d D fd w' hw hD hG hafter
    refine ⟨(DeviceHandles.deviceInvariant hdoc s₀).createFd hw.1 hD hG hafter, hw.2.same ?_⟩
    let r := P.libevdevNewFromFd fd w.env
    let w₁ := w.called (.libevdevNewFromFd fd r.1.1 r.1.2) r.2
    have hcall : (uinputHandles V).books none w₁ = (uinputHandles V).books none w :=
      UinputHandles.books_called rfl (hdoc.uinputs_libevdevNewFromFd fd w.env)
    rcases Device.after_createFd hD hafter with ⟨_, rfl⟩ | ⟨_, rfl⟩
    · exact hcall
    · have hlive : D.Live V w₁.env := (hw.live hD).newFromFd hdoc fd
      exact (UinputHandles.books_disposed (w := w₁) hdoc hlive).trans hcall
  createPath := by
    intro w d D filename flags w' hw hD hG hafter
    refine ⟨(DeviceHandles.deviceInvariant hdoc s₀).createPath hw.1 hD hG hafter, hw.2.same ?_⟩
    let o := P.posixOpen filename flags w.env
    let r := P.libevdevNewFromFd o.1 o.2
    let w₁ := w.called (.posixOpen filename flags o.1 (P.errno o.2)) o.2
    let w₂ := w₁.called (.libevdevNewFromFd o.1 r.1.1 r.1.2) r.2
    have hopened : (uinputHandles V).books none w₁ = (uinputHandles V).books none w :=
      UinputHandles.books_called rfl (hdoc.posixOpen filename flags w.env).2.2
    have hcall : (uinputHandles V).books none w₂ = (uinputHandles V).books none w :=
      calc (uinputHandles V).books none w₂
          = (uinputHandles V).books none w₁ :=
            UinputHandles.books_called rfl (hdoc.uinputs_libevdevNewFromFd o.1 o.2)
        _ = (uinputHandles V).books none w := hopened
    rcases Device.after_createPath hD hafter with ⟨_, rfl⟩ | ⟨_, _, rfl⟩ | ⟨_, _, rfl⟩
    · exact hopened
    · exact (UinputHandles.books_called rfl (hdoc.posixClose _ _).2.2).trans hcall
    · have hlive : D.Live V w₂.env :=
        ((hw.live hD).opened hdoc filename flags).newFromFd hdoc o.1
      exact (UinputHandles.books_disposed (w := w₂) hdoc hlive).trans hcall
  openPath := by
    intro w d D filename flags w' hw hD hG hafter
    refine ⟨(DeviceHandles.deviceInvariant hdoc s₀).openPath hw.1 hD hG hafter, hw.2.same ?_⟩
    let o := P.posixOpen filename flags w.env
    let w₁ := w.called (.posixOpen filename flags o.1 (P.errno o.2)) o.2
    have hopened : (uinputHandles V).books none w₁ = (uinputHandles V).books none w :=
      UinputHandles.books_called rfl (hdoc.posixOpen filename flags w.env).2.2
    rcases Device.after_openPath hD hafter with ⟨_, rfl⟩ | ⟨_, _, rfl⟩ | ⟨p, hraw, _, _, rfl⟩
    · rfl
    · exact hopened
    · rcases hw.live hD _ hraw with ⟨v, hv⟩
      have hv₁ : V.evdevs o.2 p = some v :=
        hdoc.evdevs_posixOpen hv filename flags
      have hset := (hdoc.libevdevSetFd p o.1 o.2 v hv₁).2.2.2.2
      exact (UinputHandles.books_called (w := w₁) rfl hset).trans hopened
  setFd := by
    intro w d D fd w' hw hD hG hafter
    refine ⟨(DeviceHandles.deviceInvariant hdoc s₀).setFd hw.1 hD hG hafter, hw.2.same ?_⟩
    rcases Device.after_setFd hD hafter with ⟨p, hraw, rfl⟩
    rcases hw.live hD _ hraw with ⟨v, hv⟩
    exact UinputHandles.books_called rfl (hdoc.libevdevSetFd p fd w.env v hv).2.2.2.2
  changeFd := by
    intro w d D fd w' hw hD hG hafter
    refine ⟨(DeviceHandles.deviceInvariant hdoc s₀).changeFd hw.1 hD hG hafter, hw.2.same ?_⟩
    rcases Device.after_changeFd hD hafter with ⟨p, hraw, rfl⟩
    rcases hw.live hD _ hraw with ⟨v, hv⟩
    exact UinputHandles.books_called rfl (hdoc.libevdevChangeFd p fd w.env v hv).2.2.2
  constructDefault := fun _ _ _ => trivial
  constructFd := fun _ _ _ => trivial
  constructPath := fun _ _ _ => trivial
  moveConstruct := fun _ _ => trivial
  moveAssign := fun _ _ _ => ⟨trivial, trivial⟩
  destruct := fun _ => trivial

/-- The actions on `Uinput` objects leave the books of the devices as they are. -/
theorem uinputInvariant (hdoc : P.Documented V) (s₀ : σ) :
    UinputInvariant P (HandlesFollowed V s₀) where
  birth := fun hw hfree =>
    ⟨hw.1, hw.2.same (UinputHandles.books_setUinput (by simp [hfree]))⟩
  death := fun hw hU =>
    ⟨hw.1, hw.2.same (UinputHandles.books_setUinput (by simp [hU]))⟩
  dispose := by
    intro w u U hw hU
    refine ⟨hw.1.same ?_, hw.2.moves (UinputHandles.moves_udestroyed hdoc hU)⟩
    exact books_udestroyed hdoc
  give := by
    intro w u s E hw hus hempty hE
    refine ⟨hw.1, hw.2.moves ?_⟩
    exact Custody.moves_transfer (uinputHandles_lawful V) (Ne.symm hus) hE rfl
      (UinputHandles.heldAt_of_some hempty)
  create := by
    intro w u U dev fd w' hw hU hafter
    rcases Uinput.after_create hU hafter with ⟨D, p, _, _, ⟨hneg, rfl⟩ | ⟨hok, rfl⟩⟩
    · have hlaw := hdoc.libevdevUinputCreateFromDevice p fd w.env
      refine ⟨hw.1.same ?_, hw.2.same ?_⟩
      · exact DeviceHandles.books_called_of_same rfl hlaw.2.2
      · exact UinputHandles.books_called (by simp [uinputEntry, hneg]) (hlaw.1 hneg)
    · refine ⟨hw.1.same ?_, hw.2.moves (UinputHandles.moves_create hdoc hU hok)⟩
      have hlaw := hdoc.libevdevUinputCreateFromDevice p fd w.env
      exact (books_udestroyed hdoc).trans (DeviceHandles.books_called_of_same rfl hlaw.2.2)

/-- The actions on `Grabber` objects leave all the books as they are. -/
theorem grabberInvariant (hdoc : P.Documented V) (s₀ : σ) :
    GrabberInvariant P (fun _ _ => True) (HandlesFollowed V s₀) where
  birth := fun hw _ => hw
  death := fun hw _ => hw
  give := fun hw _ _ _ => hw
  hold := fun hw _ hD hraw _ _ => grabCalled hdoc hw hD hraw
  letGo := fun hw _ hD hraw _ _ => grabCalled hdoc hw hD hraw
  failed := fun hw hD hraw _ => grabCalled hdoc hw hD hraw
  moveAssign := fun _ _ => trivial
  destruct := fun _ => trivial

/-- Along every run of the three classes the two machines follow the program. -/
theorem run (hdoc : P.Documented V) {acts : List Act}
    (hrun : Run (step P) (World.init s₀) acts w) : HandlesFollowed V s₀ w := by
  have hstart : HandlesFollowed V s₀ (World.init s₀) :=
    ⟨Custody.Followed.init _ s₀, Custody.Followed.init _ s₀⟩
  refine hrun.invariant (HandlesFollowed V s₀) hstart fun w a w' hw hstep => ?_
  -- Each class has its own list of changes, and the invariant survives all three.
  cases a with
  | device a => exact (deviceInvariant hdoc s₀).step hw trivial hstep
  | uinput a => exact (uinputInvariant hdoc s₀).step hw hstep
  | grabber a => exact (grabberInvariant hdoc s₀).step hw trivial hstep

end HandlesFollowed

/-! ## Exactly-once release -/

/-- A moved-from `Device` is invalid, and a self-assignment changes nothing. -/
structure DeviceMovesEmpty (P : Platform σ) (w : World σ) : Prop where
  construct : ∀ d s w', d ≠ s → step P w (.device (.moveConstruct d s)) w' →
    ∃ E, w'.devices s = some E ∧ E.isValid = false
  assign : ∀ d s w', d ≠ s → step P w (.device (.moveAssign d s)) w' →
    ∃ E, w'.devices s = some E ∧ E.isValid = false
  self : ∀ d w', step P w (.device (.moveAssign d d)) w' → w' = w

/-- A moved-from `Uinput` is invalid, and a self-assignment changes nothing. -/
structure UinputMovesEmpty (P : Platform σ) (w : World σ) : Prop where
  construct : ∀ u s w', u ≠ s → step P w (.uinput (.moveConstruct u s)) w' →
    ∃ E, w'.uinputs s = some E ∧ E.isValid = false
  assign : ∀ u s w', u ≠ s → step P w (.uinput (.moveAssign u s)) w' →
    ∃ E, w'.uinputs s = some E ∧ E.isValid = false
  self : ∀ u w', step P w (.uinput (.moveAssign u u)) w' → w' = w

theorem deviceMovesEmpty (P : Platform σ) (w : World σ) : DeviceMovesEmpty P w where
  construct := by
    intro d s w' hds hstep
    cases Device.transferred_of_step (P := P) (a := .moveConstruct d s) trivial hstep with
    | born _ => exact absurd rfl hds
    | moved _ _ => exact ⟨{}, by simp [Ne.symm hds], rfl⟩
  assign := by
    intro d s w' hds hstep
    cases Device.transferred_of_step (a := .moveAssign d s) trivial hstep with
    | kept _ => exact absurd rfl hds
    | assigned _ _ _ => exact ⟨{}, by simp [Ne.symm hds], rfl⟩
  self := by
    intro d w' hstep
    cases Device.transferred_of_step (a := .moveAssign d d) trivial hstep with
    | kept _ => rfl
    | assigned _ hne _ => exact absurd rfl hne

theorem uinputMovesEmpty (P : Platform σ) (w : World σ) : UinputMovesEmpty P w where
  construct := by
    intro u s w' hus hstep
    cases Uinput.ended_of_step (P := P) (a := .moveConstruct u s) hstep with
    | bornFromSelf _ => exact absurd rfl hus
    | moved _ _ => exact ⟨{}, by simp [Ne.symm hus], rfl⟩
  assign := by
    intro u s w' hus hstep
    cases Uinput.ended_of_step (a := .moveAssign u s) hstep with
    | kept => exact absurd rfl hus
    | assigned _ _ _ => exact ⟨{}, by simp [Ne.symm hus], rfl⟩
  self := by
    intro u w' hstep
    cases Uinput.ended_of_step (a := .moveAssign u u) hstep with
    | kept => rfl
    | assigned _ hne _ => exact absurd rfl hne

/-- In every reachable world no two objects hold one native handle, every handle ever returned is
held by exactly one object or was freed exactly once, and moves leave their source invalid. -/
theorem native_handles_released_once (hdoc : P.Documented V) {s₀ : σ} {acts : List Act}
    {w : World σ} (hrun : Run (step P) (World.init s₀) acts w) :
    (deviceHandles V).ReleasedOnce w ∧ (uinputHandles V).ReleasedOnce w ∧
      DeviceMovesEmpty P w ∧ UinputMovesEmpty P w := by
  have hfollowed : HandlesFollowed V s₀ w := HandlesFollowed.run hdoc hrun
  have hdevices := hfollowed.1.balanced (deviceHandles_lawful V)
  have huinputs := hfollowed.2.balanced (uinputHandles_lawful V)
  exact ⟨Custody.releasedOnce_of_balanced hdevices, Custody.releasedOnce_of_balanced huinputs,
    deviceMovesEmpty P w, uinputMovesEmpty P w⟩

/-- A device, a virtual device made from it, a move, and both objects destroyed. -/
theorem native_handles_released_once_moved :
    ∃ w, Run (step Script.platform)
        (World.init { handles := [0], uhandles := [7] })
        [.device (.constructDefault 0), .uinput (.constructFrom 0 0 3),
          .device (.moveConstruct 1 0), .uinput (.destruct 0), .device (.destruct 1)] w ∧
      (deviceHandles Script.views).ReleasedOnce w ∧ (uinputHandles Script.views).ReleasedOnce w ∧
        DeviceMovesEmpty Script.platform w ∧ UinputMovesEmpty Script.platform w := by
  have hstart : Run (step Script.platform) (World.init { handles := [0], uhandles := [7] }) []
      (World.init { handles := [0], uhandles := [7] }) := Run.nil
  have hdevice := hstart.snoc (a := Act.device (.constructDefault 0)) rfl
  have huinput := hdevice.snoc (a := Act.uinput (.constructFrom 0 0 3)) rfl
  have hmove := huinput.snoc (a := Act.device (.moveConstruct 1 0)) rfl
  have hdestroy := hmove.snoc (a := Act.uinput (.destruct 0)) rfl
  have hrun := hdestroy.snoc (a := Act.device (.destruct 1)) rfl
  exact ⟨_, hrun, native_handles_released_once Script.documented hrun⟩

end Evdevxx
