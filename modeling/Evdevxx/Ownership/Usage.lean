import Evdevxx.Logic.Usage
import Evdevxx.Model.Scripted
import Evdevxx.Ownership.Uinputs

/-!
# Usage — no call is made on a handle that has been freed

Every handle that the library passes to `libevdev` was handed out before and has not been freed since.
The invariant is that of the ownership machines, and that whatever an object holds was acquired: so it
is outstanding, and a call may use it.
-/

namespace Evdevxx

open Ledger (Entry Outstanding Balanced UsedLive)

namespace Call

/-- The `libevdev*` that the call is given. -/
def handle : Call → Option Handle
  | .libevdevFree dev => some dev
  | .libevdevSetFd dev _ _ => some dev
  | .libevdevChangeFd dev _ _ => some dev
  | .libevdevGrab dev _ _ => some dev
  | .libevdevSetDeviceLogFunction dev _ _ => some dev
  | .libevdevUinputCreateFromDevice dev _ _ _ => some dev
  | _ => none

/-- The `libevdev_uinput*` that the call is given. -/
def uinputHandle : Call → Option UinputHandle
  | .libevdevUinputDestroy udev => some udev
  | _ => none

end Call

variable {σ : Type} {P : Platform σ} {V : Views σ}

/-! ## One class -/

namespace Custody

variable {ι ρ τ : Type}

/-- What an object holds was acquired, and what was used was outstanding. -/
structure Sound (C : Custody σ ι ρ τ) (uses : Call → Option ρ) (w : World σ) : Prop where
  acquired : ∀ i r, C.heldAt w i = some r → Entry.acquired r ∈ C.ledger w
  used : UsedLive C.entry uses w.log

section Sound

variable {C : Custody σ ι ρ τ} {uses : Call → Option ρ} {w : World σ} {i : ι} {r : ρ}
variable {c : Call} {s : σ} {X : Option τ} {loc : Option ρ}

theorem Sound.outstanding (h : C.Sound uses w) (hb : Balanced (C.books loc w))
    (hheld : C.heldAt w i = some r) : Outstanding (C.ledger w) r := by
  rcases hb.backed (i := some i) hheld with hout | hnever
  · exact hout
  · exact absurd (h.acquired i r hheld) hnever

variable [DecidableEq ι]

theorem Sound.called (hC : C.Lawful) (h : C.Sound uses w)
    (hc : ∀ r, uses c = some r → Outstanding (C.ledger w) r) : C.Sound uses (w.called c s) where
  acquired := by
    intro i r hheld
    rw [heldAt, hC.get_called] at hheld
    exact Ledger.acquired_called (h.acquired i r hheld) c
  used := ⟨hc, h.used⟩

/-- A write after which the object holds nothing, or what was acquired. -/
theorem Sound.set (hC : C.Lawful) (h : C.Sound uses w)
    (hX : ∀ r, X.bind C.held = some r → Entry.acquired r ∈ C.ledger w) :
    C.Sound uses (C.memory.set w i X) where
  acquired := by
    intro j r hheld
    rw [heldAt_set hC] at hheld
    rw [ledger, hC.log_set]
    by_cases hji : j = i
    · rw [if_pos hji] at hheld
      exact hX r hheld
    · rw [if_neg hji] at hheld
      exact h.acquired j r hheld
  used := by
    rw [hC.log_set]
    exact h.used

end Sound

end Custody

/-! ## Both classes -/

/-- The calls so far were sound, on the handles of both kinds. -/
structure CallsSound (V : Views σ) (w : World σ) : Prop where
  devices : (deviceHandles V).Sound Call.handle w
  uinputs : (uinputHandles V).Sound Call.uinputHandle w

namespace CallsSound

variable {w : World σ} {d : DeviceId} {D : Device} {u : UinputId} {U : Uinput} {c : Call}
variable {s s₀ : σ} {h : Handle}

theorem called (hw : CallsSound V w)
    (hdev : ∀ p, c.handle = some p → Outstanding ((deviceHandles V).ledger w) p)
    (hui : ∀ p, c.uinputHandle = some p → Outstanding ((uinputHandles V).ledger w) p) :
    CallsSound V (w.called c s) :=
  ⟨hw.devices.called (deviceHandles_lawful V) hdev, hw.uinputs.called (uinputHandles_lawful V) hui⟩

/-- A call on no handle. -/
theorem neutral (hw : CallsSound V w) (hc : c.handle = none) (hc' : c.uinputHandle = none) :
    CallsSound V (w.called c s) := by
  refine hw.called (fun p hp => ?_) fun p hp => ?_
  · rw [hc] at hp
    cases hp
  · rw [hc'] at hp
    cases hp

/-- A call on a `libevdev*`. -/
theorem onHandle (hw : CallsSound V w) (hc : c.handle = some h) (hc' : c.uinputHandle = none)
    (hout : Outstanding ((deviceHandles V).ledger w) h) : CallsSound V (w.called c s) := by
  refine hw.called (fun p hp => ?_) fun p hp => ?_
  · rw [hc, Option.some.injEq] at hp
    exact hp ▸ hout
  · rw [hc'] at hp
    cases hp

theorem setDevice (hw : CallsSound V w) {X : Option Device}
    (hX : ∀ p, X.bind (·.raw) = some p → Entry.acquired p ∈ (deviceHandles V).ledger w) :
    CallsSound V (w.setDevice d X) :=
  ⟨hw.devices.set (deviceHandles_lawful V) hX, ⟨hw.uinputs.acquired, hw.uinputs.used⟩⟩

/-- A write of an empty object, or the end of one. -/
theorem emptied (hw : CallsSound V w) {X : Option Device} (hX : X.bind (·.raw) = none) :
    CallsSound V (w.setDevice d X) := by
  refine hw.setDevice fun p hp => ?_
  rw [hX] at hp
  cases hp

theorem setUinput (hw : CallsSound V w) {X : Option Uinput}
    (hX : ∀ p, X.bind (·.raw) = some p → Entry.acquired p ∈ (uinputHandles V).ledger w) :
    CallsSound V (w.setUinput u X) :=
  ⟨⟨hw.devices.acquired, hw.devices.used⟩, hw.uinputs.set (uinputHandles_lawful V) hX⟩

theorem uemptied (hw : CallsSound V w) {X : Option Uinput} (hX : X.bind (·.raw) = none) :
    CallsSound V (w.setUinput u X) := by
  refine hw.setUinput fun p hp => ?_
  rw [hX] at hp
  cases hp

theorem setGrabber (hw : CallsSound V w) {g : GrabberId} {X : Option Grabber} :
    CallsSound V (w.setGrabber g X) :=
  ⟨⟨hw.devices.acquired, hw.devices.used⟩, ⟨hw.uinputs.acquired, hw.uinputs.used⟩⟩

/-- A valid object holds a handle that may be used. -/
theorem outstanding (hw : CallsSound V w) (hfollowed : HandlesFollowed V s₀ w)
    (hD : w.devices d = some D) (hraw : D.raw = some h) :
    Outstanding ((deviceHandles V).ledger w) h :=
  hw.devices.outstanding (DeviceHandles.balanced_of_followed hfollowed.1)
    ((DeviceHandles.heldAt_of_some hD).trans hraw)

theorem outstanding_posixOpen {path : String} {flags : BitVec 32} {ret errno : Int}
    (hout : Outstanding ((deviceHandles V).ledger w) h) :
    Outstanding ((deviceHandles V).ledger (w.called (.posixOpen path flags ret errno) s)) h :=
  Ledger.outstanding_called hout nofun

/-- `destroy` frees the handle of the object. -/
theorem disposed (hw : CallsSound V w)
    (hout : ∀ p, D.raw = some p → Outstanding ((deviceHandles V).ledger w) p) :
    CallsSound V (w.disposed P D) := by
  have hfreed : CallsSound V (w.freed P D.raw) := by
    cases hraw : D.raw with
    | none => exact hw
    | some p => exact hw.onHandle rfl rfl (hout p hraw)
  unfold World.disposed World.closed
  split
  · exact hfreed.neutral rfl rfl
  · exact hfreed

theorem acquired_disposed {e : Entry Handle} (he : e ∈ (deviceHandles V).ledger w) :
    e ∈ (deviceHandles V).ledger (w.disposed P D) := by
  rw [Custody.ledger, World.disposed_log, List.filterMap_append]
  exact List.mem_append_right _ he

theorem newFromFd_acquires {ret : Int} (hok : 0 ≤ ret) (fd : Fd) :
    (deviceHandles V).entry (.libevdevNewFromFd fd ret (some h)) = some (.acquired h) :=
  (if_neg (Int.not_lt.2 hok) : handleEntry (.libevdevNewFromFd fd ret (some h)) = _)

/-- A new handle, then `destroy` and `acquire`. -/
theorem replaced (hw : CallsSound V w)
    (hout : ∀ p, D.raw = some p → Outstanding ((deviceHandles V).ledger w) p)
    (hnew : (deviceHandles V).entry c = some (.acquired h))
    (hc : c.handle = none) (hc' : c.uinputHandle = none) (fd : Fd) :
    CallsSound V (((w.called c s).disposed P D).setDevice d
      (some { raw := some h, ownedFd := fd })) := by
  refine CallsSound.setDevice ((hw.neutral hc hc').disposed fun p hp => ?_) fun p hp => ?_
  · refine Ledger.outstanding_called (hout p hp) fun hrel => ?_
    rw [hnew] at hrel
    cases hrel
  · cases hp
    refine acquired_disposed ?_
    rw [Custody.ledger, World.called_log, List.filterMap_cons_some hnew]
    exact List.mem_cons_self

theorem uoutstanding (hw : CallsSound V w) (hfollowed : HandlesFollowed V s₀ w)
    (hU : w.uinputs u = some U) {p : UinputHandle} (hraw : U.raw = some p) :
    Outstanding ((uinputHandles V).ledger w) p :=
  hw.uinputs.outstanding (hfollowed.2.balanced (uinputHandles_lawful V))
    ((UinputHandles.heldAt_of_some hU).trans hraw)

/-- `destroy` destroys the handle of the object. -/
theorem udestroyed (hw : CallsSound V w)
    (hout : ∀ p, U.raw = some p → Outstanding ((uinputHandles V).ledger w) p) :
    CallsSound V (w.udestroyed P U.raw) := by
  cases hraw : U.raw with
  | none => exact hw
  | some p =>
      refine hw.called nofun fun p' hp' => ?_
      cases hp'
      exact hout p hraw

theorem acquired_udestroyed {e : Entry UinputHandle} {raw : Option UinputHandle}
    (he : e ∈ (uinputHandles V).ledger w) : e ∈ (uinputHandles V).ledger (w.udestroyed P raw) := by
  cases raw with
  | none => exact he
  | some p => exact Ledger.acquired_called he _

theorem createFromDevice_acquires {ret : Int} (hok : 0 ≤ ret) (h : Handle) (fd : Fd)
    (p : UinputHandle) :
    (uinputHandles V).entry (.libevdevUinputCreateFromDevice h fd ret (some p)) =
      some (.acquired p) :=
  (if_neg (Int.not_lt.2 hok) :
    uinputEntry (.libevdevUinputCreateFromDevice h fd ret (some p)) = _)

/-! ## The actions -/

theorem deviceInvariant (hdoc : P.Documented V) (s₀ : σ) :
    DeviceInvariant P (fun _ _ => True) fun w => HandlesFollowed V s₀ w ∧ CallsSound V w where
  birth := fun hw hfree =>
    ⟨(HandlesFollowed.deviceInvariant hdoc s₀).birth hw.1 hfree, hw.2.emptied rfl⟩
  death := fun hw hempty =>
    ⟨(HandlesFollowed.deviceInvariant hdoc s₀).death hw.1 hempty, hw.2.emptied rfl⟩
  dispose := by
    intro w d D hw hD hG
    refine ⟨(HandlesFollowed.deviceInvariant hdoc s₀).dispose hw.1 hD hG, ?_⟩
    exact (hw.2.disposed fun p hp => hw.2.outstanding hw.1 hD hp).emptied rfl
  give := by
    intro w d s E hw hds hempty hE hG
    refine ⟨(HandlesFollowed.deviceInvariant hdoc s₀).give hw.1 hds hempty hE hG, ?_⟩
    refine (hw.2.emptied rfl).setDevice fun p hp => ?_
    exact hw.2.devices.acquired s p ((DeviceHandles.heldAt_of_some hE).trans hp)
  create := by
    intro w d D w' hw hD hG hafter
    refine ⟨(HandlesFollowed.deviceInvariant hdoc s₀).create hw.1 hD hG hafter, ?_⟩
    rcases Device.after_create hD hafter with ⟨_, rfl⟩ | ⟨h, hnew, rfl⟩
    · exact hw.2.neutral rfl rfl
    · rw [hnew]
      exact hw.2.replaced (fun _ => hw.2.outstanding hw.1 hD) rfl rfl rfl _
  createFd := by
    intro w d D fd w' hw hD hG hafter
    refine ⟨(HandlesFollowed.deviceInvariant hdoc s₀).createFd hw.1 hD hG hafter, ?_⟩
    rcases Device.after_createFd hD hafter with ⟨_, rfl⟩ | ⟨hok, rfl⟩
    · exact hw.2.neutral rfl rfl
    · rcases (hdoc.libevdevNewFromFd fd w.env).2 hok with ⟨_, _, _, h, hdev, _, _⟩
      rw [hdev]
      exact hw.2.replaced (fun _ => hw.2.outstanding hw.1 hD) (newFromFd_acquires hok fd) rfl rfl _
  createPath := by
    intro w d D filename flags w' hw hD hG hafter
    refine ⟨(HandlesFollowed.deviceInvariant hdoc s₀).createPath hw.1 hD hG hafter, ?_⟩
    let o := P.posixOpen filename flags w.env
    have hopened : CallsSound V (w.called (.posixOpen filename flags o.1 (P.errno o.2)) o.2) :=
      hw.2.neutral rfl rfl
    rcases Device.after_createPath hD hafter with ⟨_, rfl⟩ | ⟨_, _, rfl⟩ | ⟨_, hok, rfl⟩
    · exact hopened
    · exact (hopened.neutral rfl rfl).neutral rfl rfl
    · rcases (hdoc.libevdevNewFromFd o.1 o.2).2 hok with ⟨_, _, _, h, hdev, _, _⟩
      rw [hdev]
      refine hopened.replaced (fun p hp => ?_) (newFromFd_acquires hok o.1) rfl rfl _
      exact outstanding_posixOpen (hw.2.outstanding hw.1 hD hp)
  openPath := by
    intro w d D filename flags w' hw hD hG hafter
    refine ⟨(HandlesFollowed.deviceInvariant hdoc s₀).openPath hw.1 hD hG hafter, ?_⟩
    let o := P.posixOpen filename flags w.env
    have hopened : CallsSound V (w.called (.posixOpen filename flags o.1 (P.errno o.2)) o.2) :=
      hw.2.neutral rfl rfl
    rcases Device.after_openPath hD hafter with ⟨_, rfl⟩ | ⟨_, _, rfl⟩ | ⟨p, hp, _, _, rfl⟩
    · exact hw.2
    · refine hopened.setDevice fun p hp => ?_
      exact Ledger.acquired_called (hw.2.devices.acquired d p
        ((DeviceHandles.heldAt_of_some hD).trans hp)) _
    · refine (hopened.onHandle (h := p) rfl rfl ?_).setDevice fun p hp => ?_
      · exact outstanding_posixOpen (hw.2.outstanding hw.1 hD hp)
      · exact Ledger.acquired_called (Ledger.acquired_called (hw.2.devices.acquired d p
          ((DeviceHandles.heldAt_of_some hD).trans hp)) _) _
  setFd := by
    intro w d D fd w' hw hD hG hafter
    refine ⟨(HandlesFollowed.deviceInvariant hdoc s₀).setFd hw.1 hD hG hafter, ?_⟩
    rcases Device.after_setFd hD hafter with ⟨p, hp, rfl⟩
    exact hw.2.onHandle rfl rfl (hw.2.outstanding hw.1 hD hp)
  changeFd := by
    intro w d D fd w' hw hD hG hafter
    refine ⟨(HandlesFollowed.deviceInvariant hdoc s₀).changeFd hw.1 hD hG hafter, ?_⟩
    rcases Device.after_changeFd hD hafter with ⟨p, hp, rfl⟩
    exact hw.2.onHandle rfl rfl (hw.2.outstanding hw.1 hD hp)
  constructDefault := fun _ _ _ => trivial
  constructFd := fun _ _ _ => trivial
  constructPath := fun _ _ _ => trivial
  moveConstruct := fun _ _ => trivial
  moveAssign := fun _ _ _ => ⟨trivial, trivial⟩
  destruct := fun _ => trivial

theorem uinputInvariant (hdoc : P.Documented V) (s₀ : σ) :
    UinputInvariant P fun w => HandlesFollowed V s₀ w ∧ CallsSound V w where
  birth := fun hw hfree =>
    ⟨(HandlesFollowed.uinputInvariant hdoc s₀).birth hw.1 hfree, hw.2.uemptied rfl⟩
  death := fun hw hempty =>
    ⟨(HandlesFollowed.uinputInvariant hdoc s₀).death hw.1 hempty, hw.2.uemptied rfl⟩
  dispose := by
    intro w u U hw hU
    refine ⟨(HandlesFollowed.uinputInvariant hdoc s₀).dispose hw.1 hU, ?_⟩
    exact (hw.2.udestroyed fun p hp => hw.2.uoutstanding hw.1 hU hp).uemptied rfl
  give := by
    intro w u s E hw hus hempty hE
    refine ⟨(HandlesFollowed.uinputInvariant hdoc s₀).give hw.1 hus hempty hE, ?_⟩
    refine (hw.2.uemptied rfl).setUinput fun p hp => ?_
    exact hw.2.uinputs.acquired s p ((UinputHandles.heldAt_of_some hE).trans hp)
  create := by
    intro w u U dev fd w' hw hU hafter
    refine ⟨(HandlesFollowed.uinputInvariant hdoc s₀).create hw.1 hU hafter, ?_⟩
    rcases Uinput.after_create hU hafter with ⟨D, h, hD, hraw, hend⟩
    have hcalled : ∀ {ret udev s}, CallsSound V
        (w.called (.libevdevUinputCreateFromDevice h fd ret udev) s) :=
      hw.2.onHandle rfl rfl (hw.2.outstanding hw.1 hD hraw)
    rcases hend with ⟨_, rfl⟩ | ⟨hok, rfl⟩
    · exact hcalled
    · rcases (hdoc.libevdevUinputCreateFromDevice h fd w.env).2.1 hok with ⟨p, hdev, _, _⟩
      rw [hdev]
      have hnew := createFromDevice_acquires (V := V) hok h fd p
      refine (hcalled.udestroyed fun p' hp' => ?_).setUinput fun p' hp' => ?_
      · refine Ledger.outstanding_called (hw.2.uoutstanding hw.1 hU hp') fun hrel => ?_
        rw [hnew] at hrel
        cases hrel
      · cases hp'
        refine acquired_udestroyed ?_
        rw [Custody.ledger, World.called_log, List.filterMap_cons_some hnew]
        exact List.mem_cons_self

theorem grabberInvariant (hdoc : P.Documented V) (s₀ : σ) :
    GrabberInvariant P (fun _ _ => True) fun w => HandlesFollowed V s₀ w ∧ CallsSound V w where
  birth := fun hw _ => ⟨hw.1, hw.2.setGrabber⟩
  death := fun hw _ => ⟨hw.1, hw.2.setGrabber⟩
  give := fun hw _ _ _ => ⟨hw.1, hw.2.setGrabber.setGrabber⟩
  hold := fun hw _ hD hraw _ _ => ⟨hw.1.grabCalled hdoc hD hraw,
    (hw.2.onHandle rfl rfl (hw.2.outstanding hw.1 hD hraw)).setGrabber⟩
  letGo := fun hw _ hD hraw _ _ => ⟨hw.1.grabCalled hdoc hD hraw,
    (hw.2.onHandle rfl rfl (hw.2.outstanding hw.1 hD hraw)).setGrabber⟩
  failed := fun hw hD hraw _ => ⟨hw.1.grabCalled hdoc hD hraw,
    hw.2.onHandle rfl rfl (hw.2.outstanding hw.1 hD hraw)⟩
  moveAssign := fun _ _ => trivial
  destruct := fun _ => trivial

theorem run (hdoc : P.Documented V) {acts : List Act}
    (hrun : Run (step P) (World.init s₀) acts w) : CallsSound V w := by
  have hstart : HandlesFollowed V s₀ (World.init s₀) ∧ CallsSound V (World.init s₀) :=
    ⟨⟨Custody.Followed.init _ s₀, Custody.Followed.init _ s₀⟩, ⟨nofun, trivial⟩, ⟨nofun, trivial⟩⟩
  refine (hrun.invariant (fun w => HandlesFollowed V s₀ w ∧ CallsSound V w) hstart
    fun w a w' hw hstep => ?_).2
  cases a with
  | device a => exact (deviceInvariant hdoc s₀).step hw trivial hstep
  | uinput a => exact (uinputInvariant hdoc s₀).step hw hstep
  | grabber a => exact (grabberInvariant hdoc s₀).step hw trivial hstep

end CallsSound

/-! ## Runs -/

/-- Along every run, whatever a call was given had been handed out before, and not freed since. -/
theorem handles_used_live (hdoc : P.Documented V) {s₀ : σ} {acts : List Act} {w : World σ}
    (hrun : Run (step P) (World.init s₀) acts w) {after before : List Call} {c : Call}
    (hlog : w.log = after ++ c :: before) :
    (∀ h, c.handle = some h → Outstanding (before.filterMap handleEntry) h) ∧
      ∀ h, c.uinputHandle = some h → Outstanding (before.filterMap uinputEntry) h := by
  have hsound := CallsSound.run hdoc hrun
  have hdev : UsedLive handleEntry Call.handle (after ++ c :: before) := hlog ▸ hsound.devices.used
  have hui : UsedLive uinputEntry Call.uinputHandle (after ++ c :: before) :=
    hlog ▸ hsound.uinputs.used
  exact ⟨fun _ => hdev.outstanding, fun _ => hui.outstanding⟩

/-- A device is grabbed, let go, moved, and destroyed while a `Uinput` made from it lives. -/
theorem handles_used_live_moved :
    ∃ w after before, Run (step Script.platform)
        (World.init { opens := [3], handles := [0], uhandles := [0], grabs := [0, 0] })
        [.device (.constructPath 0 "mouse" 0), .grabber (.constructFrom 0 0),
          .grabber (.destruct 0), .device (.moveConstruct 1 0), .uinput (.constructFrom 0 1 (-2)),
          .device (.destruct 1)] w ∧
      w.log = after ++ .libevdevFree 0 :: before ∧
      Outstanding (before.filterMap handleEntry) 0 := by
  have hstart : Run (step Script.platform)
      (World.init { opens := [3], handles := [0], uhandles := [0], grabs := [0, 0] }) []
      (World.init { opens := [3], handles := [0], uhandles := [0], grabs := [0, 0] }) := Run.nil
  have hopened := hstart.snoc (a := Act.device (.constructPath 0 "mouse" 0)) rfl
  have hgrabbed := hopened.snoc (a := Act.grabber (.constructFrom 0 0)) rfl
  have hlet := hgrabbed.snoc (a := Act.grabber (.destruct 0)) rfl
  have hmoved := hlet.snoc (a := Act.device (.moveConstruct 1 0)) rfl
  have hcreated := hmoved.snoc (a := Act.uinput (.constructFrom 0 1 (-2))) rfl
  have hrun := hcreated.snoc (a := Act.device (.destruct 1)) rfl
  refine ⟨_, [.posixClose 3], _, hrun, rfl, ?_⟩
  exact (handles_used_live Script.documented hrun
    (rfl : World.log _ = [Call.posixClose 3] ++ Call.libevdevFree 0 :: _)).1 0 rfl

end Evdevxx
