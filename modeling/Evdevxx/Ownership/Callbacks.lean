import Mathlib.Logic.Equiv.Basic
import Evdevxx.Device.Logging
import Evdevxx.Model.Scripted
import Evdevxx.Ownership.Uinputs

/-!
# Callbacks — which object the log callback of a handle points at

`create(LogLevel, int)` gives libevdev the address of the object it runs on, and `log_helper` casts
that address back.  The address stays with the handle (`EvdevView.logData`), while the moves take
the handle to another object and tell libevdev nothing.

* `LogConsistent` — every callback points at the object that holds its handle;
* `MovesLogged` — the actions after which one does not;
* `LogSound` — the invariant of the moves: the handles are live, no two objects share one, and the
  callbacks are consistent;
* `Unlogged` — the invariant of the whole program: since `create(LogLevel, int)` does not get as far as
  its call, no handle has a callback, and none that has one is moved.
-/

namespace Evdevxx

variable {σ : Type} {P : Platform σ} {V : Views σ}

/-! ## Consistency -/

/-- Every handle that an object holds is live, and no two objects hold the same one. -/
structure HandlesSound (V : Views σ) (w : World σ) : Prop where
  live : ∀ {d D}, w.devices d = some D → D.Live V w.env
  unique : ∀ {d d' h}, w.rawAt d = some h → w.rawAt d' = some h → d = d'

/-- The live handle `h` has a log callback that the program installed, with the data pointer `a`;
`create(LogLevel, int)` is what makes this call. -/
def Logs (V : Views σ) (w : World σ) (h : Handle) (a : DeviceId) : Prop :=
  (∃ v, V.evdevs w.env h = some v ∧ v.logData = some a) ∧
    ∃ priority, Call.libevdevSetDeviceLogFunction h priority a ∈ w.log

/-- The data pointer of the log callback of a handle is the address of the object that holds the
handle. -/
def LogConsistent (V : Views σ) (w : World σ) : Prop :=
  ∀ h a, Logs V w h a → w.rawAt a = some h

/-- The object at `s` holds a handle with a log callback. -/
def Logged (V : Views σ) (w : World σ) (s : DeviceId) : Prop :=
  ∃ h a, w.rawAt s = some h ∧ Logs V w h a

/-- A handle with a log callback is moved to another object: to a new one, or to one that exists. -/
def MovesLogged (V : Views σ) (w : World σ) : DeviceAct → Prop
  | .moveConstruct d s => w.devices d = none ∧ Logged V w s
  | .moveAssign d s => d ≠ s ∧ w.devices d ≠ none ∧ Logged V w s
  | _ => False

structure LogSound (V : Views σ) (w : World σ) : Prop where
  handles : HandlesSound V w
  consistent : LogConsistent V w

section Consistency

variable {w w' : World σ} {d s : DeviceId} {D E : Device} {h : Handle} {s₀ : σ}

/-- Every reachable world is sound. -/
theorem HandlesSound.of_run (hdoc : P.Documented V) {acts : List Act}
    (hrun : Run (step P) (World.init s₀) acts w) : HandlesSound V w where
  live := fun hD => (HandlesFollowed.run hdoc hrun).live hD
  unique := by
    intro d d' h hd hd'
    have hb := DeviceHandles.balanced_of_followed (HandlesFollowed.run hdoc hrun).1
    exact Option.some.inj (hb.unique (i := some d) (j := some d') hd hd')

/-- A world in which every callback is one of the world before, and its object holds the same handle as
before. -/
theorem LogConsistent.of_kept (hc : LogConsistent V w)
    (hkept : ∀ h a, Logs V w' h a → Logs V w h a ∧ (w.rawAt a = some h → w'.rawAt a = some h)) :
    LogConsistent V w' := by
  intro h a hlogs
  rcases hkept h a hlogs with ⟨hold, hraw⟩
  exact hraw (hc h a hold)

/-- Logged now, and so logged before. -/
theorem Logged.of_kept (hraw : w'.rawAt s = w.rawAt s)
    (hlogs : ∀ h a, Logs V w' h a → Logs V w h a) (hlogged : Logged V w' s) : Logged V w s := by
  rcases hlogged with ⟨h, a, hnow, ha⟩
  exact ⟨h, a, hraw.symm.trans hnow, hlogs h a ha⟩

/-- `destroy` leaves the callbacks of the other handles, and adds none. -/
theorem logs_disposed_iff (hdoc : P.Documented V) (hlive : D.Live V w.env) {a : DeviceId} :
    Logs V (w.disposed P D) h a ↔ Logs V w h a ∧ D.raw ≠ some h := by
  have hlog : ∀ priority, Call.libevdevSetDeviceLogFunction h priority a ∈ (w.disposed P D).log ↔
      Call.libevdevSetDeviceLogFunction h priority a ∈ w.log := by
    intro priority
    have hnot : Call.libevdevSetDeviceLogFunction h priority a ∉ D.disposal := by
      intro hmem
      rcases Device.eq_of_mem_disposal hmem with ⟨p, hfree⟩ | ⟨fd, hclose⟩
      · cases hfree
      · cases hclose
    rw [World.disposed_log, List.mem_append, or_iff_right hnot]
  constructor
  · rintro ⟨⟨v, hv, ha⟩, priority, hmem⟩
    rcases World.evdevs_of_disposed hdoc hlive hv with ⟨hold, hne⟩
    exact ⟨⟨⟨v, hold, ha⟩, priority, (hlog priority).1 hmem⟩, hne⟩
  · rintro ⟨⟨⟨v, hv, ha⟩, priority, hmem⟩, hne⟩
    exact ⟨⟨v, (World.evdevs_disposed hdoc hlive hne).trans hv, ha⟩, priority, (hlog priority).2 hmem⟩

end Consistency

/-! ## The elementary changes -/

section Changes

variable {w t : World σ} {d s : DeviceId} {D E : Device} {h : Handle} {X : Option Device}

theorem HandlesSound.liveAt (hs : HandlesSound V w) (hraw : w.rawAt d = some h) :
    ∃ v, V.evdevs w.env h = some v := by
  rcases Option.bind_eq_some_iff.1 hraw with ⟨D, hD, hDraw⟩
  exact hs.live hD h hDraw

/-- What another object holds is not the handle of this one. -/
theorem HandlesSound.raw_ne_of_ne (hs : HandlesSound V w) (hD : w.devices d = some D)
    (hne : s ≠ d) (hraw : w.rawAt s = some h) : D.raw ≠ some h := by
  intro hDraw
  exact hne (hs.unique hraw ((World.rawAt_of_some hD).trans hDraw))

/-- Whatever is held now was held before, by an object for each, and is still live. -/
theorem HandlesSound.of_held (hs : HandlesSound V w) {f : DeviceId → DeviceId}
    (hf : Function.Injective f) (hheld : ∀ d h, t.rawAt d = some h → w.rawAt (f d) = some h)
    (hlive : ∀ d h v, t.rawAt d = some h → V.evdevs w.env h = some v →
      ∃ v', V.evdevs t.env h = some v') : HandlesSound V t where
  live := by
    intro d D hD h hraw
    have hnow : t.rawAt d = some h := (World.rawAt_of_some hD).trans hraw
    rcases hs.liveAt (hheld d h hnow) with ⟨v, hv⟩
    exact hlive d h v hnow hv
  unique := by
    intro d d' h hd hd'
    exact hf (hs.unique (hheld d h hd) (hheld d' h hd'))

theorem World.rawAt_disposed_of_ne (hdev : t.devices = w.devices) (hne : s ≠ d) :
    ((t.disposed P D).setDevice d X).rawAt s = w.rawAt s := by
  rw [World.rawAt_setDevice_of_ne hne, World.rawAt_congr (World.disposed_devices P t D),
    World.rawAt_congr hdev]

/-! ### Births and deaths -/

/-- An object that holds nothing is born, or dies. -/
theorem LogSound.set (hI : LogSound V w) (hnone : w.rawAt d = none)
    (hX : X.bind (·.raw) = none) : LogSound V (w.setDevice d X) := by
  have hsame : ∀ d', (w.setDevice d X).rawAt d' = w.rawAt d' := by
    intro d'
    by_cases hdd : d' = d
    · subst hdd
      rw [World.rawAt_setDevice_self, hX, hnone]
    · exact World.rawAt_setDevice_of_ne hdd
  constructor
  · exact hI.handles.of_held Function.injective_id (fun d' q hq => (hsame d').symm.trans hq)
      fun _ _ v _ hv => ⟨v, hv⟩
  · exact hI.consistent.of_kept fun q a hlogs => ⟨hlogs, fun hraw => (hsame a).trans hraw⟩

/-! ### `destroy` -/

theorem HandlesSound.dispose (hdoc : P.Documented V) (hs : HandlesSound V w)
    (hD : w.devices d = some D) : HandlesSound V ((w.disposed P D).setDevice d (some {})) := by
  have hself : ((w.disposed P D).setDevice d (some {})).rawAt d = none := by simp
  refine hs.of_held Function.injective_id (fun d' q hq => ?_) fun d' q v hq hv => ?_
  · have hdd : d' ≠ d := ne_of_lives_of_free hq hself
    exact (World.rawAt_disposed_of_ne rfl hdd).symm.trans hq
  · -- Another object, and so another handle than the one that was freed.
    have hdd : d' ≠ d := ne_of_lives_of_free hq hself
    have hne := hs.raw_ne_of_ne hD hdd ((World.rawAt_disposed_of_ne rfl hdd).symm.trans hq)
    exact ⟨v, (World.evdevs_disposed hdoc (hs.live hD) hne).trans hv⟩

/-- The handle of the object is freed, and its callback is gone with it. -/
theorem LogSound.dispose (hdoc : P.Documented V) (hI : LogSound V w)
    (hD : w.devices d = some D) : LogSound V ((w.disposed P D).setDevice d (some {})) where
  handles := hI.handles.dispose hdoc hD
  consistent := by
    refine hI.consistent.of_kept fun q a hlogs => ?_
    rcases (logs_disposed_iff hdoc (hI.handles.live hD)).1 hlogs with ⟨hold, hne⟩
    refine ⟨hold, fun hraw => ?_⟩
    have had : a ≠ d := by
      intro heq
      rw [heq, World.rawAt_of_some hD] at hraw
      exact hne hraw
    exact (World.rawAt_disposed_of_ne rfl had).trans hraw

/-! ### Moves -/

/-- Exchanging the two objects leads back to the world before. -/
theorem HandlesSound.give (hs : HandlesSound V w) (hds : d ≠ s) (hE : w.devices s = some E) :
    HandlesSound V ((w.setDevice s (some {})).setDevice d (some E)) := by
  have hsource : ((w.setDevice s (some {})).setDevice d (some E)).rawAt s = none := by
    rw [World.rawAt_setDevice_of_ne (Ne.symm hds), World.rawAt_setDevice_self]
    rfl
  refine hs.of_held (Equiv.swap d s).injective (fun d' q hq => ?_) fun _ _ v _ hv => ⟨v, hv⟩
  have hds' : d' ≠ s := ne_of_lives_of_free hq hsource
  by_cases hdd : d' = d
  · subst hdd
    rw [World.rawAt_setDevice_self] at hq
    rw [Equiv.swap_apply_left, World.rawAt_of_some hE]
    exact hq
  · rw [World.rawAt_setDevice_of_ne hdd, World.rawAt_setDevice_of_ne hds'] at hq
    rw [Equiv.swap_apply_of_ne_of_ne hdd hds']
    exact hq

/-- A handle without a log callback goes to an object that holds none. -/
theorem LogSound.give (hI : LogSound V w) (hds : d ≠ s) (hnone : w.rawAt d = none)
    (hE : w.devices s = some E) (hplain : ¬ Logged V w s) :
    LogSound V ((w.setDevice s (some {})).setDevice d (some E)) where
  handles := hI.handles.give hds hE
  consistent := by
    refine hI.consistent.of_kept fun q a hlogs => ⟨hlogs, fun hraw => ?_⟩
    have hda : a ≠ d := ne_of_lives_of_free hraw hnone
    have hsa : a ≠ s := by
      intro heq
      rw [heq] at hraw
      exact hplain ⟨q, a, hraw, hlogs⟩
    rw [World.rawAt_setDevice_of_ne hda, World.rawAt_setDevice_of_ne hsa]
    exact hraw

end Changes

/-! ## Sequences of moves, `destroy` and destructors -/

section Transfers

variable {w w' : World σ} {a : DeviceAct}

/-- Without a handle with a callback being moved, everything stays consistent. -/
theorem LogSound.step (hdoc : P.Documented V) (hI : LogSound V w) (ha : a.IsTransfer)
    (hplain : ¬ MovesLogged V w a) (hstep : deviceStep P w a w') : LogSound V w' := by
  cases Device.transferred_of_step ha hstep with
  | @born d hfree => exact hI.set (World.rawAt_of_none hfree) rfl
  | @moved d s E hfree hE =>
      have hds : d ≠ s := (ne_of_lives_of_free hE hfree).symm
      have hborn := hI.set (X := some {}) (World.rawAt_of_none hfree) rfl
      have hsource : ¬ Logged V (w.setDevice d (some {})) s := by
        intro hlogged
        have hraw := World.rawAt_setDevice_of_ne (X := some {}) (w := w) (Ne.symm hds)
        exact hplain ⟨hfree, hlogged.of_kept hraw fun _ _ hlogs => hlogs⟩
      have hgive := hborn.give hds (by simp) (by simpa [Ne.symm hds] using hE) hsource
      rw [World.setDevice_comm _ _ hds, World.setDevice_setDevice] at hgive
      exact hgive
  | kept _ => exact hI
  | @assigned d s D E hD hds hE =>
      -- What is logged after the target was disposed of was logged before.
      have hsource : ¬ Logged V ((w.disposed P D).setDevice d (some {})) s := by
        intro hlogged
        have hraw : ((w.disposed P D).setDevice d (some {})).rawAt s = w.rawAt s :=
          World.rawAt_disposed_of_ne rfl (Ne.symm hds)
        have hlive : D.Live V w.env := hI.handles.live hD
        exact hplain ⟨hds, by simp [hD], hlogged.of_kept hraw fun _ _ hlogs =>
          ((logs_disposed_iff hdoc hlive).1 hlogs).1⟩
      have hgive := (hI.dispose hdoc hD).give hds (by simp) (by simpa [Ne.symm hds] using hE)
        hsource
      rw [World.setDevice_comm _ _ hds, World.setDevice_setDevice] at hgive
      exact hgive
  | emptied hD => exact hI.dispose hdoc hD
  | @died d D hD =>
      have hdeath := (hI.dispose hdoc hD).set (d := d) (X := none) (by simp) rfl
      rw [World.setDevice_setDevice] at hdeath
      exact hdeath

end Transfers

/-- The call installs a log callback. -/
def Call.installsLog : Call → Bool
  | .libevdevSetDeviceLogFunction _ _ _ => true
  | _ => false

/-- No log callback has been installed so far. -/
def Unlogged (w : World σ) : Prop :=
  ∀ c ∈ w.log, c.installsLog = false

namespace Unlogged

variable {w w' : World σ} {c : Call} {s : σ} {D : Device}

theorem called (h : Unlogged w) (hc : c.installsLog = false) : Unlogged (w.called c s) := by
  intro c' hmem
  rcases List.mem_cons.1 hmem with rfl | hold
  · exact hc
  · exact h c' hold

theorem setDevice (h : Unlogged w) (d : DeviceId) (X : Option Device) :
    Unlogged (w.setDevice d X) := h

theorem setGrabber (h : Unlogged w) (g : GrabberId) (X : Option Grabber) :
    Unlogged (w.setGrabber g X) := h

theorem disposed (h : Unlogged w) : Unlogged (w.disposed P D) := by
  intro c hmem
  rw [World.disposed_log] at hmem
  rcases List.mem_append.1 hmem with hnew | hold
  · rcases Device.eq_of_mem_disposal hnew with ⟨p, rfl⟩ | ⟨fd, rfl⟩
    · rfl
    · rfl
  · exact h c hold

theorem udestroyed (h : Unlogged w) (raw : Option UinputHandle) : Unlogged (w.udestroyed P raw) := by
  cases raw with
  | none => exact h
  | some u => exact h.called rfl

theorem deviceInvariant : DeviceInvariant P (fun _ _ => True) (Unlogged (σ := σ)) where
  birth := fun h _ => h
  death := fun h _ => h
  dispose := fun h _ _ => h.disposed
  give := fun h _ _ _ _ => h
  create := by
    intro w d D w' h hD _ hafter
    rcases Device.after_create hD hafter with ⟨_, rfl⟩ | ⟨p, _, rfl⟩
    · exact h.called rfl
    · exact (h.called rfl).disposed
  createFd := by
    intro w d D fd w' h hD _ hafter
    rcases Device.after_createFd hD hafter with ⟨_, rfl⟩ | ⟨_, rfl⟩
    · exact h.called rfl
    · exact (h.called rfl).disposed
  createPath := by
    intro w d D filename flags w' h hD _ hafter
    rcases Device.after_createPath hD hafter with ⟨_, rfl⟩ | ⟨_, _, rfl⟩ | ⟨_, _, rfl⟩
    · exact h.called rfl
    · exact ((h.called rfl).called rfl).called rfl
    · exact ((h.called rfl).called rfl).disposed
  openPath := by
    intro w d D filename flags w' h hD _ hafter
    rcases Device.after_openPath hD hafter with ⟨_, rfl⟩ | ⟨_, _, rfl⟩ | ⟨p, _, _, _, rfl⟩
    · exact h
    · exact (h.called rfl).setDevice _ _
    · exact ((h.called rfl).setDevice _ _).called rfl
  setFd := by
    intro w d D fd w' h hD _ hafter
    rcases Device.after_setFd hD hafter with ⟨p, _, rfl⟩
    exact h.called rfl
  changeFd := by
    intro w d D fd w' h hD _ hafter
    rcases Device.after_changeFd hD hafter with ⟨p, _, rfl⟩
    exact h.called rfl
  constructDefault := fun _ _ _ => trivial
  constructFd := fun _ _ _ => trivial
  constructPath := fun _ _ _ => trivial
  moveConstruct := fun _ _ => trivial
  moveAssign := fun _ _ _ => ⟨trivial, trivial⟩
  destruct := fun _ => trivial

theorem uinputInvariant : UinputInvariant P (Unlogged (σ := σ)) where
  birth := fun h _ => h
  death := fun h _ => h
  dispose := fun h _ => h.udestroyed _
  give := fun h _ _ _ => h
  create := by
    intro w u U dev fd w' h hU hafter
    rcases Uinput.after_create hU hafter with ⟨D, p, _, _, ⟨_, rfl⟩ | ⟨_, rfl⟩⟩
    · exact h.called rfl
    · exact (h.called rfl).udestroyed _

theorem grabberInvariant : GrabberInvariant P (fun _ _ => True) (Unlogged (σ := σ)) where
  birth := fun h _ => h
  death := fun h _ => h
  give := fun h _ _ _ => h
  hold := fun h _ _ _ _ _ => (h.called rfl).setGrabber _ _
  letGo := fun h _ _ _ _ _ => (h.called rfl).setGrabber _ _
  failed := fun h _ _ _ => h.called rfl
  moveAssign := fun _ _ => trivial
  destruct := fun _ => trivial

theorem step {a : Act} (h : Unlogged w) (hstep : Evdevxx.step P w a w') : Unlogged w' := by
  cases a with
  | device a => exact deviceInvariant.step h trivial hstep
  | uinput a => exact uinputInvariant.step h hstep
  | grabber a => exact grabberInvariant.step h trivial hstep

theorem run {s₀ : σ} {acts : List Act} (run : Run (Evdevxx.step P) (World.init s₀) acts w) :
    Unlogged w :=
  run.invariant Unlogged (fun _ hmem => absurd hmem List.not_mem_nil) fun _ _ _ h hs => h.step hs

end Unlogged

end Evdevxx
