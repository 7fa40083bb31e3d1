import Evdevxx.Grabber.Exceptions

/-!
# Coverage — which devices are grabbed, and which are held by a `Grabber`

A device has one grab flag, and a `Grabber` clears it without asking whether another one holds the
same device.  What remains true of every run is that a grabbed device is held by some live
`Grabber`; the converse needs that only the last holder lets go of a device (`LetsGoLast`).

The devices are left in peace while a `Grabber` refers to them (`Undisturbed`).
-/

namespace Evdevxx

variable {σ : Type} {P : Platform σ} {V : Views σ} {S : DeviceId → Prop}

/-- Some live `Grabber` holds the device. -/
def Held (w : World σ) (d : DeviceId) : Prop :=
  ∃ g, w.grabbers g = some { dev := some d }

/-- The device is valid and its grab flag is set. -/
def Grabbed (V : Views σ) (w : World σ) (d : DeviceId) : Prop :=
  grabState V w d = some true

/-- A device that is held is neither moved, assigned to, created anew, destroyed nor given another
descriptor by `change_fd`. -/
def DeviceAct.undisturbed (w : World σ) : DeviceAct → Prop
  | .moveConstruct _ s => ¬ Held w s
  | .moveAssign d s => d ≠ s → ¬ Held w d ∧ ¬ Held w s
  | .create d => ¬ Held w d
  | .createFd d _ => ¬ Held w d
  | .createPath d _ _ => ¬ Held w d
  | .changeFd d _ => ¬ Held w d
  | .destroy d => ¬ Held w d
  | .destruct d => ¬ Held w d
  | _ => True

def Undisturbed (w : World σ) : Act → Prop
  | .device a => a.undisturbed w
  | _ => True

/-- If `g` holds `d`, no other live `Grabber` does. -/
def SoleHolder (w : World σ) (g : GrabberId) (d : DeviceId) : Prop :=
  w.grabbers g = some { dev := some d } → ∀ g', w.grabbers g' = some { dev := some d } → g' = g

/-- If the action makes a `Grabber` let go of `d`, no other live `Grabber` holds `d`. -/
def GrabberAct.letsGoLast (d : DeviceId) (w : World σ) : GrabberAct → Prop
  | .moveAssign g s => g ≠ s → SoleHolder w g d
  | .ungrab g => SoleHolder w g d
  | .destruct g => SoleHolder w g d
  | _ => True

def LetsGoLast (d : DeviceId) (w : World σ) : Act → Prop
  | .grabber a => a.letsGoLast d w
  | _ => True

/-! ## Grab states -/

section GrabState

variable {w w' : World σ} {d : DeviceId} {D : Device} {h : Handle} {v : EvdevView}

theorem grabState_of_view (hD : w.devices d = some D) (hraw : D.raw = some h)
    (hv : V.evdevs w.env h = some v) : grabState V w d = some v.grabbed := by
  simp [grabState, hD, hraw, hv]

theorem grabState_of_none (hD : w.devices d = none) : grabState V w d = none := by
  simp [grabState, hD]

theorem grabState_of_invalid (hD : w.devices d = some D) (hraw : D.raw = none) :
    grabState V w d = none := by
  simp [grabState, hD, hraw]

/-- A device with the same handle, whose flag did not change. -/
theorem grabState_congr (hdev : (w'.devices d).bind (·.raw) = (w.devices d).bind (·.raw))
    (hev : ∀ h, (w.devices d).bind (·.raw) = some h →
      (V.evdevs w'.env h).map (·.grabbed) = (V.evdevs w.env h).map (·.grabbed)) :
    grabState V w' d = grabState V w d := by
  -- The state is read off the handle and the flag of that handle.
  have hread : ∀ w : World σ, grabState V w d =
      ((w.devices d).bind (·.raw)).bind fun h => (V.evdevs w.env h).map (·.grabbed) := by
    intro w
    simp [grabState, Option.bind_assoc]
  calc grabState V w' d
      = ((w.devices d).bind (·.raw)).bind fun h => (V.evdevs w'.env h).map (·.grabbed) := by
        rw [hread w', hdev]
    _ = ((w.devices d).bind (·.raw)).bind fun h => (V.evdevs w.env h).map (·.grabbed) := by
        cases hraw : (w.devices d).bind (·.raw) with
        | none => rfl
        | some h => exact hev h hraw
    _ = grabState V w d := (hread w).symm

end GrabState

/-! ## What the actions on devices do to the grab states -/

/-- The calls between `w` and `w'` leave the live handles alone, and no object was written. -/
structure KeepsViews (V : Views σ) (w w' : World σ) : Prop where
  devices : w'.devices = w.devices
  grabbers : w'.grabbers = w.grabbers
  views : ∀ {h v}, V.evdevs w.env h = some v → V.evdevs w'.env h = some v

/-- No `Grabber` changes, and a device whose grab state changes is not held and not grabbed. -/
structure DeviceFrame (V : Views σ) (w w' : World σ) : Prop where
  grabbers : w'.grabbers = w.grabbers
  states : ∀ d, grabState V w' d = grabState V w d ∨ (¬ Held w d ∧ ¬ Grabbed V w' d)

/-- A held device is valid, a grabbed device is held, and a held device that `S` names is
grabbed. -/
structure Covered (V : Views σ) (S : DeviceId → Prop) (w : World σ) : Prop where
  valid : ∀ {d}, Held w d → grabState V w d ≠ none
  held : ∀ {d}, Grabbed V w d → Held w d
  grabbed : ∀ {d}, S d → Held w d → Grabbed V w d

section Frames

variable {w w₁ w' : World σ} {d s : DeviceId} {D E : Device} {p : Handle} {s₀ : σ}

theorem held_congr (hgrab : w'.grabbers = w.grabbers) (d : DeviceId) : Held w' d ↔ Held w d := by
  simp [Held, hgrab]

theorem Covered.frame (h : Covered V S w) (hf : DeviceFrame V w w') : Covered V S w' where
  valid := by
    intro d hheld
    have hheld' : Held w d := (held_congr hf.grabbers d).1 hheld
    -- A device whose state changed is not held.
    rcases hf.states d with hsame | ⟨hnot, _⟩
    · rw [hsame]
      exact h.valid hheld'
    · exact absurd hheld' hnot
  held := by
    intro d hgrabbed
    rcases hf.states d with hsame | ⟨_, hnot⟩
    · have hgrabbed' : Grabbed V w d := hsame.symm.trans hgrabbed
      exact (held_congr hf.grabbers d).2 (h.held hgrabbed')
    · exact absurd hgrabbed hnot
  grabbed := by
    intro d hS hheld
    have hheld' : Held w d := (held_congr hf.grabbers d).1 hheld
    rcases hf.states d with hsame | ⟨hnot, _⟩
    · exact hsame.trans (h.grabbed hS hheld')
    · exact absurd hheld' hnot

theorem KeepsViews.frame (hw : HandlesFollowed V s₀ w) (hk : KeepsViews V w w') :
    DeviceFrame V w w' where
  grabbers := hk.grabbers
  states := by
    intro d
    refine Or.inl (grabState_congr (by rw [hk.devices]) fun h hraw => ?_)
    rcases DeviceHandles.views_of_raw hw.1 hraw with ⟨v, hv⟩
    rw [hk.views hv, hv]

/-- An empty object is born, or dies, or a write keeps the handle. -/
theorem frame_setDevice {X : Option Device} (hX : X.bind (·.raw) = (w.devices d).bind (·.raw)) :
    DeviceFrame V w (w.setDevice d X) where
  grabbers := rfl
  states := by
    intro d'
    refine Or.inl (grabState_congr ?_ fun _ _ => rfl)
    by_cases hdd : d' = d
    · subst hdd
      simpa using hX
    · simp [hdd]

/-- A device that is not held is disposed of, and may get another handle, which is not grabbed. -/
theorem frame_replaced (hdoc : P.Documented V) (hw : HandlesFollowed V s₀ w)
    (hD : w.devices d = some D) (hunheld : ¬ Held w d) {u : World σ} (hk : KeepsViews V w u)
    {X : Device} (hnew : ∀ q, X.raw = some q →
      D.raw ≠ some q ∧ ∃ v, V.evdevs u.env q = some v ∧ v.grabbed = false) :
    DeviceFrame V w ((u.disposed P D).setDevice d (some X)) := by
  -- The handle that is disposed of is still live in `u`.
  have hlive : D.Live V u.env := by
    intro q hraw
    rcases hw.live hD _ hraw with ⟨v, hv⟩
    exact ⟨v, hk.views hv⟩
  refine ⟨?_, fun d' => ?_⟩
  · simp [hk.grabbers]
  · by_cases hdd : d' = d
    · subst hdd
      refine Or.inr ⟨hunheld, fun hgrabbed => ?_⟩
      cases hq : X.raw with
      | none =>
          have hstate : grabState V ((u.disposed P D).setDevice d' (some X)) d' = none :=
            grabState_of_invalid (World.setDevice_devices_self _ _ _) hq
          rw [Grabbed, hstate] at hgrabbed
          cases hgrabbed
      | some q =>
          rcases hnew q hq with ⟨hne, v, hv, hclear⟩
          have hv' : V.evdevs ((u.disposed P D).setDevice d' (some X)).env q = some v :=
            (World.evdevs_disposed hdoc hlive hne).trans hv
          rw [Grabbed, grabState_of_view (World.setDevice_devices_self _ _ _) hq hv', hclear]
            at hgrabbed
          cases hgrabbed
    · refine Or.inl (grabState_congr ?_ fun h hraw => ?_)
      · simp [hdd, hk.devices]
      · -- Another device, with another handle.
        rcases DeviceHandles.views_of_raw hw.1 hraw with ⟨v, hv⟩
        have hne : D.raw ≠ some h := fun hDraw => DeviceHandles.handle_ne hw.1 hdd hD hDraw h hraw rfl
        have hev : V.evdevs ((u.disposed P D).setDevice d (some X)).env h =
            V.evdevs u.env h := World.evdevs_disposed hdoc hlive hne
        rw [hev, hk.views hv, hv]

/-- What a device holds goes to an empty one; neither is held by a `Grabber`. -/
theorem frame_give (hc : Covered V S w) (hds : d ≠ s) (hempty : w.devices d = some {})
    (hE : w.devices s = some E) (hunheld : ¬ Held w s) :
    DeviceFrame V w ((w.setDevice s (some {})).setDevice d (some E)) where
  grabbers := rfl
  states := by
    intro d'
    by_cases hdd : d' = d
    · subst hdd
      -- An empty object is invalid, and a held one is not.
      have hnot : ¬ Held w d' := fun hheld =>
        hc.valid hheld (grabState_of_invalid hempty rfl)
      have hsame : grabState V ((w.setDevice s (some {})).setDevice d' (some E)) d' =
          grabState V w s := by
        simp [grabState, hE]
      -- If it were grabbed now, the source would have been grabbed, and so held.
      refine Or.inr ⟨hnot, fun hgrabbed => hunheld (hc.held ?_)⟩
      rw [Grabbed, hsame] at hgrabbed
      exact hgrabbed
    · by_cases hds' : d' = s
      · subst hds'
        have hinvalid : grabState V ((w.setDevice d' (some {})).setDevice d (some E)) d' =
            none := grabState_of_invalid (D := {}) (by simp [hdd]) rfl
        refine Or.inr ⟨hunheld, fun hgrabbed => ?_⟩
        rw [Grabbed, hinvalid] at hgrabbed
        cases hgrabbed
      · refine Or.inl (grabState_congr ?_ fun _ _ => rfl)
        simp [hdd, hds']

/-- A call that changes at most the descriptor of a handle. -/
theorem frame_reconfigured {v v' : EvdevView} (hdev : w'.devices = w.devices)
    (hgrab : w'.grabbers = w.grabbers) (hv : V.evdevs w.env p = some v)
    (hev : V.evdevs w'.env = Function.update (V.evdevs w.env) p (some v'))
    (hsame : v'.grabbed = v.grabbed) : DeviceFrame V w w' where
  grabbers := hgrab
  states := by
    intro d
    refine Or.inl (grabState_congr (by rw [hdev]) fun h _ => ?_)
    by_cases hhp : h = p
    · subst hhp
      simp [hev, hv, hsame]
    · rw [hev, Function.update_of_ne hhp]

theorem KeepsViews.trans (h : KeepsViews V w w₁) (h' : KeepsViews V w₁ w') :
    KeepsViews V w w' where
  devices := h'.devices.trans h.devices
  grabbers := h'.grabbers.trans h.grabbers
  views := fun hv => h'.views (h.views hv)

theorem keepsViews_udestroyed (hdoc : P.Documented V) (w : World σ) (raw : Option UinputHandle)
    (u : UinputId) (X : Option Uinput) : KeepsViews V w ((w.udestroyed P raw).setUinput u X) := by
  cases raw with
  | none => exact ⟨rfl, rfl, fun hv => hv⟩
  | some p =>
      refine ⟨rfl, rfl, fun hv => ?_⟩
      exact (congrFun (hdoc.libevdevUinputDestroy p w.env).2 _).trans hv

theorem DeviceFrame.refl (V : Views σ) (w : World σ) : DeviceFrame V w w where
  grabbers := rfl
  states := fun _ => Or.inl rfl

/-- A write that keeps the handle, after calls that change no object. -/
theorem DeviceFrame.write (hf : DeviceFrame V w w₁) {X : Option Device}
    (hX : X.bind (·.raw) = (w₁.devices d).bind (·.raw)) : DeviceFrame V w (w₁.setDevice d X) where
  grabbers := hf.grabbers
  states := by
    intro d'
    have hsame : grabState V (w₁.setDevice d X) d' = grabState V w₁ d' := by
      refine grabState_congr ?_ fun _ _ => rfl
      by_cases hdd : d' = d
      · subst hdd
        simpa using hX
      · simp [hdd]
    rw [Grabbed, hsame]
    exact hf.states d'

/-- A new handle is not the one that is disposed of, and its device is not grabbed. -/
theorem frame_fresh (hw : HandlesFollowed V s₀ w) (hD : w.devices d = some D) {t : σ}
    {v : EvdevView} (hfresh : V.evdevs w.env p = none)
    (hev : V.evdevs t = Function.update (V.evdevs w.env) p (some v))
    (hclear : v.grabbed = false) :
    D.raw ≠ some p ∧ ∃ v, V.evdevs t p = some v ∧ v.grabbed = false := by
  exact ⟨(hw.live hD).raw_ne hfresh, v, by simp [hev], hclear⟩

/-- `libevdev_set_fd` does not touch the grab flag. -/
theorem frame_setFd {v : EvdevView} {c : Call} {fd ret : Int} {t : σ}
    (hv : V.evdevs w.env p = some v)
    (hfail : ret < 0 → V.evdevs t = V.evdevs w.env)
    (hok : 0 ≤ ret → V.evdevs t =
      Function.update (V.evdevs w.env) p (some { v with fd := fd, initialized := true }))
    (hdev : w₁.devices = w.devices) (hgrab : w₁.grabbers = w.grabbers) :
    DeviceFrame V w (w₁.called c t) := by
  by_cases hneg : ret < 0
  · refine ⟨hgrab, fun d => Or.inl (grabState_congr ?_ fun h _ => ?_)⟩
    · rw [World.called_devices, hdev]
    · rw [World.called_env, hfail hneg]
  · exact frame_reconfigured hdev hgrab hv (hok (Int.not_lt.1 hneg)) rfl

/-- `libevdev_change_fd` may clear the grab flag of a device that no `Grabber` holds. -/
theorem frame_changeFd (hdoc : P.Documented V) (hw : HandlesFollowed V s₀ w) (hc : Covered V S w)
    (hD : w.devices d = some D) (hraw : D.raw = some p) (hunheld : ¬ Held w d) (fd : Fd) :
    DeviceFrame V w (w.called (.libevdevChangeFd p fd (P.libevdevChangeFd p fd w.env).1)
      (P.libevdevChangeFd p fd w.env).2) := by
  rcases hw.live hD _ hraw with ⟨v, hv⟩
  rcases hdoc.libevdevChangeFd p fd w.env v hv with ⟨hok, hfail, _, _⟩
  by_cases hzero : (P.libevdevChangeFd p fd w.env).1 = 0
  · rcases hok hzero with ⟨_, g, hg, hev⟩
    -- The device was not grabbed, since no `Grabber` holds it.
    have hclear : v.grabbed = false := by
      cases hset : v.grabbed with
      | false => rfl
      | true =>
          have hgrabbed : Grabbed V w d := by
            rw [Grabbed, grabState_of_view hD hraw hv, hset]
          exact absurd (hc.held hgrabbed) hunheld
    have hgclear : g = v.grabbed := by
      cases g with
      | true => exact (hg rfl).symm
      | false => exact hclear.symm
    exact frame_reconfigured rfl rfl hv hev hgclear
  · refine ⟨rfl, fun d' => Or.inl (grabState_congr rfl fun h _ => ?_)⟩
    rw [World.called_env, hfail hzero]

end Frames

/-! ## The invariant -/

/-- The handles are live, and the devices are covered. -/
structure Tended (V : Views σ) (s₀ : σ) (S : DeviceId → Prop) (w : World σ) : Prop where
  handles : HandlesFollowed V s₀ w
  covered : Covered V S w

namespace Tended

variable {w w' : World σ} {s₀ : σ}

theorem frame (ht : Tended V s₀ S w) (hw' : HandlesFollowed V s₀ w') (hf : DeviceFrame V w w') :
    Tended V s₀ S w' where
  handles := hw'
  covered := ht.covered.frame hf

/-- The actions on devices leave the held ones in peace. -/
theorem deviceInvariant (hdoc : P.Documented V) (s₀ : σ) (S : DeviceId → Prop) :
    DeviceInvariant P DeviceAct.undisturbed (Tended V s₀ S) where
  birth := by
    intro w d ht hfree
    refine ht.frame ((HandlesFollowed.deviceInvariant hdoc s₀).birth ht.handles hfree) ?_
    exact frame_setDevice (by simp [hfree])
  death := by
    intro w d ht hD
    refine ht.frame ((HandlesFollowed.deviceInvariant hdoc s₀).death ht.handles hD) ?_
    exact frame_setDevice (by simp [hD])
  dispose := by
    intro w d D ht hD hunheld
    refine ht.frame
      ((HandlesFollowed.deviceInvariant hdoc s₀).dispose ht.handles hD trivial) ?_
    have hsame : KeepsViews V w w := ⟨rfl, rfl, fun hv => hv⟩
    exact frame_replaced hdoc ht.handles hD hunheld hsame (X := {}) fun q hq => by cases hq
  give := by
    intro w d s E ht hds hempty hE hunheld
    refine ht.frame
      ((HandlesFollowed.deviceInvariant hdoc s₀).give ht.handles hds hempty hE trivial) ?_
    exact frame_give ht.covered hds hempty hE hunheld
  create := by
    intro w d D w' ht hD hunheld hafter
    refine ht.frame
      ((HandlesFollowed.deviceInvariant hdoc s₀).create ht.handles hD trivial hafter) ?_
    have hkeeps : KeepsViews V w (w.called (.libevdevNew (P.libevdevNew w.env).1)
        (P.libevdevNew w.env).2) := ⟨rfl, rfl, fun hv => hdoc.evdevs_libevdevNew hv⟩
    rcases Device.after_create hD hafter with ⟨_, rfl⟩ | ⟨p, hp, rfl⟩
    · exact hkeeps.frame ht.handles
    · refine frame_replaced hdoc ht.handles hD hunheld hkeeps fun q hq => ?_
      cases hq
      have hlaw := (hdoc.libevdevNew w.env).1
      simp only [hp] at hlaw
      exact frame_fresh ht.handles hD hlaw.1 hlaw.2 rfl
  createFd := by
    intro w d D fd w' ht hD hunheld hafter
    refine ht.frame
      ((HandlesFollowed.deviceInvariant hdoc s₀).createFd ht.handles hD trivial hafter) ?_
    let r := P.libevdevNewFromFd fd w.env
    have hkeeps : KeepsViews V w (w.called (.libevdevNewFromFd fd r.1.1 r.1.2) r.2) :=
      ⟨rfl, rfl, fun hv => hdoc.evdevs_libevdevNewFromFd hv fd⟩
    rcases Device.after_createFd hD hafter with ⟨_, rfl⟩ | ⟨hok, rfl⟩
    · exact hkeeps.frame ht.handles
    · refine frame_replaced hdoc ht.handles hD hunheld hkeeps fun q hq => ?_
      rcases (hdoc.libevdevNewFromFd fd w.env).2 hok with ⟨_, _, _, p, hp, hfresh, hev⟩
      have hpq : p = q := Option.some.inj (hp.symm.trans hq)
      subst hpq
      exact frame_fresh ht.handles hD hfresh hev rfl
  createPath := by
    intro w d D filename flags w' ht hD hunheld hafter
    refine ht.frame
      ((HandlesFollowed.deviceInvariant hdoc s₀).createPath ht.handles hD trivial hafter) ?_
    let o := P.posixOpen filename flags w.env
    let r := P.libevdevNewFromFd o.1 o.2
    let w₁ := w.called (.posixOpen filename flags o.1 (P.errno o.2)) o.2
    let w₂ := w₁.called (.libevdevNewFromFd o.1 r.1.1 r.1.2) r.2
    have hopened : V.evdevs o.2 = V.evdevs w.env := (hdoc.posixOpen filename flags w.env).2.1
    have hkeeps₁ : KeepsViews V w w₁ := ⟨rfl, rfl, fun hv => (congrFun hopened _).trans hv⟩
    have hkeeps₂ : KeepsViews V w w₂ :=
      ⟨rfl, rfl, fun hv => hdoc.evdevs_libevdevNewFromFd (hkeeps₁.views hv) o.1⟩
    rcases Device.after_createPath hD hafter with ⟨_, rfl⟩ | ⟨_, _, rfl⟩ | ⟨_, hok, rfl⟩
    · exact hkeeps₁.frame ht.handles
    · have hclosed : KeepsViews V w
          (w₂.called (.posixClose o.1) (P.posixClose o.1 r.2)) := by
        refine ⟨rfl, rfl, fun hv => ?_⟩
        exact (congrFun (hdoc.posixClose o.1 r.2).2.1 _).trans (hkeeps₂.views hv)
      exact hclosed.frame ht.handles
    · refine frame_replaced (u := w₂) hdoc ht.handles hD hunheld hkeeps₂ fun q hq => ?_
      rcases (hdoc.libevdevNewFromFd o.1 o.2).2 hok with ⟨_, _, _, p, hp, hfresh, hev⟩
      have hpq : p = q := Option.some.inj (hp.symm.trans hq)
      subst hpq
      rw [hopened] at hfresh hev
      exact frame_fresh ht.handles hD hfresh hev rfl
  openPath := by
    intro w d D filename flags w' ht hD _ hafter
    refine ht.frame
      ((HandlesFollowed.deviceInvariant hdoc s₀).openPath ht.handles hD trivial hafter) ?_
    let o := P.posixOpen filename flags w.env
    let w₁ := w.called (.posixOpen filename flags o.1 (P.errno o.2)) o.2
    have hopened : V.evdevs o.2 = V.evdevs w.env := (hdoc.posixOpen filename flags w.env).2.1
    have hkeeps : KeepsViews V w w₁ := ⟨rfl, rfl, fun hv => (congrFun hopened _).trans hv⟩
    rcases Device.after_openPath hD hafter with ⟨_, rfl⟩ | ⟨_, _, rfl⟩ | ⟨p, hraw, _, _, rfl⟩
    · exact DeviceFrame.refl V _
    · exact (hkeeps.frame ht.handles).write (by simp [w₁, hD])
    · rcases ht.handles.live hD _ hraw with ⟨v, hv⟩
      have hset : DeviceFrame V w (w₁.called (.libevdevSetFd p o.1 (P.libevdevSetFd p o.1 o.2).1)
          (P.libevdevSetFd p o.1 o.2).2) := by
        have hlaw := hdoc.libevdevSetFd p o.1 o.2 v ((congrFun hopened p).trans hv)
        rw [hopened] at hlaw
        exact frame_setFd hv hlaw.2.1 hlaw.2.2.1 rfl rfl
      exact hset.write (by simp [w₁, hD])
  setFd := by
    intro w d D fd w' ht hD _ hafter
    refine ht.frame
      ((HandlesFollowed.deviceInvariant hdoc s₀).setFd ht.handles hD trivial hafter) ?_
    rcases Device.after_setFd hD hafter with ⟨p, hraw, rfl⟩
    rcases ht.handles.live hD _ hraw with ⟨v, hv⟩
    have hlaw := hdoc.libevdevSetFd p fd w.env v hv
    exact frame_setFd hv hlaw.2.1 hlaw.2.2.1 rfl rfl
  changeFd := by
    intro w d D fd w' ht hD hunheld hafter
    refine ht.frame
      ((HandlesFollowed.deviceInvariant hdoc s₀).changeFd ht.handles hD trivial hafter) ?_
    rcases Device.after_changeFd hD hafter with ⟨p, hraw, rfl⟩
    exact frame_changeFd hdoc ht.handles ht.covered hD hraw hunheld fd
  constructDefault := fun ht hfree _ hheld =>
    ht.covered.valid hheld (grabState_of_none hfree)
  constructFd := fun ht hfree _ hheld => ht.covered.valid hheld (grabState_of_none hfree)
  constructPath := fun ht hfree _ hheld => ht.covered.valid hheld (grabState_of_none hfree)
  moveConstruct := fun _ hunheld => hunheld
  moveAssign := by
    intro w d s D hds _ hunheld
    refine ⟨(hunheld hds).1, fun hheld => (hunheld hds).2 ?_⟩
    exact (held_congr (by simp) s).1 hheld
  destruct := fun hunheld => hunheld

/-- The actions on `Uinput` objects change nothing here. -/
theorem uinputInvariant (hdoc : P.Documented V) (s₀ : σ) (S : DeviceId → Prop) :
    UinputInvariant P (Tended V s₀ S) where
  birth := by
    intro w u ht hfree
    have hkeeps : KeepsViews V w (w.setUinput u (some {})) := ⟨rfl, rfl, fun hv => hv⟩
    exact ht.frame ((HandlesFollowed.uinputInvariant hdoc s₀).birth ht.handles hfree)
      (hkeeps.frame ht.handles)
  death := by
    intro w u ht hU
    have hkeeps : KeepsViews V w (w.setUinput u none) := ⟨rfl, rfl, fun hv => hv⟩
    exact ht.frame ((HandlesFollowed.uinputInvariant hdoc s₀).death ht.handles hU)
      (hkeeps.frame ht.handles)
  dispose := by
    intro w u U ht hU
    exact ht.frame ((HandlesFollowed.uinputInvariant hdoc s₀).dispose ht.handles hU)
      ((keepsViews_udestroyed hdoc w U.raw u (some {})).frame ht.handles)
  give := by
    intro w u s E ht hus hempty hE
    have hkeeps : KeepsViews V w ((w.setUinput s (some {})).setUinput u (some E)) :=
      ⟨rfl, rfl, fun hv => hv⟩
    exact ht.frame ((HandlesFollowed.uinputInvariant hdoc s₀).give ht.handles hus hempty hE)
      (hkeeps.frame ht.handles)
  create := by
    intro w u U dev fd w' ht hU hafter
    refine ht.frame ((HandlesFollowed.uinputInvariant hdoc s₀).create ht.handles hU hafter) ?_
    rcases Uinput.after_create hU hafter with ⟨D, p, _, _, hend⟩
    let r := P.libevdevUinputCreateFromDevice p fd w.env
    let w₁ := w.called (.libevdevUinputCreateFromDevice p fd r.1.1 r.1.2) r.2
    have hev : V.evdevs r.2 = V.evdevs w.env :=
      (hdoc.libevdevUinputCreateFromDevice p fd w.env).2.2
    have hkeeps : KeepsViews V w w₁ := ⟨rfl, rfl, fun hv => (congrFun hev _).trans hv⟩
    rcases hend with ⟨_, rfl⟩ | ⟨_, rfl⟩
    · exact hkeeps.frame ht.handles
    · have hdestroyed := keepsViews_udestroyed hdoc w₁ U.raw u (some { raw := r.1.2 })
      exact (hkeeps.trans hdestroyed).frame ht.handles

end Tended

/-! ## What the actions on grabbers do -/

section Grabbers

variable {w w' : World σ} {g s : GrabberId} {d d' : DeviceId} {D : Device} {h : Handle} {s₀ : σ}

theorem Covered.same (hc : Covered V S w) (hheld : ∀ d, Held w' d ↔ Held w d)
    (hstate : ∀ d, grabState V w' d = grabState V w d) : Covered V S w' where
  valid := by
    intro d hd
    rw [hstate d]
    exact hc.valid ((hheld d).1 hd)
  held := by
    intro d hd
    exact (hheld d).2 (hc.held ((hstate d).symm.trans hd))
  grabbed := by
    intro d hS hd
    exact (hstate d).trans (hc.grabbed hS ((hheld d).1 hd))

/-- An object that holds no device, before and after. -/
theorem held_setGrabber {X : Option Grabber} (hold : ∀ d, w.grabbers g ≠ some { dev := some d })
    (hnew : ∀ d, X ≠ some { dev := some d }) (d : DeviceId) :
    Held (w.setGrabber g X) d ↔ Held w d := by
  constructor
  · rintro ⟨g', hg'⟩
    have hne : g' ≠ g := by
      intro heq
      subst heq
      exact hnew d (by simpa using hg')
    exact ⟨g', by simpa [hne] using hg'⟩
  · rintro ⟨g', hg'⟩
    have hne : g' ≠ g := by
      intro heq
      subst heq
      exact hold d hg'
    exact ⟨g', by simpa [hne] using hg'⟩

/-- A device goes from one holder to another. -/
theorem held_give {E : Grabber} (hgs : g ≠ s) (hempty : w.grabbers g = some {})
    (hE : w.grabbers s = some E) (d : DeviceId) :
    Held ((w.setGrabber s (some {})).setGrabber g (some E)) d ↔ Held w d := by
  constructor
  · rintro ⟨g', hg'⟩
    by_cases hg : g' = g
    · subst hg
      have hEd : some E = some { dev := some d } := by simpa using hg'
      exact ⟨s, hE.trans hEd⟩
    · by_cases hs : g' = s
      · subst hs
        simp [hg] at hg'
      · exact ⟨g', by simpa [hg, hs] using hg'⟩
  · rintro ⟨g', hg'⟩
    by_cases hs : g' = s
    · subst hs
      exact ⟨g, by simpa [hE] using hg'⟩
    · have hg : g' ≠ g := by
        intro heq
        subst heq
        rw [hempty] at hg'
        cases hg'
      exact ⟨g', by simpa [hg, hs] using hg'⟩

/-- `libevdev_grab` sets or clears the flag of one device. -/
theorem grabState_grabCalled (hdoc : P.Documented V) (hw : HandlesFollowed V s₀ w)
    (hD : w.devices d = some D) (hraw : D.raw = some h) {mode : GrabMode}
    (hok : 0 ≤ (P.libevdevGrab h mode w.env).1) :
    grabState V (w.grabCalled P h mode) d = some (decide (mode = .grab)) ∧
      ∀ d', d' ≠ d → grabState V (w.grabCalled P h mode) d' = grabState V w d' := by
  rcases hw.live hD _ hraw with ⟨v, hv⟩
  have hev : V.evdevs (w.grabCalled P h mode).env =
      Function.update (V.evdevs w.env) h (some { v with grabbed := decide (mode = .grab) }) :=
    (hdoc.libevdevGrab h mode w.env v hv).2.1 hok
  constructor
  · have hself : V.evdevs (w.grabCalled P h mode).env h =
        some { v with grabbed := decide (mode = .grab) } := by rw [hev, Function.update_self]
    exact grabState_of_view (w := w.grabCalled P h mode) hD hraw hself
  · intro d' hne
    refine grabState_congr rfl fun h' hraw' => ?_
    have hne' : h' ≠ h := DeviceHandles.handle_ne hw.1 hne hD hraw h' hraw'
    rw [hev, Function.update_of_ne hne']

/-- A device is grabbed by a new holder. -/
theorem Covered.hold (hdoc : P.Documented V) (hw : HandlesFollowed V s₀ w) (hc : Covered V S w)
    (hfree : w.grabbers g = none) (hD : w.devices d = some D) (hraw : D.raw = some h)
    (hok : 0 ≤ (P.libevdevGrab h .grab w.env).1) :
    Covered V S ((w.grabCalled P h .grab).setGrabber g (some { dev := some d })) := by
  let w₁ := (w.grabCalled P h .grab).setGrabber g (some { dev := some d })
  rcases grabState_grabCalled hdoc hw hD hraw hok with ⟨hset, hrest⟩
  have hd : Held w₁ d := ⟨g, by simp [w₁]⟩
  -- The new holder concerns `d` only.
  have hother : ∀ d', d' ≠ d → (Held w₁ d' ↔ Held w d') := by
    intro d' hne
    constructor
    · rintro ⟨g', hg'⟩
      by_cases hg : g' = g
      · subst hg
        have hdd : d = d' := by simpa [w₁] using hg'
        exact absurd hdd.symm hne
      · exact ⟨g', by simpa [w₁, World.grabCalled, hg] using hg'⟩
    · rintro ⟨g', hg'⟩
      have hg : g' ≠ g := ne_of_lives_of_free hg' hfree
      exact ⟨g', by simpa [w₁, World.grabCalled, hg] using hg'⟩
  have hstate : ∀ d', d' ≠ d → grabState V w₁ d' = grabState V w d' := hrest
  have hgrabbed : Grabbed V w₁ d := hset
  refine ⟨fun {d'} hheld => ?_, fun {d'} hgrab => ?_, fun {d'} hS hheld => ?_⟩ <;>
    by_cases hdd : d' = d
  · subst hdd
    rw [hgrabbed]
    simp
  · rw [hstate d' hdd]
    exact hc.valid ((hother d' hdd).1 hheld)
  · subst hdd
    exact hd
  · exact (hother d' hdd).2 (hc.held ((hstate d' hdd).symm.trans hgrab))
  · subst hdd
    exact hgrabbed
  · exact (hstate d' hdd).trans (hc.grabbed hS ((hother d' hdd).1 hheld))

/-- A holder lets go of its device: the device is ungrabbed, whoever else holds it. -/
theorem Covered.letGo (hdoc : P.Documented V) (hw : HandlesFollowed V s₀ w) (hc : Covered V S w)
    (hg : w.grabbers g = some { dev := some d }) (hD : w.devices d = some D)
    (hraw : D.raw = some h) (hok : 0 ≤ (P.libevdevGrab h .ungrab w.env).1)
    (hsole : S d → SoleHolder w g d) :
    Covered V S ((w.grabCalled P h .ungrab).setGrabber g (some {})) := by
  let w₁ := (w.grabCalled P h .ungrab).setGrabber g (some {})
  rcases grabState_grabCalled hdoc hw hD hraw hok with ⟨hclear, hrest⟩
  -- Whoever holds a device now held it before and is not `g`.
  have hstill : ∀ {d'}, Held w₁ d' → ∃ g', g' ≠ g ∧ w.grabbers g' = some { dev := some d' } := by
    rintro d' ⟨g', hg'⟩
    have hne : g' ≠ g := by
      intro heq
      subst heq
      simp [w₁] at hg'
    exact ⟨g', hne, by simpa [w₁, World.grabCalled, hne] using hg'⟩
  have hold : ∀ {d'}, d' ≠ d → Held w d' → Held w₁ d' := by
    rintro d' hdd ⟨g', hg'⟩
    have hne : g' ≠ g := by
      intro heq
      subst heq
      rw [hg] at hg'
      have hdd' : d = d' := by simpa using hg'
      exact hdd hdd'.symm
    exact ⟨g', by simpa [w₁, World.grabCalled, hne] using hg'⟩
  have hstate : ∀ d', d' ≠ d → grabState V w₁ d' = grabState V w d' := hrest
  have hungrabbed : grabState V w₁ d = some false := hclear
  refine ⟨fun {d'} hheld => ?_, fun {d'} hgrab => ?_, fun {d'} hS hheld => ?_⟩ <;>
    by_cases hdd : d' = d
  · subst hdd
    rw [hungrabbed]
    simp
  · rcases hstill hheld with ⟨g', _, hg'⟩
    rw [hstate d' hdd]
    exact hc.valid ⟨g', hg'⟩
  · subst hdd
    rw [Grabbed, hungrabbed] at hgrab
    cases hgrab
  · exact hold hdd (hc.held ((hstate d' hdd).symm.trans hgrab))
  · -- Nobody else holds the device.
    subst hdd
    rcases hstill hheld with ⟨g', hne, hg'⟩
    exact absurd (hsole hS hg g' hg') hne
  · rcases hstill hheld with ⟨g', _, hg'⟩
    exact (hstate d' hdd).trans (hc.grabbed hS ⟨g', hg'⟩)

/-- The actions on grabbers, where only the last holder lets go of the devices that `S` names. -/
theorem Tended.grabberInvariant (hdoc : P.Documented V) (s₀ : σ) (S : DeviceId → Prop) :
    GrabberInvariant P (fun w a => ∀ d, S d → a.letsGoLast d w) (Tended V s₀ S) where
  birth := by
    intro w g ht hfree
    refine ⟨ht.handles, ht.covered.same (held_setGrabber ?_ ?_) fun _ => rfl⟩
    · simp [hfree]
    · simp
  death := by
    intro w g ht hg
    refine ⟨ht.handles, ht.covered.same (held_setGrabber ?_ ?_) fun _ => rfl⟩
    · simp [hg]
    · simp
  give := by
    intro w g s E ht hgs hempty hE
    exact ⟨ht.handles, ht.covered.same (held_give hgs hempty hE) fun _ => rfl⟩
  hold := by
    intro w g d D h ht hfree hD hraw hok _
    refine ⟨?_, ht.covered.hold hdoc ht.handles hfree hD hraw hok⟩
    exact HandlesFollowed.grabCalled hdoc ht.handles hD hraw
  letGo := by
    intro w g d D h ht hg hD hraw hok hlast
    refine ⟨?_, ht.covered.letGo hdoc ht.handles hg hD hraw hok (hlast d)⟩
    exact HandlesFollowed.grabCalled hdoc ht.handles hD hraw
  failed := by
    intro w d D h mode ht hD hraw hneg
    refine ⟨HandlesFollowed.grabCalled hdoc ht.handles hD hraw, ?_⟩
    exact ht.covered.same (fun _ => Iff.rfl)
      (GrabberSafe.grabState_of_failed hdoc ht.handles hD hraw hneg)
  moveAssign := fun hgs hlast d hS => hlast d hS hgs
  destruct := fun hlast d hS => hlast d hS

end Grabbers

/-! ## Coverage -/

section Runs

variable {w : World σ} {s₀ : σ} {acts : List Act}

theorem Tended.init (V : Views σ) (s₀ : σ) (S : DeviceId → Prop) :
    Tended V s₀ S (World.init s₀) where
  handles := ⟨Custody.Followed.init _ s₀, Custody.Followed.init _ s₀⟩
  covered := by
    have hnone : ∀ d, ¬ Held (World.init s₀) d := by
      rintro d ⟨g, hg⟩
      cases hg
    have hclear : ∀ d, ¬ Grabbed V (World.init s₀) d := by
      intro d hd
      cases hd
    exact ⟨fun hd => absurd hd (hnone _), fun hd => absurd hd (hclear _),
      fun _ hd => absurd hd (hnone _)⟩

/-- Along every run that leaves the held devices in peace, and where only the last holder lets go
of the devices that `S` names. -/
theorem Tended.run (hdoc : P.Documented V)
    (hrun : Run (Guarded (fun w a => ∀ d, S d → LetsGoLast d w a)
      (Guarded Undisturbed (step P))) (World.init s₀) acts w) : Tended V s₀ S w := by
  refine hrun.invariant (Tended V s₀ S) (Tended.init V s₀ S) fun w a w' ht hstep => ?_
  rcases hstep with ⟨hlast, hpeace, hstep⟩
  cases a with
  | device a => exact (Tended.deviceInvariant hdoc s₀ S).step ht hpeace hstep
  | uinput a => exact (Tended.uinputInvariant hdoc s₀ S).step ht hstep
  | grabber a => exact (Tended.grabberInvariant hdoc s₀ S).step ht hlast hstep

end Runs

/-- Along every run that leaves the held devices in peace, a grabbed device is held by some live
`Grabber`; and a held device is grabbed, if only the last holder ever let go of it. -/
theorem grabbed_iff_held (hdoc : P.Documented V) {s₀ : σ} {acts : List Act} {w : World σ}
    (hrun : Run (Guarded Undisturbed (step P)) (World.init s₀) acts w) (d : DeviceId) :
    (Grabbed V w d → Held w d) ∧
      (Always (Guarded Undisturbed (step P)) (LetsGoLast d) (World.init s₀) acts →
        (Grabbed V w d ↔ Held w d)) := by
  -- No device is named: every action meets the condition.
  have hfree : Run (Guarded (fun w a => ∀ d', False → LetsGoLast d' w a)
      (Guarded Undisturbed (step P))) (World.init s₀) acts w :=
    hrun.mono fun _ _ _ hs => ⟨fun _ h => h.elim, hs⟩
  have hheld : Grabbed V w d → Held w d := (Tended.run hdoc hfree).covered.held
  refine ⟨hheld, fun hlast => ⟨hheld, ?_⟩⟩
  -- Only `d` is named: the condition on the run is about `d`.
  have hnamed : Run (Guarded (fun w a => ∀ d', d' = d → LetsGoLast d' w a)
      (Guarded Undisturbed (step P))) (World.init s₀) acts w := by
    refine (Always.guarded hrun hlast).mono fun _ _ _ hs => ⟨?_, hs.2⟩
    rintro d' rfl
    exact hs.1
  exact (Tended.run hdoc hnamed).covered.grabbed rfl

/-- Two grabbers one after the other, the first one moved: no other one holds the device when it is let
go. -/
theorem grabbed_iff_held_moved :
    ∃ w, Run (Guarded Undisturbed (step Script.platform))
        (World.init { opens := [3], handles := [0] })
        [.device (.constructPath 0 "/dev/input/event0" 0), .grabber (.constructFrom 0 0),
          .grabber (.moveConstruct 1 0), .grabber (.destruct 1), .grabber (.constructFrom 1 0)] w ∧
      Always (Guarded Undisturbed (step Script.platform)) (LetsGoLast 0)
        (World.init { opens := [3], handles := [0] })
        [.device (.constructPath 0 "/dev/input/event0" 0), .grabber (.constructFrom 0 0),
          .grabber (.moveConstruct 1 0), .grabber (.destruct 1), .grabber (.constructFrom 1 0)] ∧
      (Grabbed Script.views w 0 ↔ Held w 0) := by
  have hstart : Run (Guarded (LetsGoLast 0) (Guarded Undisturbed (step Script.platform)))
      (World.init { opens := [3], handles := [0] }) []
      (World.init { opens := [3], handles := [0] }) := Run.nil
  have hdevice := hstart.snoc (a := Act.device (.constructPath 0 "/dev/input/event0" 0))
    ⟨trivial, trivial, rfl⟩
  have hgrab := hdevice.snoc (a := Act.grabber (.constructFrom 0 0)) ⟨trivial, trivial, rfl⟩
  have hmove := hgrab.snoc (a := Act.grabber (.moveConstruct 1 0)) ⟨trivial, trivial, rfl⟩
  have hdestroy := hmove.snoc (a := Act.grabber (.destruct 1)) ⟨by
    rintro - (_ | _ | g) hg
    · exact absurd (show some ({} : Grabber) = some { dev := some 0 } from hg) nofun
    · rfl
    · exact absurd (show (none : Option Grabber) = some { dev := some 0 } from hg) nofun,
    trivial, rfl⟩
  have hrun := hdestroy.snoc (a := Act.grabber (.constructFrom 1 0)) ⟨trivial, trivial, rfl⟩
  have hplain := hrun.mono fun _ _ _ hs => hs.2
  have hlast := Always.of_guarded (fun _ _ _ _ h h' => Option.some.inj (h.2.symm.trans h'.2)) hrun
  exact ⟨_, hplain, hlast, (grabbed_iff_held Script.documented hplain 0).2 hlast⟩

/-- Two grabbers on one device, and the inner one destroyed: no call failed, the outer one holds the
device, and the device is not grabbed. -/
theorem held_not_grabbed :
    ∃ w, Run (Guarded Undisturbed (step Script.platform))
        (World.init { opens := [3], handles := [0] })
        [.device (.constructPath 0 "/dev/input/event0" 0), .grabber (.constructFrom 0 0),
          .grabber (.constructFrom 1 0), .grabber (.destruct 1)] w ∧
      (∀ h mode ret, Call.libevdevGrab h mode ret ∈ w.log → ret = 0) ∧
        Held w 0 ∧ ¬ Grabbed Script.views w 0 := by
  have hstart : Run (Guarded Undisturbed (step Script.platform))
      (World.init { opens := [3], handles := [0] }) []
      (World.init { opens := [3], handles := [0] }) := Run.nil
  have hdevice := hstart.snoc (a := Act.device (.constructPath 0 "/dev/input/event0" 0))
    ⟨trivial, rfl⟩
  have houter := hdevice.snoc (a := Act.grabber (.constructFrom 0 0)) ⟨trivial, rfl⟩
  have hinner := houter.snoc (a := Act.grabber (.constructFrom 1 0)) ⟨trivial, rfl⟩
  have hrun := hinner.snoc (a := Act.grabber (.destruct 1)) ⟨trivial, rfl⟩
  refine ⟨_, hrun, ?_, ⟨0, rfl⟩, ?_⟩
  · intro h mode ret hmem
    -- Three calls of `libevdev_grab`, all of which returned 0.
    have hlog : Call.libevdevGrab h mode ret ∈
        [.libevdevGrab 0 .ungrab 0, .libevdevGrab 0 .grab 0, .libevdevGrab 0 .grab 0,
          .libevdevNewFromFd 3 0 (some 0), .posixOpen "/dev/input/event0" 0 3 0] := hmem
    simp only [List.mem_cons, Call.libevdevGrab.injEq, List.not_mem_nil] at hlog
    grind
  · intro hgrabbed
    cases hgrabbed

end Evdevxx
