import Evdevxx.Logic.Audit
import Evdevxx.Logic.Boxes
import Evdevxx.Model.Scripted
import Evdevxx.Model.Values
import Evdevxx.Ownership.Uinputs

/-!
# Values — the objects behave as values

Read together with what its handle points to, every device is a value, and every action changes the
values as `Act.Transforms` says.  What carries this is the invariant of the ownership machines: every
handle that an object holds is live, and no other object holds it.
-/

namespace Evdevxx

variable {σ : Type} {P : Platform σ} {V : Views σ}

/-- The object, with what is behind its handle. -/
def Device.value (D : Device) (e : Option EvdevView) : DeviceValue :=
  { evdev := e, ownedFd := D.ownedFd }

/-- The values of the objects in a state of the program. -/
def World.values (V : Views σ) (w : World σ) : Values where
  devices := Boxes.contents (fun D : Device => D.raw) Device.value (V.evdevs w.env) w.devices
  grabbers := w.grabbers

/-- Every device has a handle of its own. -/
abbrev World.Separate (V : Views σ) (w : World σ) : Prop :=
  Boxes.Separate (fun D : Device => D.raw) (V.evdevs w.env) w.devices

namespace Values

variable (s : Values) (d d' : DeviceId) (D D' : Option DeviceValue)

@[simp] theorem setDevice_setDevice : (s.setDevice d D).setDevice d D' = s.setDevice d D' := by
  rw [setDevice, setDevice, setDevice, Function.update_idem]

theorem setDevice_comm (hne : d ≠ d') :
    (s.setDevice d D).setDevice d' D' = (s.setDevice d' D').setDevice d D := by
  rw [setDevice, setDevice, setDevice, setDevice, Function.update_comm hne]

theorem setDevice_of_eq (h : s.devices d = D) : s.setDevice d D = s := by
  rw [setDevice, ← h, Function.update_eq_self]

end Values

namespace World

variable {w w₁ : World σ} {d : DeviceId} {D : Device} {h : Handle} {s : σ} {c : Call}

theorem separate_of_followed {s₀ : σ} (hw : HandlesFollowed V s₀ w) : w.Separate V where
  live := fun hD hraw => hw.live hD _ hraw
  distinct := by
    intro i j E E' h hne hE hE' hraw hraw'
    have hboth : (w.devices j).bind (·.raw) = some h := by rw [hE', Option.bind_some, hraw']
    exact DeviceHandles.handle_ne hw.1 (Ne.symm hne) hE hraw h hboth rfl

theorem separate_called (hs : V.evdevs s = V.evdevs w.env) (hsep : w.Separate V) :
    (w.called c s).Separate V := by
  rw [Separate, called_env, hs]
  exact hsep

@[simp] theorem values_devices_eq_none_iff : (w.values V).devices d = none ↔ w.devices d = none :=
  Boxes.contents_eq_none_iff

theorem values_of_some (hD : w.devices d = some D) :
    (w.values V).devices d = some (D.value (D.raw.bind (V.evdevs w.env))) :=
  Boxes.contents_of_some hD

theorem values_valid {e : EvdevView} (hD : w.devices d = some D) (hraw : D.raw = some h)
    (he : V.evdevs w.env h = some e) : (w.values V).Valid d e D.ownedFd := by
  rw [Values.Valid, values_of_some hD, hraw, Option.bind_some, he]
  rfl

/-! ## What a change of the world is on the values -/

theorem values_setDevice (w : World σ) (d : DeviceId) (D : Option Device) :
    (w.setDevice d D).values V =
      (w.values V).setDevice d (D.map fun D => D.value (D.raw.bind (V.evdevs w.env))) := by
  rw [values, setDevice_devices, Boxes.contents_update]
  rfl

theorem values_setGrabber (w : World σ) (g : GrabberId) (G : Option Grabber) :
    (w.setGrabber g G).values V = (w.values V).setGrabber g G := rfl

/-- A call after which the same objects are live. -/
theorem values_called (hs : V.evdevs s = V.evdevs w.env) : (w.called c s).values V = w.values V := by
  rw [values, values, called_env, hs]
  rfl

/-- A call that changes the object of one device. -/
theorem values_written (hsep : w.Separate V) (hD : w.devices d = some D) (hraw : D.raw = some h)
    {e : EvdevView} (hs : V.evdevs s = Function.update (V.evdevs w.env) h (some e)) :
    (w.called c s).values V = (w.values V).write d e D.ownedFd := by
  rw [values, called_env, hs, called_devices, Boxes.contents_fill hsep hD hraw]
  rfl

/-- A change that spares the handles of the other devices. -/
theorem values_confined (hdevices : ∀ j, j ≠ d → w₁.devices j = w.devices j)
    (hgrabbers : w₁.grabbers = w.grabbers)
    (hevdevs : ∀ j E p, j ≠ d → w.devices j = some E → E.raw = some p →
      V.evdevs w₁.env p = V.evdevs w.env p) (x : Option DeviceValue) :
    (w₁.values V).setDevice d x = (w.values V).setDevice d x := by
  rw [values, values, Boxes.contents_confined hdevices hevdevs, hgrabbers, Values.setDevice,
    Values.setDevice, Function.update_idem]

/-- `destroy` reaches the value of its object only. -/
theorem values_disposed (hdoc : P.Documented V) (hsep : w.Separate V) (hD : w.devices d = some D)
    (x : Option DeviceValue) :
    ((w.disposed P D).values V).setDevice d x = (w.values V).setDevice d x := by
  refine values_confined (fun j _ => by rw [disposed_devices]) (disposed_grabbers P w D) ?_ x
  intro j E p hjd hE hraw
  have hne : D.raw ≠ some p := hsep.distinct hjd hE hD hraw
  exact evdevs_disposed hdoc (fun q hq => hsep.live hD hq) hne

/-- A call returns a new `libevdev` object, which replaces what the device had. -/
theorem values_replaced (hdoc : P.Documented V) (hsep : w.Separate V) (hD : w.devices d = some D)
    {e : EvdevView} (hfresh : V.evdevs w.env h = none)
    (hnew : V.evdevs s = Function.update (V.evdevs w.env) h (some e)) (c : Call) (fd : Fd) :
    (((w.called c s).disposed P D).setDevice d (some { raw := some h, ownedFd := fd })).values V =
      (w.values V).write d e fd := by
  have hsep' : (w.called c s).Separate V := by
    rw [Separate, called_env, hnew]
    exact hsep.fresh hfresh _
  have hvalues : (w.called c s).values V = w.values V := by
    rw [values, values, called_env, hnew, called_devices, Boxes.contents_fresh hsep hfresh]
    rfl
  have hne : D.raw ≠ some h := by
    intro hraw
    rcases hsep.live hD hraw with ⟨v, hv⟩
    exact ne_of_lives_of_free hv hfresh rfl
  -- `destroy` does not reach the new object.
  have hkept : V.evdevs ((w.called c s).disposed P D).env h = some e := by
    rw [evdevs_disposed hdoc (fun p hp => hsep'.live hD hp) hne, called_env, hnew,
      Function.update_self]
  rw [values_setDevice, values_disposed hdoc hsep' hD, hvalues]
  simp [Values.write, Device.value, hkept]

end World

/-! ## Devices -/

namespace Device

variable {w w₁ : World σ} {d : DeviceId} {D : Device} {s₀ : σ} {makes : DeviceValue → Prop}
variable {r : Option Exn}

/-- How a function that creates a `libevdev` object ends. -/
inductive Tried (V : Views σ) (w : World σ) (d : DeviceId) (makes : DeviceValue → Prop) :
    Outcome Exn (World σ) Unit → Prop where
  | made {X : DeviceValue} {w₁ : World σ} : makes X →
      w₁.values V = (w.values V).setDevice d (some X) → Tried V w d makes (.returned () w₁)
  | threw {e : Exn} {w₁ : World σ} : w₁.values V = w.values V → Tried V w d makes (.threw e w₁)

theorem Tried.tries {o : Outcome Exn (World σ) Unit} (h : Tried V w d makes o)
    (hends : o.EndsBy r w₁) : (w.values V).Tries d makes (w₁.values V) r := by
  cases h with
  | made hmakes hvalues =>
      rcases Outcome.endsBy_returned_iff.1 hends with ⟨rfl, rfl⟩
      exact ⟨_, hmakes, hvalues⟩
  | threw hvalues =>
      rcases Outcome.endsBy_threw_iff.1 hends with ⟨rfl, rfl⟩
      exact hvalues

/-- A constructor does with a new object what its body does. -/
theorem Tried.constructed {body : Op σ Unit}
    (hbody : Tried V (w.setDevice d (some {})) d makes (body (w.setDevice d (some {}))))
    (hends : (construct d body w).EndsBy r w₁) :
    (w.values V).devices d = none ∧ (w.values V).Tries d makes (w₁.values V) r := by
  rcases construct_endsBy hends with ⟨hfree, ⟨rfl, hret⟩ | ⟨e, w₂, rfl, hthrew, rfl⟩⟩
  · rw [hret] at hbody
    cases hbody with
    | made hmakes hvalues =>
        rw [World.values_setDevice, Values.setDevice_setDevice] at hvalues
        exact ⟨World.values_devices_eq_none_iff.2 hfree, _, hmakes, hvalues⟩
  · rw [hthrew] at hbody
    cases hbody with
    | threw hvalues =>
        -- The object that was born is gone again.
        have hnone : (w.values V).devices d = none := World.values_devices_eq_none_iff.2 hfree
        refine ⟨hnone, ?_⟩
        show (w₂.setDevice d none).values V = w.values V
        rw [World.values_setDevice, hvalues, World.values_setDevice, Values.setDevice_setDevice]
        exact Values.setDevice_of_eq _ _ _ hnone

theorem create_tried (hdoc : P.Documented V) (hsep : w.Separate V) (hD : w.devices d = some D) :
    Tried V w d (· = .new) (create P d w) := by
  have hlaw := (hdoc.libevdevNew w.env).1
  rw [create_apply hD]
  cases hnew : (P.libevdevNew w.env).1 with
  | none =>
      rw [hnew] at hlaw
      simp only [if_true]
      exact .threw (World.values_called hlaw)
  | some h =>
      rw [hnew] at hlaw
      simp only [reduceCtorEq, if_false]
      refine .made rfl ?_
      exact World.values_replaced hdoc hsep hD hlaw.1 hlaw.2 _ (-1)

theorem createFd_tried (hdoc : P.Documented V) (hsep : w.Separate V) (hD : w.devices d = some D)
    (fd : Fd) : Tried V w d (· = .reading fd) (createFd P d fd w) := by
  rcases hdoc.libevdevNewFromFd fd w.env with ⟨hfail, hok⟩
  rw [createFd_apply hD]
  by_cases hneg : (P.libevdevNewFromFd fd w.env).1.1 < 0
  · simp only [hneg, if_true]
    exact .threw (World.values_called (hfail hneg).2.1)
  · rcases hok (Int.not_lt.1 hneg) with ⟨_, _, _, h, hptr, hfresh, hnew⟩
    simp only [hneg, if_false, hptr]
    refine .made rfl ?_
    exact World.values_replaced hdoc hsep hD hfresh hnew _ fd

theorem createPath_tried (hdoc : P.Documented V) (hsep : w.Separate V) (hD : w.devices d = some D)
    (filename : String) (flags : BitVec 32) :
    Tried V w d (fun X => ∃ fd, 1 ≤ fd ∧ X = .reading fd) (createPath P d filename flags w) := by
  have hopen := (hdoc.posixOpen filename flags w.env).2.1
  rcases hdoc.libevdevNewFromFd (P.posixOpen filename flags w.env).1
    (P.posixOpen filename flags w.env).2 with ⟨hfail, hok⟩
  rw [createPath_apply hD]
  by_cases hlow : (P.posixOpen filename flags w.env).1 < 1
  · simp only [hlow, if_true]
    exact .threw (World.values_called hopen)
  by_cases hneg : (P.libevdevNewFromFd (P.posixOpen filename flags w.env).1
      (P.posixOpen filename flags w.env).2).1.1 < 0
  · simp only [hlow, hneg, if_true, if_false]
    refine .threw ((World.values_called (hdoc.posixClose _ _).2.1).trans ?_)
    exact (World.values_called (hfail hneg).2.1).trans (World.values_called hopen)
  · rcases hok (Int.not_lt.1 hneg) with ⟨_, _, _, h, hptr, hfresh, hnew⟩
    simp only [hlow, hneg, if_false, hptr]
    refine .made ⟨_, Int.not_lt.1 hlow, rfl⟩ ?_
    rw [← World.values_called (V := V) (c := .posixOpen filename flags _ _) hopen]
    exact World.values_replaced hdoc (World.separate_called hopen hsep) hD hfresh hnew _ _

/-- `libevdev_set_fd` succeeds only the first time. -/
theorem not_initialized_of_setFd (hdoc : P.Documented V) {s : σ} {p : Handle} {e : EvdevView}
    (he : V.evdevs s p = some e) {fd : Fd} (hok : 0 ≤ (P.libevdevSetFd p fd s).1) :
    e.initialized = false := by
  rw [← Bool.not_eq_true]
  intro hyes
  rw [(hdoc.libevdevSetFd p fd s e he).1 hyes] at hok
  exact absurd hok (by decide)

/-- When `::open` fails, `owned_fd` is `-1`, as it was. -/
theorem values_refused (hdoc : P.Documented V) (hD : w.devices d = some D) (hfree : D.ownedFd = -1)
    {raw : Option Handle} (hraw : D.raw = raw) {filename : String} {flags : BitVec 32}
    (hneg : (P.posixOpen filename flags w.env).1 < 0) (c : Call) :
    ((w.called c (P.posixOpen filename flags w.env).2).setDevice d
      (some { raw := raw, ownedFd := (P.posixOpen filename flags w.env).1 })).values V =
        w.values V := by
  have hopen := (hdoc.posixOpen filename flags w.env).2.1
  have hsame : ({ raw := raw, ownedFd := (P.posixOpen filename flags w.env).1 } : Device) = D := by
    rw [hdoc.posixOpen_eq_minusOne hneg, ← hfree, ← hraw]
  rw [hsame, World.values_setDevice, World.values_called hopen, World.called_env, hopen]
  exact Values.setDevice_of_eq _ _ _ (World.values_of_some hD)

theorem openPath_opens (hdoc : P.Documented V) (hsep : w.Separate V) {filename : String}
    {flags : BitVec 32} (hends : (openPath P d filename flags w).EndsBy r w₁) :
    (w.values V).Opens d filename (w₁.values V) r := by
  have hafter := hends.after
  have hopen := (hdoc.posixOpen filename flags w.env).2.1
  cases hD : w.devices d with
  | none => simp [openPath_apply_none hD] at hafter
  | some D =>
      have hvalue := World.values_of_some (V := V) hD
      by_cases hfree : D.ownedFd = -1
      · by_cases hneg : (P.posixOpen filename flags w.env).1 < 0
        · cases hraw : D.raw with
          | none =>
              have hsame := values_refused (V := V) hdoc hD hfree hraw hneg
              rw [openPath_apply_invalid hD hraw hfree] at hends
              simp only [hneg, if_true] at hends
              rcases Outcome.endsBy_threw_iff.1 hends with ⟨rfl, rfl⟩
              exact .refused hvalue hfree (hsame _)
          | some p =>
              have hsame := values_refused (V := V) hdoc hD hfree hraw hneg
              rw [openPath_apply hD hraw hfree] at hends
              simp only [hneg, if_true] at hends
              rcases Outcome.endsBy_threw_iff.1 hends with ⟨rfl, rfl⟩
              exact .refused hvalue hfree (hsame _)
        · cases hraw : D.raw with
          | none => simp [openPath_apply_invalid hD hraw hfree, hneg] at hafter
          | some p =>
              rcases hsep.live hD hraw with ⟨e, he⟩
              have hvalid := World.values_valid hD hraw he
              rw [hfree] at hvalid
              have he' : V.evdevs (P.posixOpen filename flags w.env).2 p = some e := by
                rw [hopen, he]
              rcases hdoc.libevdevSetFd p (P.posixOpen filename flags w.env).1 _ e he' with
                ⟨_, hfail, hset, _⟩
              have hok := Int.not_lt.1 hneg
              rw [openPath_apply hD hraw hfree] at hends
              by_cases hbad : (P.libevdevSetFd p (P.posixOpen filename flags w.env).1
                  (P.posixOpen filename flags w.env).2).1 < 0
              · -- The descriptor was written before `libevdev_set_fd` was called.
                simp only [hneg, hbad, if_true, if_false] at hends
                rcases Outcome.endsBy_threw_iff.1 hends with ⟨rfl, rfl⟩
                refine .notInstalled hvalid hok hbad ?_
                rw [World.values_setDevice, World.values_called (hfail hbad),
                  World.values_called hopen, World.called_env, hfail hbad, hopen]
                simp [Values.write, Device.value, he]
              · simp only [hneg, hbad, if_false] at hends
                rcases Outcome.endsBy_returned_iff.1 hends with ⟨rfl, rfl⟩
                have hinstalled := Int.not_lt.1 hbad
                have hnot := not_initialized_of_setFd hdoc he' hinstalled
                have hsep' := World.separate_called (c := .posixOpen filename flags
                  (P.posixOpen filename flags w.env).1 (P.errno (P.posixOpen filename flags w.env).2))
                  hopen hsep
                refine .opened hvalid hnot hok ?_
                rw [World.values_setDevice,
                  World.values_written hsep' hD hraw (hset hinstalled), World.values_called hopen,
                  World.called_env, hset hinstalled]
                simp [Values.write, Device.value]
      · rw [openPath_apply_isOpen hD hfree] at hends
        rcases Outcome.endsBy_threw_iff.1 hends with ⟨rfl, rfl⟩
        exact .alreadyOpen hvalue hfree rfl

theorem setFd_transforms (hdoc : P.Documented V) (hsep : w.Separate V) {fd : Fd}
    (hends : (setFd P d fd w).EndsBy r w₁) :
    (DeviceAct.setFd d fd).Transforms (w.values V) r (w₁.values V) := by
  have hafter := hends.after
  cases hD : w.devices d with
  | none => simp [setFd_apply_none hD] at hafter
  | some D =>
      rcases after_setFd hD hafter with ⟨p, hraw, _⟩
      rcases hsep.live hD hraw with ⟨e, he⟩
      rcases hdoc.libevdevSetFd p fd w.env e he with ⟨_, hfail, hset, _⟩
      refine ⟨e, D.ownedFd, World.values_valid hD hraw he, ?_⟩
      rw [setFd_apply hD hraw] at hends
      by_cases hneg : (P.libevdevSetFd p fd w.env).1 < 0
      · simp only [hneg, if_true] at hends
        rcases Outcome.endsBy_threw_iff.1 hends with ⟨rfl, rfl⟩
        exact World.values_called (hfail hneg)
      · simp only [hneg, if_false] at hends
        rcases Outcome.endsBy_returned_iff.1 hends with ⟨rfl, rfl⟩
        have hok : 0 ≤ (P.libevdevSetFd p fd w.env).1 := Int.not_lt.1 hneg
        exact ⟨not_initialized_of_setFd hdoc he hok, World.values_written hsep hD hraw (hset hok)⟩

theorem changeFd_transforms (hdoc : P.Documented V) (hsep : w.Separate V) {fd : Fd}
    (hends : (changeFd P d fd w).EndsBy r w₁) :
    (DeviceAct.changeFd d fd).Transforms (w.values V) r (w₁.values V) := by
  have hafter := hends.after
  cases hD : w.devices d with
  | none => simp [changeFd_apply_none hD] at hafter
  | some D =>
      rcases after_changeFd hD hafter with ⟨p, hraw, _⟩
      rcases hsep.live hD hraw with ⟨e, he⟩
      rcases hdoc.libevdevChangeFd p fd w.env e he with ⟨hset, hfail, _⟩
      refine ⟨e, D.ownedFd, World.values_valid hD hraw he, ?_⟩
      rw [changeFd_apply hD hraw] at hends
      by_cases hzero : (P.libevdevChangeFd p fd w.env).1 = 0
      · simp only [hzero, ne_eq, not_true_eq_false, if_false] at hends
        rcases Outcome.endsBy_returned_iff.1 hends with ⟨rfl, rfl⟩
        rcases hset hzero with ⟨hinit, g, hgrab, hwritten⟩
        exact ⟨hinit, g, hgrab, World.values_written hsep hD hraw hwritten⟩
      · simp only [hzero, ne_eq, not_false_eq_true, if_true] at hends
        rcases Outcome.endsBy_threw_iff.1 hends with ⟨rfl, rfl⟩
        exact World.values_called (hfail hzero)

/-- Moves, `destroy` and the destructor. -/
theorem Transferred.transforms (hdoc : P.Documented V) (hsep : w.Separate V) {a : DeviceAct}
    (h : Transferred P w a w₁) : a.Transforms (w.values V) none (w₁.values V) := by
  cases h with
  | born hfree =>
      exact ⟨rfl, World.values_devices_eq_none_iff.2 hfree, Or.inl ⟨rfl, World.values_setDevice _ _ _⟩⟩
  | moved hfree hE =>
      refine ⟨rfl, World.values_devices_eq_none_iff.2 hfree, Or.inr ⟨_, World.values_of_some hE, ?_⟩⟩
      rw [World.values_setDevice, World.values_setDevice]
      rfl
  | kept hD => exact ⟨rfl, by simp [hD], Or.inl ⟨rfl, rfl⟩⟩
  | @assigned d s D E hD hds hE =>
      refine ⟨rfl, by simp [hD], Or.inr ⟨hds, _, World.values_of_some hE, ?_⟩⟩
      -- What the source holds outlives what the target held.
      have hkept : E.raw.bind (V.evdevs (w.disposed P D).env) = E.raw.bind (V.evdevs w.env) := by
        cases hraw : E.raw with
        | none => rfl
        | some p =>
            have hne : D.raw ≠ some p := hsep.distinct (Ne.symm hds) hE hD hraw
            exact World.evdevs_disposed hdoc (fun q hq => hsep.live hD hq) hne
      let x := some (E.value (E.raw.bind (V.evdevs w.env)))
      calc (((w.disposed P D).setDevice s (some {})).setDevice d (some E)).values V
          = (((w.disposed P D).values V).setDevice s (some {})).setDevice d x := by
            rw [World.values_setDevice, World.values_setDevice, World.setDevice_env, Option.map_some,
              Option.map_some, hkept]
            rfl
        _ = (((w.disposed P D).values V).setDevice d x).setDevice s (some {}) :=
            Values.setDevice_comm _ _ _ _ _ (Ne.symm hds)
        _ = ((w.values V).setDevice d x).setDevice s (some {}) := by
            rw [World.values_disposed hdoc hsep hD]
        _ = ((w.values V).setDevice s (some {})).setDevice d x :=
            Values.setDevice_comm _ _ _ _ _ hds
  | emptied hD =>
      refine ⟨rfl, by simp [hD], ?_⟩
      rw [World.values_setDevice, World.values_disposed hdoc hsep hD]
      rfl
  | died hD =>
      refine ⟨rfl, by simp [hD], ?_⟩
      rw [World.values_setDevice, World.values_disposed hdoc hsep hD]
      rfl

/-- These actions return. -/
theorem transforms_of_transfer (hdoc : P.Documented V) (hsep : w.Separate V) {a : DeviceAct}
    (ha : a.IsTransfer) (hends : (a.exec P w).EndsBy r w₁) :
    a.Transforms (w.values V) r (w₁.values V) := by
  have htransferred := transferred_of_step ha hends.after
  rw [htransferred.returns] at hends
  rcases Outcome.endsBy_returned_iff.1 hends with ⟨rfl, _⟩
  exact htransferred.transforms hdoc hsep

theorem transforms (hdoc : P.Documented V) (hw : HandlesFollowed V s₀ w) {a : DeviceAct}
    (hends : (a.exec P w).EndsBy r w₁) : a.Transforms (w.values V) r (w₁.values V) := by
  have hsep := World.separate_of_followed hw
  have hafter := hends.after
  have hborn : ∀ {this}, w.devices this = none → (w.setDevice this (some {})).Separate V :=
    fun hfree => World.separate_of_followed
      ((HandlesFollowed.deviceInvariant hdoc s₀).birth hw hfree)
  cases a with
  | constructInvalid this =>
      rcases construct_endsBy hends with ⟨hfree, ⟨rfl, hret⟩ | ⟨e, w₂, _, hthrew, _⟩⟩
      · cases hret
        exact ⟨rfl, World.values_devices_eq_none_iff.2 hfree, World.values_setDevice _ _ _⟩
      · cases hthrew
  | constructDefault this =>
      have hfree := (construct_endsBy hends).1
      have htried := create_tried hdoc (hborn hfree) (World.setDevice_devices_self _ _ _)
      exact htried.constructed hends
  | constructFd this fd =>
      have hfree := (construct_endsBy hends).1
      have htried := createFd_tried hdoc (hborn hfree) (World.setDevice_devices_self _ _ _) fd
      exact htried.constructed hends
  | constructPath this filename flags =>
      have hfree := (construct_endsBy hends).1
      have htried := createPath_tried hdoc (hborn hfree) (World.setDevice_devices_self _ _ _)
        filename flags
      exact htried.constructed hends
  | create this =>
      cases hD : w.devices this with
      | none => simp [DeviceAct.exec, create_apply_none hD] at hafter
      | some D => exact ⟨by simp [hD], (create_tried hdoc hsep hD).tries hends⟩
  | createFd this fd =>
      cases hD : w.devices this with
      | none => simp [DeviceAct.exec, createFd_apply_none hD] at hafter
      | some D => exact ⟨by simp [hD], (createFd_tried hdoc hsep hD fd).tries hends⟩
  | createPath this filename flags =>
      cases hD : w.devices this with
      | none => simp [DeviceAct.exec, createPath_apply_none hD] at hafter
      | some D => exact ⟨by simp [hD], (createPath_tried hdoc hsep hD filename flags).tries hends⟩
  | openPath this filename flags => exact openPath_opens hdoc hsep hends
  | setFd this fd => exact setFd_transforms hdoc hsep hends
  | changeFd this fd => exact changeFd_transforms hdoc hsep hends
  | moveConstruct this other =>
      exact transforms_of_transfer (a := .moveConstruct this other) hdoc hsep trivial hends
  | moveAssign this other =>
      exact transforms_of_transfer (a := .moveAssign this other) hdoc hsep trivial hends
  | destroy this => exact transforms_of_transfer (a := .destroy this) hdoc hsep trivial hends
  | destruct this => exact transforms_of_transfer (a := .destruct this) hdoc hsep trivial hends

end Device

/-! ## Grabbers -/

namespace Grabber

variable {w w₁ : World σ} {g : GrabberId} {d : DeviceId} {D : Device} {h : Handle}

/-- The grab flag is set or cleared, or the call fails. -/
theorem values_grabCalled (hdoc : P.Documented V) (hsep : w.Separate V) (hD : w.devices d = some D)
    (hraw : D.raw = some h) (mode : GrabMode) :
    ∃ e, (w.values V).Valid d e D.ownedFd ∧
      ((P.libevdevGrab h mode w.env).1 < 0 → (w.grabCalled P h mode).values V = w.values V) ∧
      (0 ≤ (P.libevdevGrab h mode w.env).1 → (w.grabCalled P h mode).values V =
        (w.values V).write d { e with grabbed := decide (mode = .grab) } D.ownedFd) := by
  rcases hsep.live hD hraw with ⟨e, he⟩
  rcases hdoc.libevdevGrab h mode w.env e he with ⟨hfail, hok, _⟩
  refine ⟨e, World.values_valid hD hraw he, fun hneg => ?_, fun hnonneg => ?_⟩
  · exact World.values_called (hfail hneg)
  · exact World.values_written hsep hD hraw (hok hnonneg)

theorem Ungrabbed.letsGo (hdoc : P.Documented V) (hsep : w.Separate V)
    (h : Ungrabbed P w g (.returned () w₁)) : (w.values V).LetsGo g (w₁.values V) := by
  cases h with
  | empty hX => exact .empty hX
  | letGo hX hD hraw hok =>
      rcases values_grabCalled hdoc hsep hD hraw .ungrab with ⟨e, hvalid, _, hvalues⟩
      rw [World.values_setGrabber, hvalues hok]
      exact .held hX hvalid

theorem Ungrabbed.values_of_threw (hdoc : P.Documented V) (hsep : w.Separate V) {e : Exn}
    (h : Ungrabbed P w g (.threw e w₁)) : w₁.values V = w.values V := by
  cases h with
  | failed _ hD hraw hneg =>
      rcases values_grabCalled hdoc hsep hD hraw .ungrab with ⟨_, _, hsame, _⟩
      exact hsame hneg

theorem transforms (hdoc : P.Documented V) (hsep : w.Separate V) {a : GrabberAct}
    {r : Option Exn} (hends : (a.exec P w).EndsBy r w₁) :
    a.Transforms (w.values V) r (w₁.values V) := by
  have hafter := hends.after
  have hend := ended P w a
  generalize a.exec P w = o at hend hends hafter
  cases hend with
  | born hfree =>
      rcases Outcome.endsBy_returned_iff.1 hends with ⟨rfl, rfl⟩
      exact ⟨rfl, hfree, rfl⟩
  | held hfree hD hraw hok =>
      rcases Outcome.endsBy_returned_iff.1 hends with ⟨rfl, rfl⟩
      rcases values_grabCalled hdoc hsep hD hraw .grab with ⟨e, hvalid, _, hvalues⟩
      refine ⟨hfree, e, _, hvalid, ?_⟩
      show _ = _
      rw [World.values_setGrabber, hvalues hok]
      rfl
  | refused hfree hD hraw hneg =>
      rcases Outcome.endsBy_threw_iff.1 hends with ⟨rfl, rfl⟩
      rcases values_grabCalled hdoc hsep hD hraw .grab with ⟨e, hvalid, hsame, _⟩
      exact ⟨hfree, e, _, hvalid, hsame hneg⟩
  | bornFromSelf hfree =>
      rcases Outcome.endsBy_returned_iff.1 hends with ⟨rfl, rfl⟩
      exact ⟨rfl, hfree, Or.inl ⟨rfl, rfl⟩⟩
  | moved hfree hE =>
      rcases Outcome.endsBy_returned_iff.1 hends with ⟨rfl, rfl⟩
      exact ⟨rfl, hfree, Or.inr ⟨_, hE, rfl⟩⟩
  | kept =>
      rcases Outcome.endsBy_returned_iff.1 hends with ⟨rfl, rfl⟩
      exact Or.inl ⟨rfl, rfl, rfl⟩
  | assigned hgs hungrab hE =>
      rcases Outcome.endsBy_returned_iff.1 hends with ⟨rfl, rfl⟩
      exact Or.inr ⟨hgs, _, _, hungrab.letsGo hdoc hsep, hE, rfl⟩
  | notAssigned hgs hungrab =>
      rcases Outcome.endsBy_threw_iff.1 hends with ⟨rfl, rfl⟩
      exact Or.inr ⟨hgs, hungrab.values_of_threw hdoc hsep⟩
  | ungrabbed hungrab =>
      cases o with
      | returned _ w₂ =>
          rcases Outcome.endsBy_returned_iff.1 hends with ⟨rfl, rfl⟩
          exact hungrab.letsGo hdoc hsep
      | threw e w₂ =>
          rcases Outcome.endsBy_threw_iff.1 hends with ⟨rfl, rfl⟩
          exact hungrab.values_of_threw hdoc hsep
      | _ => cases hafter
  | died hungrab =>
      rcases Outcome.endsBy_returned_iff.1 hends with ⟨rfl, rfl⟩
      exact ⟨rfl, _, hungrab.letsGo hdoc hsep, rfl⟩
  | terminated => cases hafter
  | undefined => cases hafter

end Grabber

/-! ## Uinputs -/

namespace Uinput

variable {w w₁ : World σ} {u : UinputId} {U : Uinput}

theorem values_setUinput (w : World σ) (u : UinputId) (U : Option Uinput) :
    (w.setUinput u U).values V = w.values V := rfl

theorem values_udestroyed (hdoc : P.Documented V) (w : World σ) (raw : Option UinputHandle) :
    (w.udestroyed P raw).values V = w.values V := by
  cases raw with
  | none => rfl
  | some p => exact World.values_called (hdoc.libevdevUinputDestroy p w.env).2

theorem values_of_create (hdoc : P.Documented V) {dev : DeviceId} {fd : Fd}
    (hU : w.uinputs u = some U) (hafter : (create P u dev fd w).after = some w₁) :
    w₁.values V = w.values V := by
  rcases after_create hU hafter with ⟨D, p, _, _, hend⟩
  have hcreate := (hdoc.libevdevUinputCreateFromDevice p fd w.env).2.2
  rcases hend with ⟨_, rfl⟩ | ⟨_, rfl⟩
  · exact World.values_called hcreate
  · rw [values_setUinput, values_udestroyed hdoc]
    exact World.values_called hcreate

theorem values_of_step (hdoc : P.Documented V) {a : UinputAct}
    (hstep : (a.exec P w).after = some w₁) : w₁.values V = w.values V := by
  cases ended_of_step hstep with
  | born => rfl
  | @constructed u dev fd w₁ hfree hret =>
      have hvalues : w₁.values V = (w.setUinput u (some {})).values V :=
        values_of_create hdoc (World.setUinput_uinputs_self w u _) (by rw [hret]; rfl)
      exact hvalues
  | @notConstructed u dev fd e w₁ hfree hthrew =>
      have hvalues : w₁.values V = (w.setUinput u (some {})).values V :=
        values_of_create hdoc (World.setUinput_uinputs_self w u _) (by rw [hthrew]; rfl)
      exact hvalues
  | bornFromSelf => rfl
  | moved => rfl
  | kept => rfl
  | assigned => exact values_udestroyed hdoc w _
  | created hU hafter => exact values_of_create hdoc hU hafter
  | emptied => exact values_udestroyed hdoc w _
  | died => exact values_udestroyed hdoc w _

end Uinput

/-! ## Runs -/

/-- Whatever exceptions its actions end with, a run is one of the ownership machines. -/
theorem followed_of_run (hdoc : P.Documented V) {s₀ : σ} {labels : List (Act × Option Exn)}
    {w : World σ} (hrun : Run (Audit.Step (Act.exec P)) (World.init s₀) labels w) :
    HandlesFollowed V s₀ w :=
  HandlesFollowed.run hdoc (hrun.relabel Prod.fst fun _ _ _ hs => Outcome.EndsBy.after hs)

/-- Every run, read on the values of the objects, is a run of values: that devices are pointers to
objects of libevdev cannot be seen, and no two of them point to the same one. -/
theorem objects_are_values (hdoc : P.Documented V) {s₀ : σ} {labels : List (Act × Option Exn)}
    {w : World σ} (hrun : Run (Audit.Step (Act.exec P)) (World.init s₀) labels w) :
    Run Act.Transforms Values.init labels (w.values V) ∧ w.Separate V := by
  refine ⟨?_, World.separate_of_followed (followed_of_run hdoc hrun)⟩
  refine hrun.simulates (World.values V) fun as w l w' hbefore hstep => ?_
  have hfollowed := followed_of_run hdoc hbefore
  rcases l with ⟨a, r⟩
  cases a with
  | device a => exact Device.transforms hdoc hfollowed hstep
  | uinput a => exact Uinput.values_of_step hdoc (Outcome.EndsBy.after hstep)
  | grabber a => exact Grabber.transforms hdoc (World.separate_of_followed hfollowed) hstep

/-- A grabbed device is moved over another one; a third one reads from its descriptor as well, and owns
the descriptor of a file that it does not get to read. -/
theorem objects_are_values_moved :
    ∃ w, Run (Audit.Step (Act.exec Script.platform))
        (World.init { opens := [3, 4, 5], handles := [0, 1, 2], grabs := [0] })
        [(.device (.constructPath 0 "mouse" 0), none), (.grabber (.constructFrom 0 0), none),
          (.device (.constructPath 1 "keyboard" 0), none), (.device (.moveAssign 1 0), none),
          (.device (.constructDefault 2), none), (.device (.setFd 2 3), none),
          (.device (.openPath 2 "joystick" 0),
            some (.std (.systemError 9 (some "libevdev_set_fd()."))))] w ∧
      Run Act.Transforms Values.init
        [(.device (.constructPath 0 "mouse" 0), none), (.grabber (.constructFrom 0 0), none),
          (.device (.constructPath 1 "keyboard" 0), none), (.device (.moveAssign 1 0), none),
          (.device (.constructDefault 2), none), (.device (.setFd 2 3), none),
          (.device (.openPath 2 "joystick" 0),
            some (.std (.systemError 9 (some "libevdev_set_fd()."))))]
        (w.values Script.views) ∧
      (w.values Script.views).devices 0 = some {} ∧
      (w.values Script.views).Valid 1
        { fd := 3, initialized := true, grabbed := true, logData := none } 3 ∧
      (w.values Script.views).Valid 2
        { fd := 3, initialized := true, grabbed := false, logData := none } 5 := by
  have hstart : Run (Audit.Step (Act.exec Script.platform))
      (World.init { opens := [3, 4, 5], handles := [0, 1, 2], grabs := [0] }) []
      (World.init { opens := [3, 4, 5], handles := [0, 1, 2], grabs := [0] }) := Run.nil
  have returned : ∀ {w w' : World Script} {a : Act}, a.exec Script.platform w = .returned () w' →
      Audit.Step (Act.exec Script.platform) w (a, none) w' := fun h => h
  have threw : ∀ {w w' : World Script} {a : Act} {e : Exn},
      a.exec Script.platform w = .threw e w' →
      Audit.Step (Act.exec Script.platform) w (a, some e) w' := fun h => h
  have hopened := hstart.snoc (returned (a := .device (.constructPath 0 "mouse" 0)) rfl)
  have hgrabbed := hopened.snoc (returned (a := .grabber (.constructFrom 0 0)) rfl)
  have hsecond := hgrabbed.snoc (returned (a := .device (.constructPath 1 "keyboard" 0)) rfl)
  have hmoved := hsecond.snoc (returned (a := .device (.moveAssign 1 0)) rfl)
  have hthird := hmoved.snoc (returned (a := .device (.constructDefault 2)) rfl)
  have hset := hthird.snoc (returned (a := .device (.setFd 2 3)) rfl)
  have hrun := hset.snoc (threw (a := .device (.openPath 2 "joystick" 0)) rfl)
  exact ⟨_, hrun, (objects_are_values Script.documented hrun).1, rfl, rfl, rfl⟩

end Evdevxx
