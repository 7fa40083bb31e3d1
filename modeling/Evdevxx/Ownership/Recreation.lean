import Evdevxx.Model.Scripted
import Evdevxx.Uinput.Evaluation

/-!
# Recreation — `create` on an existing object is all-or-nothing

Every `create` makes its new handle first and only then gives up what the object holds.  So if it
throws nothing is lost (`NothingLost`), and if it returns exactly the previous handle and descriptor
have been given up, once, for the new ones (`Device.Replaced`, `Uinput.Replaced`).
-/

namespace Evdevxx

variable {σ : Type} {P : Platform σ} {V : Views σ}

/-- No object was changed, no handle was freed or destroyed, only descriptors were closed that had
not been open before, and the handles that were live still are. -/
structure NothingLost (V : Views σ) (w w' : World σ) : Prop where
  devices : w'.devices = w.devices
  uinputs : w'.uinputs = w.uinputs
  grabbers : w'.grabbers = w.grabbers
  calls : ∃ calls, w'.log = calls ++ w.log ∧ (∀ h, Call.libevdevFree h ∉ calls) ∧
    (∀ u, Call.libevdevUinputDestroy u ∉ calls) ∧
    ∀ fd, Call.posixClose fd ∈ calls → V.files w.env fd = none
  handles : ∀ h v, V.evdevs w.env h = some v → V.evdevs w'.env h = some v
  uhandles : ∀ u, V.uinputs w.env u = true → V.uinputs w'.env u = true

namespace Device

/-- One of the calls returned the new handle. -/
def CreatedBy (calls : List Call) (h : Handle) : Prop :=
  Call.libevdevNew (some h) ∈ calls ∨ ∃ fd ret, Call.libevdevNewFromFd fd ret (some h) ∈ calls

/-- The object at `d`, which was `D`, holds a handle that was created since `w`, and owns `fd`.  The
previous handle was freed once and the previous descriptor was closed once, if there was one, and no
others were. -/
structure Replaced (V : Views σ) (w w' : World σ) (d : DeviceId) (D : Device) (fd : Fd) :
    Prop where
  uinputs : w'.uinputs = w.uinputs
  grabbers : w'.grabbers = w.grabbers
  calls : ∃ h calls, w'.devices = Function.update w.devices d (some { raw := some h, ownedFd := fd }) ∧
    w'.log = calls ++ w.log ∧ CreatedBy calls h ∧ V.evdevs w.env h = none ∧
    (D.Live V w.env → ∃ v, V.evdevs w'.env h = some v) ∧
    (∀ q, calls.count (.libevdevFree q) = if D.raw = some q then 1 else 0) ∧
    ∀ n, calls.count (.posixClose n) = if D.ownedFd = n ∧ n ≠ -1 then 1 else 0

/-- `create` on the object `D` at `d`, with the descriptor `fd` to be owned: all or nothing. -/
structure Recreates (V : Views σ) (w : World σ) (d : DeviceId) (D : Device) (fd : Fd)
    (r : Outcome Exn (World σ) Unit) : Prop where
  ends : (∃ e w', r = .threw e w') ∨ ∃ w', r = .returned () w'
  threw : ∀ e w', r = .threw e w' → NothingLost V w w' ∧
    ∀ n f, V.files w.env n = some f → V.files w'.env n = some f
  returned : ∀ w', r = .returned () w' → Replaced V w w' d D fd

end Device

namespace Uinput

/-- The object at `u`, which was `U`, holds a handle that was created since `w`; the previous handle
was destroyed once, if there was one.  The devices are as they were. -/
structure Replaced (V : Views σ) (w w' : World σ) (u : UinputId) (U : Uinput) : Prop where
  devices : w'.devices = w.devices
  views : V.evdevs w'.env = V.evdevs w.env
  grabbers : w'.grabbers = w.grabbers
  calls : ∃ p h fd ret calls, w'.uinputs = Function.update w.uinputs u (some { raw := some p }) ∧
    w'.log = calls ++ w.log ∧
    Call.libevdevUinputCreateFromDevice h fd ret (some p) ∈ calls ∧ V.uinputs w.env p = false ∧
    ((∀ q, U.raw = some q → V.uinputs w.env q = true) → V.uinputs w'.env p = true) ∧
    (∀ q, calls.count (.libevdevUinputDestroy q) = if U.raw = some q then 1 else 0) ∧
    (∀ q, Call.libevdevFree q ∉ calls) ∧ ∀ n, Call.posixClose n ∉ calls

/-- `create` on the object `U` at `u`, from the device at `dev`: all or nothing.  Without a valid
device libevdev would be given a null pointer. -/
structure Recreates (V : Views σ) (w : World σ) (u : UinputId) (U : Uinput) (dev : DeviceId)
    (r : Outcome Exn (World σ) Unit) : Prop where
  ends : (∃ D h, w.devices dev = some D ∧ D.raw = some h) →
    (∃ e w', r = .threw e w') ∨ ∃ w', r = .returned () w'
  threw : ∀ e w', r = .threw e w' → NothingLost V w w' ∧ V.evdevs w'.env = V.evdevs w.env
  returned : ∀ w', r = .returned () w' → Replaced V w w' u U

end Uinput

/-! ## Calls that fail -/

section NothingLost

variable {w w₁ : World σ} {c : Call} {s : σ}

theorem NothingLost.refl (V : Views σ) (w : World σ) : NothingLost V w w where
  devices := rfl
  uinputs := rfl
  grabbers := rfl
  calls := ⟨[], rfl, by simp, by simp, by simp⟩
  handles := fun _ _ hv => hv
  uhandles := fun _ hu => hu

/-- One more call that ends no life and closes no descriptor that was open. -/
theorem NothingLost.called (hw : NothingLost V w w₁) (hfree : ∀ h, c ≠ .libevdevFree h)
    (hdestroy : ∀ u, c ≠ .libevdevUinputDestroy u)
    (hclose : ∀ fd, c = .posixClose fd → V.files w.env fd = none)
    (hev : ∀ h v, V.evdevs w₁.env h = some v → V.evdevs s h = some v)
    (hui : V.uinputs s = V.uinputs w₁.env) : NothingLost V w (w₁.called c s) where
  devices := hw.devices
  uinputs := hw.uinputs
  grabbers := hw.grabbers
  calls := by
    rcases hw.calls with ⟨calls, hlog, hfrees, hdestroys, hcloses⟩
    refine ⟨c :: calls, by simp [hlog], ?_, ?_, ?_⟩
    · intro h hmem
      rcases List.mem_cons.1 hmem with heq | hmem
      · exact hfree h heq.symm
      · exact hfrees h hmem
    · intro u hmem
      rcases List.mem_cons.1 hmem with heq | hmem
      · exact hdestroy u heq.symm
      · exact hdestroys u hmem
    · intro fd hmem
      rcases List.mem_cons.1 hmem with heq | hmem
      · exact hclose fd heq.symm
      · exact hcloses fd hmem
  handles := fun h v hv => hev h v (hw.handles h v hv)
  uhandles := by
    intro u hu
    rw [World.called_env, hui]
    exact hw.uhandles u hu

end NothingLost

/-! ## The calls of `destroy` -/

section Disposal

variable (D : Device)

theorem count_free_disposal (q : Handle) :
    D.disposal.count (.libevdevFree q) = if D.raw = some q then 1 else 0 := by
  rcases D with ⟨⟨raw⟩, fd⟩
  cases raw with
  | none =>
      by_cases hfd : fd = -1
      · simp [Device.disposal, hfd]
      · simp [Device.disposal, hfd]
  | some h =>
      by_cases hfd : fd = -1
      · simp [Device.disposal, hfd, List.count_cons]
      · simp [Device.disposal, hfd, List.count_cons]

theorem count_close_disposal (n : Fd) :
    D.disposal.count (.posixClose n) = if D.ownedFd = n ∧ n ≠ -1 then 1 else 0 := by
  rcases D with ⟨⟨raw⟩, fd⟩
  by_cases hfd : fd = -1
  · -- No descriptor is owned.
    have hnot : ¬ ((-1 : Fd) = n ∧ n ≠ -1) := by
      rintro ⟨heq, hne⟩
      exact hne heq.symm
    subst hfd
    cases raw with
    | none => simp [Device.disposal, hnot]
    | some h => simp [Device.disposal, hnot]
  · by_cases hn : fd = n
    · subst hn
      cases raw with
      | none => simp [Device.disposal, hfd]
      | some h => simp [Device.disposal, hfd]
    · cases raw with
      | none => simp [Device.disposal, hfd, hn]
      | some h => simp [Device.disposal, hfd, hn]

end Disposal

/-! ## Devices -/

namespace Device

variable {w w₁ : World σ} {d : DeviceId} {D : Device} {h : Handle} {calls : List Call}

/-- What every `create` has done when it comes to `destroy`: there is a new handle, and nothing
that was there before is missing. -/
structure Gained (V : Views σ) (w w₁ : World σ) (calls : List Call) (h : Handle) : Prop where
  devices : w₁.devices = w.devices
  uinputs : w₁.uinputs = w.uinputs
  grabbers : w₁.grabbers = w.grabbers
  log : w₁.log = calls ++ w.log
  created : CreatedBy calls h
  noFree : ∀ q, Call.libevdevFree q ∉ calls
  noClose : ∀ n, Call.posixClose n ∉ calls
  fresh : V.evdevs w.env h = none
  live : ∃ v, V.evdevs w₁.env h = some v
  kept : ∀ q v, V.evdevs w.env q = some v → V.evdevs w₁.env q = some v

theorem gained_new (hdoc : P.Documented V) (hnew : (P.libevdevNew w.env).1 = some h) :
    Gained V w (w.called (.libevdevNew (some h)) (P.libevdevNew w.env).2)
      [.libevdevNew (some h)] h := by
  have hlaw := (hdoc.libevdevNew w.env).1
  simp only [hnew] at hlaw
  exact {
    devices := rfl
    uinputs := rfl
    grabbers := rfl
    log := rfl
    created := Or.inl (by simp)
    noFree := by simp
    noClose := by simp
    fresh := hlaw.1
    live := ⟨.fresh, by simp [hlaw.2]⟩
    kept := fun q v hv => hdoc.evdevs_libevdevNew hv }

theorem gained_newFromFd (hdoc : P.Documented V) {fd : Fd}
    (hok : 0 ≤ (P.libevdevNewFromFd fd w.env).1.1) :
    ∃ h, (P.libevdevNewFromFd fd w.env).1.2 = some h ∧
      Gained V w
        (w.called (.libevdevNewFromFd fd (P.libevdevNewFromFd fd w.env).1.1 (some h))
          (P.libevdevNewFromFd fd w.env).2)
        [.libevdevNewFromFd fd (P.libevdevNewFromFd fd w.env).1.1 (some h)] h := by
  rcases (hdoc.libevdevNewFromFd fd w.env).2 hok with ⟨_, _, _, h, hdev, hfresh, hev⟩
  refine ⟨h, hdev, ?_⟩
  exact {
    devices := rfl
    uinputs := rfl
    grabbers := rfl
    log := rfl
    created := Or.inr ⟨fd, _, List.mem_singleton_self _⟩
    noFree := by simp
    noClose := by simp
    fresh := hfresh
    live := ⟨_, by rw [World.called_env, hev, Function.update_self]⟩
    kept := fun q v hv => hdoc.evdevs_libevdevNewFromFd hv fd }

/-- `::open` before the new handle. -/
theorem Gained.of_opened (hdoc : P.Documented V) {path : String} {flags : BitVec 32}
    (hgain : Gained V (w.called (.posixOpen path flags (P.posixOpen path flags w.env).1
        (P.errno (P.posixOpen path flags w.env).2)) (P.posixOpen path flags w.env).2) w₁ calls h) :
    Gained V w w₁ (calls ++ [.posixOpen path flags (P.posixOpen path flags w.env).1
      (P.errno (P.posixOpen path flags w.env).2)]) h where
  devices := hgain.devices
  uinputs := hgain.uinputs
  grabbers := hgain.grabbers
  log := by simp [hgain.log]
  created := by
    rcases hgain.created with hnew | ⟨fd, ret, hnew⟩
    · exact Or.inl (List.mem_append_left _ hnew)
    · exact Or.inr ⟨fd, ret, List.mem_append_left _ hnew⟩
  noFree := by simp [hgain.noFree]
  noClose := by simp [hgain.noClose]
  fresh := by
    have hfresh := hgain.fresh
    rwa [World.called_env, (hdoc.posixOpen path flags w.env).2.1] at hfresh
  live := hgain.live
  kept := fun q v hv => hgain.kept q v (hdoc.evdevs_posixOpen hv path flags)

/-- `destroy` and `acquire`, once there is a new handle. -/
theorem Gained.replaced (hdoc : P.Documented V) (hgain : Gained V w w₁ calls h) (fd : Fd) :
    Replaced V w ((w₁.disposed P D).setDevice d (some { raw := some h, ownedFd := fd })) d D fd where
  uinputs := by simp [World.disposed, hgain.uinputs]
  grabbers := by simp [hgain.grabbers]
  calls := by
    refine ⟨h, D.disposal ++ calls, ?_, ?_, ?_, hgain.fresh, ?_, ?_, ?_⟩
    · simp [hgain.devices]
    · simp [World.disposed_log, hgain.log]
    · rcases hgain.created with hnew | ⟨fd', ret, hnew⟩
      · exact Or.inl (List.mem_append_right _ hnew)
      · exact Or.inr ⟨fd', ret, List.mem_append_right _ hnew⟩
    · -- The new handle was not live when the object got its old one, so `destroy` spares it.
      intro hlive
      have hlive₁ : D.Live V w₁.env := by
        intro q hraw
        rcases hlive q hraw with ⟨v, hv⟩
        exact ⟨v, hgain.kept q v hv⟩
      rcases hgain.live with ⟨v, hv⟩
      refine ⟨v, ?_⟩
      calc V.evdevs (w₁.disposed P D).env h
          = V.evdevs w₁.env h := World.evdevs_disposed hdoc hlive₁ (hlive.raw_ne hgain.fresh)
        _ = some v := hv
    · intro q
      have hnone : calls.count (.libevdevFree q) = 0 := List.count_eq_zero.2 (hgain.noFree q)
      rw [List.count_append, hnone, Nat.add_zero]
      exact count_free_disposal D q
    · intro n
      have hnone : calls.count (.posixClose n) = 0 := List.count_eq_zero.2 (hgain.noClose n)
      rw [List.count_append, hnone, Nat.add_zero]
      exact count_close_disposal D n

/-! ### The three overloads -/

theorem create_recreates (hdoc : P.Documented V) (hD : w.devices d = some D) :
    Recreates V w d D (-1) (create P d w) := by
  have happly := create_apply (P := P) hD
  simp only at happly
  cases hnew : (P.libevdevNew w.env).1 with
  | none =>
      have hlaw := hdoc.libevdevNew w.env
      simp only [hnew] at hlaw happly
      rcases hlaw with ⟨hev, hfiles, hui⟩
      have hlost : NothingLost V w (w.called (.libevdevNew none) (P.libevdevNew w.env).2) :=
        (NothingLost.refl V w).called (by simp) (by simp) (by simp)
          (fun q v hv => by rw [hev]; exact hv) hui
      rw [happly]
      refine ⟨Or.inl ⟨_, _, rfl⟩, fun e w' hthrew => ?_, fun w' hret => by cases hret⟩
      cases hthrew
      exact ⟨hlost, fun n f hf => by rw [World.called_env, hfiles]; exact hf⟩
  | some h =>
      simp only [hnew] at happly
      rw [happly]
      refine ⟨Or.inr ⟨_, rfl⟩, fun e w' hthrew => (by cases hthrew), fun w' hret => ?_⟩
      cases hret
      exact (gained_new hdoc hnew).replaced hdoc (-1)

/-- `libevdev_new_from_fd` fails. -/
theorem nothingLost_newFromFd (hdoc : P.Documented V) (hlost : NothingLost V w w₁) {fd : Fd}
    (hneg : (P.libevdevNewFromFd fd w₁.env).1.1 < 0) :
    NothingLost V w (w₁.called (.libevdevNewFromFd fd (P.libevdevNewFromFd fd w₁.env).1.1
      (P.libevdevNewFromFd fd w₁.env).1.2) (P.libevdevNewFromFd fd w₁.env).2) := by
  rcases (hdoc.libevdevNewFromFd fd w₁.env).1 hneg with ⟨_, hev, hui⟩
  exact hlost.called (by simp) (by simp) (by simp) (fun q v hv => by rw [hev]; exact hv) hui

theorem createFd_recreates (hdoc : P.Documented V) (hD : w.devices d = some D) (fd : Fd) :
    Recreates V w d D fd (createFd P d fd w) := by
  have happly := createFd_apply (P := P) hD fd
  simp only at happly
  by_cases hneg : (P.libevdevNewFromFd fd w.env).1.1 < 0
  · simp only [hneg, if_true] at happly
    have hlost := nothingLost_newFromFd hdoc (NothingLost.refl V w) hneg
    rw [happly]
    refine ⟨Or.inl ⟨_, _, rfl⟩, fun e w' hthrew => ?_, fun w' hret => by cases hret⟩
    cases hthrew
    exact ⟨hlost, fun n f hf => by rw [World.called_env, hdoc.files_libevdevNewFromFd]; exact hf⟩
  · rcases gained_newFromFd hdoc (Int.not_lt.1 hneg) with ⟨h, hdev, hgain⟩
    simp only [hneg, if_false, hdev] at happly
    rw [happly]
    refine ⟨Or.inr ⟨_, rfl⟩, fun e w' hthrew => (by cases hthrew), fun w' hret => ?_⟩
    cases hret
    exact hgain.replaced hdoc fd

theorem createPath_recreates (hdoc : P.Documented V) (hD : w.devices d = some D)
    (filename : String) (flags : BitVec 32) :
    Recreates V w d D (P.posixOpen filename flags w.env).1 (createPath P d filename flags w) := by
  have happly := createPath_apply (P := P) hD filename flags
  simp only at happly
  let w₁ := w.called (.posixOpen filename flags (P.posixOpen filename flags w.env).1
    (P.errno (P.posixOpen filename flags w.env).2)) (P.posixOpen filename flags w.env).2
  have hlaw := hdoc.posixOpen filename flags w.env
  have hopened : NothingLost V w w₁ :=
    (NothingLost.refl V w).called (by simp) (by simp) (by simp)
      (fun q v hv => hdoc.evdevs_posixOpen hv filename flags) hlaw.2.2
  by_cases hlow : (P.posixOpen filename flags w.env).1 < 1
  · simp only [hlow, if_true] at happly
    rw [happly]
    refine ⟨Or.inl ⟨_, _, rfl⟩, fun e w' hthrew => ?_, fun w' hret => by cases hret⟩
    cases hthrew
    exact ⟨hopened, fun n f hf => hdoc.files_posixOpen hf filename flags⟩
  · by_cases hneg : (P.libevdevNewFromFd (P.posixOpen filename flags w.env).1
        (P.posixOpen filename flags w.env).2).1.1 < 0
    · simp only [hlow, hneg, if_true, if_false] at happly
      -- The descriptor that is closed again is the one that `::open` has just found unused.
      have hfresh : V.files w.env (P.posixOpen filename flags w.env).1 = none := by
        rcases hlaw.1 with ⟨hminus, _⟩ | ⟨_, hfresh, _⟩
        · rw [hminus] at hlow
          exact absurd (by decide) hlow
        · exact hfresh
      have hlost := nothingLost_newFromFd hdoc hopened hneg
      have hclosed := hlost.called (c := .posixClose (P.posixOpen filename flags w.env).1)
        (s := P.posixClose (P.posixOpen filename flags w.env).1
          (P.libevdevNewFromFd (P.posixOpen filename flags w.env).1
            (P.posixOpen filename flags w.env).2).2)
        (by simp) (by simp) (by simp [hfresh])
        (fun q v hv => (congrFun (hdoc.posixClose _ _).2.1 q).trans hv) (hdoc.posixClose _ _).2.2
      rw [happly]
      refine ⟨Or.inl ⟨_, _, rfl⟩, fun e w' hthrew => ?_, fun w' hret => by cases hret⟩
      cases hthrew
      refine ⟨hclosed, fun n f hf => ?_⟩
      have hne : n ≠ (P.posixOpen filename flags w.env).1 := ne_of_lives_of_free hf hfresh
      calc V.files (P.posixClose _ _) n
          = V.files (P.libevdevNewFromFd _ (P.posixOpen filename flags w.env).2).2 n := by
            rw [(hdoc.posixClose _ _).1, Function.update_of_ne hne]
        _ = V.files (P.posixOpen filename flags w.env).2 n := by
            rw [hdoc.files_libevdevNewFromFd]
        _ = some f := hdoc.files_posixOpen hf filename flags
    · rcases gained_newFromFd (w := w₁) hdoc (Int.not_lt.1 hneg) with ⟨h, hdev, hgain⟩
      have hdev' : (P.libevdevNewFromFd (P.posixOpen filename flags w.env).1
        (P.posixOpen filename flags w.env).2).1.2 = some h := hdev
      simp only [hlow, hneg, if_false, hdev'] at happly
      rw [happly]
      refine ⟨Or.inr ⟨_, rfl⟩, fun e w' hthrew => (by cases hthrew), fun w' hret => ?_⟩
      cases hret
      exact (hgain.of_opened hdoc).replaced hdoc _

end Device

/-! ## Uinputs -/

namespace Uinput

variable {w : World σ} {u : UinputId} {U : Uinput} {dev : DeviceId} {fd : Fd}

/-- The calls `destroy` makes with the released value. -/
def disposal (U : Uinput) : List Call :=
  match U.raw with
  | some q => [.libevdevUinputDestroy q]
  | none => []

theorem udestroyed_log (w : World σ) (U : Uinput) :
    (w.udestroyed P U.raw).log = U.disposal ++ w.log := by
  rcases U with ⟨⟨raw⟩⟩
  cases raw <;> rfl

theorem count_disposal (U : Uinput) (q : UinputHandle) :
    U.disposal.count (.libevdevUinputDestroy q) = if U.raw = some q then 1 else 0 := by
  rcases U with ⟨⟨raw⟩⟩
  cases raw with
  | none => simp [disposal]
  | some h => simp [disposal, List.count_cons]

theorem eq_of_mem_disposal {c : Call} (hmem : c ∈ U.disposal) :
    ∃ q, c = .libevdevUinputDestroy q := by
  rcases U with ⟨⟨raw⟩⟩
  cases raw with
  | none => simp [disposal] at hmem
  | some q => exact ⟨q, by simpa [disposal] using hmem⟩

/-- `destroy` destroys the handle of the object and no other. -/
theorem uinputs_udestroyed (hdoc : P.Documented V) {raw : Option UinputHandle} {p : UinputHandle}
    (hne : raw ≠ some p) : V.uinputs (w.udestroyed P raw).env p = V.uinputs w.env p := by
  cases raw with
  | none => rfl
  | some q =>
      have hpq : p ≠ q := by
        intro heq
        exact hne (heq ▸ rfl)
      show V.uinputs (P.libevdevUinputDestroy q w.env) p = V.uinputs w.env p
      rw [(hdoc.libevdevUinputDestroy q w.env).1, Function.update_of_ne hpq]

theorem evdevs_udestroyed (hdoc : P.Documented V) (w : World σ) (raw : Option UinputHandle) :
    V.evdevs (w.udestroyed P raw).env = V.evdevs w.env := by
  cases raw with
  | none => rfl
  | some q => exact (hdoc.libevdevUinputDestroy q w.env).2

/-- `destroy` and `acquire`, once `libevdev_uinput_create_from_device` has succeeded. -/
theorem replaced (hdoc : P.Documented V) {h : Handle}
    (hok : 0 ≤ (P.libevdevUinputCreateFromDevice h fd w.env).1.1) :
    let r := P.libevdevUinputCreateFromDevice h fd w.env
    let w₁ := w.called (.libevdevUinputCreateFromDevice h fd r.1.1 r.1.2) r.2
    Replaced V w ((w₁.udestroyed P U.raw).setUinput u (some { raw := r.1.2 })) u U := by
  intro r w₁
  rcases hdoc.libevdevUinputCreateFromDevice h fd w.env with ⟨_, hsucceeds, hev⟩
  rcases hsucceeds hok with ⟨p, hdev, hfresh, hui⟩
  have hui₁ : V.uinputs w₁.env = Function.update (V.uinputs w.env) p true := hui
  refine ⟨?_, ?_, ?_, p, h, fd, r.1.1, U.disposal ++ [.libevdevUinputCreateFromDevice h fd r.1.1 r.1.2],
    ?_, ?_, ?_, hfresh, ?_, ?_, ?_, ?_⟩
  · exact World.udestroyed_devices P w₁ U.raw
  · exact (evdevs_udestroyed hdoc w₁ U.raw).trans hev
  · exact World.udestroyed_grabbers P w₁ U.raw
  · simp [w₁, r, hdev]
  · simp [w₁, r, udestroyed_log]
  · simp [r, hdev]
  · -- The new handle is none of those that were live, so `destroy` spares it.
    intro hlive
    have hne : U.raw ≠ some p := by
      intro hraw
      rw [hlive p hraw] at hfresh
      cases hfresh
    calc V.uinputs (w₁.udestroyed P U.raw).env p
        = V.uinputs w₁.env p := uinputs_udestroyed hdoc hne
      _ = true := by rw [hui₁, Function.update_self]
  · intro q
    rw [List.count_append, count_disposal]
    simp
  · intro q hmem
    rcases List.mem_append.1 hmem with hmem | hmem
    · rcases eq_of_mem_disposal hmem with ⟨q', hq'⟩
      cases hq'
    · simp at hmem
  · intro n hmem
    rcases List.mem_append.1 hmem with hmem | hmem
    · rcases eq_of_mem_disposal hmem with ⟨q', hq'⟩
      cases hq'
    · simp at hmem

theorem Recreates.of_undefined {r : Outcome Exn (World σ) Unit} (hr : r = .undefined)
    (hinvalid : ¬ ∃ D h, w.devices dev = some D ∧ D.raw = some h) :
    Recreates V w u U dev r where
  ends := fun hvalid => absurd hvalid hinvalid
  threw := by
    intro e w' hthrew
    rw [hr] at hthrew
    cases hthrew
  returned := by
    intro w' hret
    rw [hr] at hret
    cases hret

theorem create_recreates (hdoc : P.Documented V) (hU : w.uinputs u = some U) (dev : DeviceId)
    (fd : Fd) : Recreates V w u U dev (create P u dev fd w) := by
  cases hD : w.devices dev with
  | none =>
      refine Recreates.of_undefined (create_apply_dangling hU hD fd) ?_
      rintro ⟨D, h, hD', _⟩
      rw [hD] at hD'
      cases hD'
  | some D =>
      cases hraw : D.raw with
      | none =>
          refine Recreates.of_undefined (create_apply_invalid hU hD hraw fd) ?_
          rintro ⟨D', h, hD', hraw'⟩
          rw [hD] at hD'
          cases hD'
          rw [hraw] at hraw'
          cases hraw'
      | some h =>
          have happly := create_apply (P := P) hU hD hraw fd
          simp only at happly
          by_cases hneg : (P.libevdevUinputCreateFromDevice h fd w.env).1.1 < 0
          · simp only [hneg, if_true] at happly
            have hlaw := hdoc.libevdevUinputCreateFromDevice h fd w.env
            have hlost := (NothingLost.refl V w).called (c := .libevdevUinputCreateFromDevice h fd
                (P.libevdevUinputCreateFromDevice h fd w.env).1.1
                (P.libevdevUinputCreateFromDevice h fd w.env).1.2)
              (by simp) (by simp) (by simp)
              (fun q v hv => (congrFun hlaw.2.2 q).trans hv) (hlaw.1 hneg)
            rw [happly]
            refine ⟨fun _ => Or.inl ⟨_, _, rfl⟩, fun e w' hthrew => ?_,
              fun w' hret => by cases hret⟩
            cases hthrew
            exact ⟨hlost, hlaw.2.2⟩
          · simp only [hneg, if_false] at happly
            rw [happly]
            refine ⟨fun _ => Or.inr ⟨_, rfl⟩, fun e w' hthrew => (by cases hthrew),
              fun w' hret => ?_⟩
            cases hret
            exact replaced hdoc (Int.not_lt.1 hneg)

end Uinput

/-! ## The law -/

/-- On every state of the object, and of the source device of a `Uinput`: a `create` that throws has
changed no object and has freed, destroyed and closed nothing that was there, and one that returns
has given up what the object held, once, and the object holds the new handle. -/
theorem recreation_all_or_nothing (hdoc : P.Documented V) (w : World σ) :
    (∀ d D, w.devices d = some D →
      Device.Recreates V w d D (-1) (Device.create P d w) ∧
      (∀ fd, Device.Recreates V w d D fd (Device.createFd P d fd w)) ∧
      ∀ filename flags, Device.Recreates V w d D (P.posixOpen filename flags w.env).1
        (Device.createPath P d filename flags w)) ∧
    ∀ u U, w.uinputs u = some U →
      ∀ dev fd, Uinput.Recreates V w u U dev (Uinput.create P u dev fd w) := by
  constructor
  · intro d D hD
    exact ⟨Device.create_recreates hdoc hD, fun fd => Device.createFd_recreates hdoc hD fd,
      fun filename flags => Device.createPath_recreates hdoc hD filename flags⟩
  · intro u U hU dev fd
    exact Uinput.create_recreates hdoc hU dev fd

/-- A default-constructed device is opened again by path, with the descriptor 3 and the handle 1. -/
theorem recreation_all_or_nothing_path :
    Device.Recreates Script.views (Script.withDevice { opens := [3], handles := [1] }) 0
      { raw := some 0 } 3
      (Device.createPath Script.platform 0 "/dev/input/event0" 0
        (Script.withDevice { opens := [3], handles := [1] })) :=
  ((recreation_all_or_nothing Script.documented
    (Script.withDevice { opens := [3], handles := [1] })).1 0 { raw := some 0 } rfl).2.2
      "/dev/input/event0" 0

end Evdevxx
