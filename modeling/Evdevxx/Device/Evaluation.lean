import Evdevxx.Model.Device

/-!
# Evaluation — how the member functions of `Device` end

One lemma for each member function: the outcome as a case distinction on the answers of the
platform, with the world it leaves.  `World.disposed` is what `destroy` does to the platform with
the released values; the object itself is then the empty `{}`.
-/

namespace Evdevxx

open Op

/-! ## The primitives -/

section Primitives

variable {σ α : Type} (P : Platform σ) (w : World σ)

@[simp] theorem throwSysError_apply (e : Int) (msg : String) :
    (throwSysError e msg : Op σ α) w = .threw (.std (.systemError e (some msg))) w := rfl

@[simp] theorem throwErrno_apply (e : Int) :
    (throwErrno e : Op σ α) w = .threw (.std (.systemError e none)) w := rfl

@[simp] theorem throwRuntimeError_apply (what : String) :
    (throwRuntimeError what : Op σ α) w = .threw (.std (.runtimeError what)) w := rfl

@[simp] theorem throwLogicError_apply (what : String) :
    (throwLogicError what : Op σ α) w = .threw (.std (.logicError what)) w := rfl

@[simp] theorem deref_some_apply (h : α) : (deref (some h) : Op σ α) w = .returned h w := rfl

@[simp] theorem deref_none_apply : (deref none : Op σ α) w = .undefined := rfl

@[simp] theorem errno_apply : errno P w = .returned (P.errno w.env) w := rfl

@[simp] theorem posixOpen_apply (path : String) (flags : BitVec 32) :
    posixOpen P path flags w = .returned (P.posixOpen path flags w.env).1
      (w.called (.posixOpen path flags (P.posixOpen path flags w.env).1
        (P.errno (P.posixOpen path flags w.env).2)) (P.posixOpen path flags w.env).2) := rfl

@[simp] theorem posixClose_apply (fd : Fd) :
    posixClose P fd w =
      .returned () (w.called (.posixClose fd) (P.posixClose fd w.env)) := rfl

@[simp] theorem fcntlGetfl_apply (fd : Fd) :
    fcntlGetfl P fd w =
      .returned (P.fcntlGetfl fd w.env).1 (w.withEnv (P.fcntlGetfl fd w.env).2) := rfl

@[simp] theorem fcntlSetfl_apply (fd : Fd) (flags : BitVec 32) :
    fcntlSetfl P fd flags w =
      .returned (P.fcntlSetfl fd flags w.env).1 (w.withEnv (P.fcntlSetfl fd flags w.env).2) := rfl

@[simp] theorem libevdevNew_apply :
    libevdevNew P w = .returned (P.libevdevNew w.env).1
      (w.called (.libevdevNew (P.libevdevNew w.env).1) (P.libevdevNew w.env).2) := rfl

@[simp] theorem libevdevNewFromFd_apply (fd : Fd) :
    libevdevNewFromFd P fd w = .returned (P.libevdevNewFromFd fd w.env).1
      (w.called (.libevdevNewFromFd fd (P.libevdevNewFromFd fd w.env).1.1
        (P.libevdevNewFromFd fd w.env).1.2) (P.libevdevNewFromFd fd w.env).2) := rfl

@[simp] theorem libevdevFree_apply (h : Handle) :
    libevdevFree P h w =
      .returned () (w.called (.libevdevFree h) (P.libevdevFree h w.env)) := rfl

@[simp] theorem libevdevSetFd_apply (h : Handle) (fd : Fd) :
    libevdevSetFd P h fd w = .returned (P.libevdevSetFd h fd w.env).1
      (w.called (.libevdevSetFd h fd (P.libevdevSetFd h fd w.env).1)
        (P.libevdevSetFd h fd w.env).2) := rfl

@[simp] theorem libevdevChangeFd_apply (h : Handle) (fd : Fd) :
    libevdevChangeFd P h fd w = .returned (P.libevdevChangeFd h fd w.env).1
      (w.called (.libevdevChangeFd h fd (P.libevdevChangeFd h fd w.env).1)
        (P.libevdevChangeFd h fd w.env).2) := rfl

@[simp] theorem libevdevGetFd_apply (h : Handle) :
    libevdevGetFd P h w = .returned (P.libevdevGetFd h w.env) w := rfl

@[simp] theorem libevdevGrab_apply (h : Handle) (mode : GrabMode) :
    libevdevGrab P h mode w = .returned (P.libevdevGrab h mode w.env).1
      (w.called (.libevdevGrab h mode (P.libevdevGrab h mode w.env).1)
        (P.libevdevGrab h mode w.env).2) := rfl

@[simp] theorem libevdevSetDeviceLogFunction_apply (h : Handle) (priority : LogLevel)
    (data : DeviceId) :
    libevdevSetDeviceLogFunction P h priority data w =
      .returned () (w.called (.libevdevSetDeviceLogFunction h priority data)
        (P.libevdevSetDeviceLogFunction h priority data w.env)) := rfl

@[simp] theorem libevdevNextEvent_apply (h : Handle) (flags : ReadFlag) :
    libevdevNextEvent P h flags w = .returned (P.libevdevNextEvent h flags w.env).1
      (w.withEnv (P.libevdevNextEvent h flags w.env).2) := rfl

@[simp] theorem libevdevUinputCreateFromDevice_apply (h : Handle) (fd : Fd) :
    libevdevUinputCreateFromDevice P h fd w =
      .returned (P.libevdevUinputCreateFromDevice h fd w.env).1
        (w.called (.libevdevUinputCreateFromDevice h fd
          (P.libevdevUinputCreateFromDevice h fd w.env).1.1
          (P.libevdevUinputCreateFromDevice h fd w.env).1.2)
          (P.libevdevUinputCreateFromDevice h fd w.env).2) := rfl

@[simp] theorem libevdevUinputDestroy_apply (u : UinputHandle) :
    libevdevUinputDestroy P u w =
      .returned () (w.called (.libevdevUinputDestroy u) (P.libevdevUinputDestroy u w.env)) := rfl

end Primitives

/-! ## What `destroy` does with the released values -/

/-- The calls `destroy` makes with the released values, newest first. -/
def Device.disposal (D : Device) : List Call :=
  (if D.ownedFd ≠ -1 then [.posixClose D.ownedFd] else []) ++
    match D.raw with
    | some h => [.libevdevFree h]
    | none => []

theorem Device.eq_of_mem_disposal {D : Device} {c : Call} (hmem : c ∈ D.disposal) :
    (∃ h, c = .libevdevFree h) ∨ ∃ fd, c = .posixClose fd := by
  rcases List.mem_append.1 hmem with hclose | hfree
  · split at hclose
    · exact Or.inr ⟨_, List.mem_singleton.1 hclose⟩
    · cases hclose
  · split at hfree
    · exact Or.inl ⟨_, List.mem_singleton.1 hfree⟩
    · cases hfree

namespace World

variable {σ : Type} (P : Platform σ) (w : World σ)

def freed (raw : Option Handle) : World σ :=
  match raw with
  | some h => w.called (.libevdevFree h) (P.libevdevFree h w.env)
  | none => w

def closed (fd : Fd) : World σ :=
  if fd ≠ -1 then w.called (.posixClose fd) (P.posixClose fd w.env) else w

def disposed (D : Device) : World σ :=
  (w.freed P D.raw).closed P D.ownedFd

section Projections

variable (raw : Option Handle) (fd : Fd) (D : Device) (d : DeviceId) (D' : Option Device)

@[simp] theorem freed_none : w.freed P none = w := rfl

@[simp] theorem freed_devices : (w.freed P raw).devices = w.devices := by
  cases raw <;> rfl

@[simp] theorem freed_uinputs : (w.freed P raw).uinputs = w.uinputs := by
  cases raw <;> rfl

@[simp] theorem freed_grabbers : (w.freed P raw).grabbers = w.grabbers := by
  cases raw <;> rfl

@[simp] theorem freed_setDevice :
    (w.setDevice d D').freed P raw = (w.freed P raw).setDevice d D' := by
  cases raw <;> rfl

@[simp] theorem closed_devices : (w.closed P fd).devices = w.devices := by
  unfold closed; split <;> rfl

@[simp] theorem closed_uinputs : (w.closed P fd).uinputs = w.uinputs := by
  unfold closed; split <;> rfl

@[simp] theorem closed_grabbers : (w.closed P fd).grabbers = w.grabbers := by
  unfold closed; split <;> rfl

@[simp] theorem closed_setDevice :
    (w.setDevice d D').closed P fd = (w.closed P fd).setDevice d D' := by
  unfold closed; split <;> rfl

@[simp] theorem disposed_devices : (w.disposed P D).devices = w.devices := by
  simp [disposed]

@[simp] theorem disposed_grabbers : (w.disposed P D).grabbers = w.grabbers := by
  simp [disposed]

@[simp] theorem disposed_empty : w.disposed P {} = w := by
  simp [disposed, closed]

theorem disposed_log : (w.disposed P D).log = D.disposal ++ w.log := by
  rcases D with ⟨⟨raw⟩, fd⟩
  by_cases hfd : fd = -1
  · cases raw <;> simp [disposed, closed, freed, Device.disposal, hfd]
  · cases raw <;> simp [disposed, closed, freed, Device.disposal, hfd]

theorem closed_of_none : w.closed P (-1) = w := by
  simp [closed]

theorem closed_of_ne (h : fd ≠ -1) :
    w.closed P fd = w.called (.posixClose fd) (P.posixClose fd w.env) := by
  simp [closed, h]

end Projections

end World

/-! ### Held handles -/

namespace World

variable {σ : Type} {w w' : World σ} {d d' : DeviceId} {D : Device} {X : Option Device}

/-- The handle that the object at `d` holds, if it holds one. -/
def rawAt (w : World σ) (d : DeviceId) : Option Handle :=
  (w.devices d).bind (·.raw)

theorem rawAt_of_some (hD : w.devices d = some D) : w.rawAt d = D.raw := by
  simp [rawAt, hD]

theorem rawAt_of_none (hD : w.devices d = none) : w.rawAt d = none := by
  simp [rawAt, hD]

theorem rawAt_congr (hdev : w'.devices = w.devices) (d : DeviceId) : w'.rawAt d = w.rawAt d := by
  simp [rawAt, hdev]

@[simp] theorem rawAt_setDevice_self : (w.setDevice d X).rawAt d = X.bind (·.raw) := by
  simp [rawAt]

theorem rawAt_setDevice_of_ne (hne : d' ≠ d) : (w.setDevice d X).rawAt d' = w.rawAt d' := by
  simp [rawAt, hne]

end World

/-! ### Live handles -/

/-- The handle of the object, if it has one, is live. -/
def Device.Live {σ : Type} (V : Views σ) (s : σ) (D : Device) : Prop :=
  ∀ h, D.raw = some h → ∃ v, V.evdevs s h = some v

section Live

variable {σ : Type} {P : Platform σ} {V : Views σ} {s : σ} {w : World σ} {D : Device} {h : Handle}

theorem Device.Live.of_invalid (hinvalid : D.raw = none) : D.Live V s := by
  intro q hraw
  simp [hinvalid] at hraw

/-- The handle of the object is not one that was not live. -/
theorem Device.Live.raw_ne (hlive : D.Live V s) (hfresh : V.evdevs s h = none) :
    D.raw ≠ some h := by
  intro hraw
  rcases hlive h hraw with ⟨v, hv⟩
  exact ne_of_lives_of_free hv hfresh rfl

theorem Device.Live.opened (hdoc : P.Documented V) (hlive : D.Live V s) (path : String)
    (flags : BitVec 32) : D.Live V (P.posixOpen path flags s).2 := by
  intro q hraw
  rcases hlive q hraw with ⟨v, hv⟩
  exact ⟨v, hdoc.evdevs_posixOpen hv path flags⟩

theorem Device.Live.new (hdoc : P.Documented V) (hlive : D.Live V s) :
    D.Live V (P.libevdevNew s).2 := by
  intro q hraw
  rcases hlive q hraw with ⟨v, hv⟩
  exact ⟨v, hdoc.evdevs_libevdevNew hv⟩

theorem Device.Live.newFromFd (hdoc : P.Documented V) (hlive : D.Live V s) (fd : Fd) :
    D.Live V (P.libevdevNewFromFd fd s).2 := by
  intro q hraw
  rcases hlive q hraw with ⟨v, hv⟩
  exact ⟨v, hdoc.evdevs_libevdevNewFromFd hv fd⟩

namespace World

theorem evdevs_closed (hdoc : P.Documented V) (w : World σ) (fd : Fd) :
    V.evdevs (w.closed P fd).env = V.evdevs w.env := by
  unfold closed
  split
  · exact (hdoc.posixClose fd w.env).2.1
  · rfl

/-- `destroy` touches no other handle. -/
theorem evdevs_disposed (hdoc : P.Documented V) (hlive : D.Live V w.env) (hne : D.raw ≠ some h) :
    V.evdevs (w.disposed P D).env h = V.evdevs w.env h := by
  have hfreed : V.evdevs (w.freed P D.raw).env h = V.evdevs w.env h := by
    cases hraw : D.raw with
    | none => rfl
    | some q =>
        rcases hlive q hraw with ⟨v, hv⟩
        -- `libevdev_free` is given the handle of the object only.
        have hqh : h ≠ q := by
          intro heq
          exact hne (heq ▸ hraw)
        calc V.evdevs (P.libevdevFree q w.env) h
            = Function.update (V.evdevs w.env) q none h := by
              rw [(hdoc.libevdevFree q w.env v hv).1]
          _ = V.evdevs w.env h := Function.update_of_ne hqh _ _
  calc V.evdevs (w.disposed P D).env h
      = V.evdevs (w.freed P D.raw).env h := by rw [disposed, evdevs_closed hdoc]
    _ = V.evdevs w.env h := hfreed

/-- `destroy` ends the life of the handle of the object. -/
theorem evdevs_disposed_self (hdoc : P.Documented V) (hlive : D.Live V w.env)
    (hraw : D.raw = some h) : V.evdevs (w.disposed P D).env h = none := by
  rcases hlive h hraw with ⟨v, hv⟩
  calc V.evdevs (w.disposed P D).env h
      = V.evdevs (w.freed P D.raw).env h := by rw [disposed, evdevs_closed hdoc]
    _ = V.evdevs (P.libevdevFree h w.env) h := by rw [hraw]; rfl
    _ = none := by rw [(hdoc.libevdevFree h w.env v hv).1, Function.update_self]

/-- `destroy` creates no handle. -/
theorem evdevs_of_disposed (hdoc : P.Documented V) (hlive : D.Live V w.env) {v : EvdevView}
    (hv : V.evdevs (w.disposed P D).env h = some v) :
    V.evdevs w.env h = some v ∧ D.raw ≠ some h := by
  have hne : D.raw ≠ some h := by
    intro hraw
    rw [evdevs_disposed_self hdoc hlive hraw] at hv
    cases hv
  exact ⟨(evdevs_disposed hdoc hlive hne).symm.trans hv, hne⟩

end World

end Live

/-! ## The member functions -/

namespace Device

variable {σ : Type} {P : Platform σ} {w : World σ} {this other : DeviceId} {D E : Device}

@[simp] theorem isOpen_iff (D : Device) : D.isOpen = true ↔ D.ownedFd ≠ -1 := by
  simp [isOpen]

@[simp] theorem load_apply (hD : w.devices this = some D) : load this w = .returned D w :=
  Memory.load_apply hD

@[simp] theorem load_apply_none (hD : w.devices this = none) : load this w = .undefined :=
  Memory.load_apply_none hD

@[simp] theorem store_apply (D : Device) :
    store this D w = .returned () (w.setDevice this (some D)) := rfl

@[simp] theorem memory_set (X : Option Device) : memory.set w this X = w.setDevice this X := rfl

theorem construct_of_returned {body : Op σ Unit} {w' : World σ}
    (hfree : w.devices this = none)
    (hbody : body (w.setDevice this (some {})) = .returned () w') :
    construct this body w = .returned () w' :=
  Memory.construct_of_returned hfree hbody

theorem construct_of_threw {body : Op σ Unit} {e : Exn} {w' : World σ}
    (hfree : w.devices this = none)
    (hbody : body (w.setDevice this (some {})) = .threw e w') :
    construct this body w = .threw e (w'.setDevice this none) :=
  Memory.construct_of_threw hfree hbody

/-- A constructor ends like its body, but for the lifetime of the object. -/
theorem after_construct {body : Op σ Unit} {w' : World σ}
    (h : (construct this body w).after = some w') :
    w.devices this = none ∧
      (body (w.setDevice this (some {})) = .returned () w' ∨
        ∃ e w₁, body (w.setDevice this (some {})) = .threw e w₁ ∧
          w' = w₁.setDevice this none) := by
  rcases Memory.after_construct h with ⟨hfree, ⟨_, hbody⟩ | hbody⟩
  · exact ⟨hfree, Or.inl hbody⟩
  · exact ⟨hfree, Or.inr hbody⟩

theorem construct_endsBy {body : Op σ Unit} {r : Option Exn} {w' : World σ}
    (h : (construct this body w).EndsBy r w') :
    w.devices this = none ∧
      (r = none ∧ body (w.setDevice this (some {})) = .returned () w' ∨
        ∃ e w₁, r = some e ∧ body (w.setDevice this (some {})) = .threw e w₁ ∧
          w' = w₁.setDevice this none) := by
  rcases after_construct h.after with ⟨hfree, hret | ⟨e, w₁, hthrew, rfl⟩⟩
  · rw [construct_of_returned hfree hret] at h
    exact ⟨hfree, Or.inl ⟨(Outcome.endsBy_returned_iff.1 h).1, hret⟩⟩
  · rw [construct_of_threw hfree hthrew] at h
    exact ⟨hfree, Or.inr ⟨e, w₁, (Outcome.endsBy_threw_iff.1 h).1, hthrew, rfl⟩⟩

@[simp] theorem freeIfSet_apply (raw : Option Handle) :
    freeIfSet P raw w = .returned () (w.freed P raw) := by
  cases raw <;> rfl

@[simp] theorem closeIfSet_apply (fd : Fd) :
    closeIfSet P fd w = .returned () (w.closed P fd) := by
  unfold closeIfSet World.closed
  split <;> rfl

theorem acquire_apply (hD : w.devices this = some D) (raw : Option Handle) (fd : Fd) :
    acquire this raw fd w =
      .returned () (w.setDevice this (some { raw := raw, ownedFd := fd })) := by
  apply Prog.noexcept_of_returned
  simp [hD, BasicWrapper.acquire]

theorem release_apply (hD : w.devices this = some D) :
    release this w = .returned (D.raw, D.ownedFd) (w.setDevice this (some {})) := by
  apply Prog.noexcept_of_returned
  simp only [Prog.bind_apply, load_apply hD, Outcome.returned_andThen, store_apply,
    Prog.pure_apply]
  rfl

theorem destroy_apply (hD : w.devices this = some D) :
    destroy P this w = .returned () ((w.disposed P D).setDevice this (some {})) := by
  apply Prog.noexcept_of_returned
  simp [release_apply hD, World.disposed]

/-- `destroy` followed by `acquire`, the end of every `create`. -/
theorem destroy_acquire_apply (hD : w.devices this = some D) (raw : Option Handle) (fd : Fd) :
    (destroy P this >>= fun _ => acquire this raw fd) w =
      .returned () ((w.disposed P D).setDevice this (some { raw := raw, ownedFd := fd })) := by
  -- `acquire` finds the object that `destroy` has left empty.
  have hempty : ((w.disposed P D).setDevice this (some {})).devices this = some {} := by simp
  simp [destroy_apply hD, acquire_apply hempty]

theorem create_apply (hD : w.devices this = some D) :
    create P this w =
      let w₁ := w.called (.libevdevNew (P.libevdevNew w.env).1) (P.libevdevNew w.env).2
      if (P.libevdevNew w.env).1 = none then
        .threw (.std (.runtimeError "Could not construct libevdev device.")) w₁
      else
        .returned () ((w₁.disposed P D).setDevice this
          (some { raw := (P.libevdevNew w.env).1, ownedFd := -1 })) := by
  simp only [create, Prog.bind_apply, load_apply hD, libevdevNew_apply, Outcome.returned_andThen,
    Prog.ite_apply', throwRuntimeError_apply]
  split
  · rfl
  · exact destroy_acquire_apply (by simpa using hD) _ _

theorem createFd_apply (hD : w.devices this = some D) (fd : Fd) :
    createFd P this fd w =
      let r := P.libevdevNewFromFd fd w.env
      let w₁ := w.called (.libevdevNewFromFd fd r.1.1 r.1.2) r.2
      if r.1.1 < 0 then
        .threw (.std (.systemError (-r.1.1) (some "libevdev_new_from_fd()"))) w₁
      else
        .returned () ((w₁.disposed P D).setDevice this
          (some { raw := r.1.2, ownedFd := fd })) := by
  simp only [createFd, Prog.bind_apply, load_apply hD, libevdevNewFromFd_apply,
    Outcome.returned_andThen, Prog.ite_apply', throwSysError_apply]
  split
  · rfl
  · exact destroy_acquire_apply (by simpa using hD) _ _

theorem createPath_apply (hD : w.devices this = some D) (filename : String)
    (flags : BitVec 32) :
    createPath P this filename flags w =
      let o := P.posixOpen filename flags w.env
      let w₁ := w.called (.posixOpen filename flags o.1 (P.errno o.2)) o.2
      let r := P.libevdevNewFromFd o.1 o.2
      let w₂ := w₁.called (.libevdevNewFromFd o.1 r.1.1 r.1.2) r.2
      if o.1 < 1 then
        .threw (.std (.systemError (P.errno o.2) (some ("open(\"" ++ filename ++ "\")")))) w₁
      else if r.1.1 < 0 then
        .threw (.std (.systemError (-r.1.1) (some "libevdev_new_from_fd()")))
          (w₂.called (.posixClose o.1) (P.posixClose o.1 r.2))
      else
        .returned () ((w₂.disposed P D).setDevice this
          (some { raw := r.1.2, ownedFd := o.1 })) := by
  -- The three ends are the refused descriptor, the metadata that cannot be read, and success.
  simp only [createPath, Prog.bind_apply, load_apply hD, posixOpen_apply,
    libevdevNewFromFd_apply, Outcome.returned_andThen, Prog.ite_apply', throwSysError_apply,
    errno_apply, posixClose_apply, World.called_env]
  split
  · rfl
  · split
    · rfl
    · exact destroy_acquire_apply (by simpa using hD) _ _

theorem setFd_apply {h : Handle} (hD : w.devices this = some D) (hraw : D.raw = some h)
    (fd : Fd) :
    setFd P this fd w =
      let r := P.libevdevSetFd h fd w.env
      let w₁ := w.called (.libevdevSetFd h fd r.1) r.2
      if r.1 < 0 then
        .threw (.std (.systemError (-r.1) (some "libevdev_set_fd()."))) w₁
      else
        .returned () w₁ := by
  simp [setFd, hD, hraw]

theorem changeFd_apply {h : Handle} (hD : w.devices this = some D) (hraw : D.raw = some h)
    (fd : Fd) :
    changeFd P this fd w =
      let r := P.libevdevChangeFd h fd w.env
      let w₁ := w.called (.libevdevChangeFd h fd r.1) r.2
      if r.1 ≠ 0 then
        .threw (.std (.runtimeError "libevdev_change_fd().")) w₁
      else
        .returned () w₁ := by
  simp [changeFd, hD, hraw]

theorem getFd_apply {h : Handle} (hD : w.devices this = some D) (hraw : D.raw = some h) :
    getFd P this w =
      if P.libevdevGetFd h w.env = -1 then
        .threw (.std (.logicError "libevdev_get_fd() failed.")) w
      else
        .returned (P.libevdevGetFd h w.env) w := by
  simp [getFd, hD, hraw]

theorem grab_apply {h : Handle} (hD : w.devices this = some D) (hraw : D.raw = some h) :
    grab P this w =
      let r := P.libevdevGrab h .grab w.env
      let w₁ := w.called (.libevdevGrab h .grab r.1) r.2
      if r.1 < 0 then
        .threw (.std (.systemError (-r.1) (some "libevdev_grab()."))) w₁
      else
        .returned () w₁ := by
  simp [grab, hD, hraw]

theorem ungrab_apply {h : Handle} (hD : w.devices this = some D) (hraw : D.raw = some h) :
    ungrab P this w =
      let r := P.libevdevGrab h .ungrab w.env
      let w₁ := w.called (.libevdevGrab h .ungrab r.1) r.2
      if r.1 < 0 then
        .threw (.std (.systemError (-r.1) (some "libevdev_grab()."))) w₁
      else
        .returned () w₁ := by
  simp [ungrab, hD, hraw]

/-- `open` on a device that is open already. -/
theorem openPath_apply_isOpen (hD : w.devices this = some D) (hopen : D.ownedFd ≠ -1)
    (filename : String) (flags : BitVec 32) :
    openPath P this filename flags w =
      .threw (.std (.logicError "File is already open.")) w := by
  simp [openPath, hD, hopen]

theorem openPath_apply {h : Handle} (hD : w.devices this = some D) (hraw : D.raw = some h)
    (hclosed : D.ownedFd = -1) (filename : String) (flags : BitVec 32) :
    openPath P this filename flags w =
      let o := P.posixOpen filename flags w.env
      let w₁ := w.called (.posixOpen filename flags o.1 (P.errno o.2)) o.2
      let r := P.libevdevSetFd h o.1 o.2
      let D' : Option Device := some { raw := some h, ownedFd := o.1 }
      if o.1 < 0 then
        .threw (.std (.systemError (P.errno o.2)
          (some ("Failed to open \"" ++ filename ++ "\"")))) (w₁.setDevice this D')
      else if r.1 < 0 then
        .threw (.std (.systemError (-r.1) (some "libevdev_set_fd().")))
          ((w₁.called (.libevdevSetFd h o.1 r.1) r.2).setDevice this D')
      else
        .returned () ((w₁.called (.libevdevSetFd h o.1 r.1) r.2).setDevice this D') := by
  have hD' : D = { raw := some h, ownedFd := -1 } := by
    rcases D with ⟨⟨raw⟩, fd⟩
    simp_all
  subst hD'
  simp only [openPath, Prog.bind_apply, load_apply hD, Outcome.returned_andThen, Prog.ite_apply',
    isOpen_iff, ne_eq, not_true_eq_false, if_false, posixOpen_apply, store_apply]
  split
  · simp
  · -- `set_fd` acts on the object that `open` has just written.
    have hload : ((w.called (.posixOpen filename flags (P.posixOpen filename flags w.env).1
        (P.errno (P.posixOpen filename flags w.env).2))
          (P.posixOpen filename flags w.env).2).setDevice this
          (some { raw := some h, ownedFd := (P.posixOpen filename flags w.env).1 })).devices this =
        some { raw := some h, ownedFd := (P.posixOpen filename flags w.env).1 } := by simp
    exact setFd_apply hload rfl _

theorem openPath_apply_invalid (hD : w.devices this = some D) (hraw : D.raw = none)
    (hclosed : D.ownedFd = -1) (filename : String) (flags : BitVec 32) :
    openPath P this filename flags w =
      let o := P.posixOpen filename flags w.env
      let w₁ := w.called (.posixOpen filename flags o.1 (P.errno o.2)) o.2
      if o.1 < 0 then
        .threw (.std (.systemError (P.errno o.2)
          (some ("Failed to open \"" ++ filename ++ "\""))))
          (w₁.setDevice this (some { ownedFd := o.1 }))
      else
        .undefined := by
  have hD' : D = {} := by
    rcases D with ⟨⟨raw⟩, fd⟩
    simp_all
  subst hD'
  simp only [openPath, Prog.bind_apply, load_apply hD, Outcome.returned_andThen, Prog.ite_apply',
    isOpen_iff, ne_eq, not_true_eq_false, if_false, posixOpen_apply, store_apply]
  split
  · simp
  · simp [setFd]

/-- `set_nonblock` returns after reading and writing the flags of the owned descriptor. -/
theorem setNonblock_returned {enable : Bool} {w' : World σ}
    (h : setNonblock P this enable w = .returned () w') :
    ∃ D, w.devices this = some D ∧ D.ownedFd ≠ -1 ∧
      let r := P.fcntlGetfl D.ownedFd w.env
      let flags := if enable then r.1 ||| oNonblock else r.1 &&& ~~~ oNonblock
      0 ≤ r.1.toInt ∧ 0 ≤ (P.fcntlSetfl D.ownedFd flags r.2).1 ∧
        w' = w.withEnv (P.fcntlSetfl D.ownedFd flags r.2).2 := by
  cases hD : w.devices this with
  | none => simp [setNonblock, load_apply_none hD] at h
  | some D =>
      refine ⟨D, rfl, ?_⟩
      simp only [setNonblock, Prog.bind_apply, load_apply hD, Outcome.returned_andThen,
        Prog.ite_apply', isOpen_iff, fcntlGetfl_apply, fcntlSetfl_apply, errno_apply,
        throwErrno_apply, throwLogicError_apply, Prog.pure_apply, World.withEnv_env] at h
      split at h
      · cases h
      · next hopen =>
        split at h
        · cases h
        · next hget =>
          -- `F_SETFL` gets the flags that were read, with one bit changed.
          generalize hflags : (if enable = true then (P.fcntlGetfl D.ownedFd w.env).1 ||| oNonblock
            else (P.fcntlGetfl D.ownedFd w.env).1 &&& ~~~ oNonblock) = flags at h
          simp only [hflags]
          split at h
          · cases h
          · next hset =>
            cases h
            exact ⟨by simpa using hopen, Int.not_lt.1 hget, Int.not_lt.1 hset, rfl⟩

/-- `get_nonblock` returns after reading the flags of the owned descriptor. -/
theorem getNonblock_returned {b : Bool} {w' : World σ}
    (h : getNonblock P this w = .returned b w') :
    ∃ D, w.devices this = some D ∧ D.ownedFd ≠ -1 ∧
      let r := P.fcntlGetfl D.ownedFd w.env
      0 ≤ r.1.toInt ∧ b = decide (r.1 &&& oNonblock ≠ 0) := by
  cases hD : w.devices this with
  | none => simp [getNonblock, load_apply_none hD] at h
  | some D =>
      refine ⟨D, rfl, ?_⟩
      simp only [getNonblock, Prog.bind_apply, load_apply hD, Outcome.returned_andThen,
        Prog.ite_apply', isOpen_iff, fcntlGetfl_apply, errno_apply, throwErrno_apply,
        throwLogicError_apply, Prog.pure_apply] at h
      split at h
      · cases h
      · next hopen =>
        split at h
        · cases h
        · next hget =>
          cases h
          exact ⟨by simpa using hopen, Int.not_lt.1 hget, rfl⟩

theorem create_apply_none (hD : w.devices this = none) : create P this w = .undefined := by
  simp [create, hD]

theorem createFd_apply_none (hD : w.devices this = none) (fd : Fd) :
    createFd P this fd w = .undefined := by
  simp [createFd, hD]

theorem createPath_apply_none (hD : w.devices this = none) (filename : String)
    (flags : BitVec 32) : createPath P this filename flags w = .undefined := by
  simp [createPath, hD]

theorem setFd_apply_none (hD : w.devices this = none) (fd : Fd) :
    setFd P this fd w = .undefined := by
  simp [setFd, hD]

theorem changeFd_apply_none (hD : w.devices this = none) (fd : Fd) :
    changeFd P this fd w = .undefined := by
  simp [changeFd, hD]

theorem openPath_apply_none (hD : w.devices this = none) (filename : String)
    (flags : BitVec 32) : openPath P this filename flags w = .undefined := by
  simp [openPath, hD]

theorem destroy_apply_none (hD : w.devices this = none) : destroy P this w = .undefined := by
  simp [destroy, release, Prog.noexcept, hD]

theorem destruct_apply_none (hD : w.devices this = none) : destruct P this w = .undefined := by
  simp [destruct, Prog.noexcept, destroy_apply_none hD]

theorem setFd_apply_invalid (hD : w.devices this = some D) (hraw : D.raw = none) (fd : Fd) :
    setFd P this fd w = .undefined := by
  simp [setFd, hD, hraw]

theorem changeFd_apply_invalid (hD : w.devices this = some D) (hraw : D.raw = none) (fd : Fd) :
    changeFd P this fd w = .undefined := by
  simp [changeFd, hD, hraw]

/-! ## Constructors, moves, the destructor -/

theorem moveConstruct_apply (hfree : w.devices this = none)
    (hE : w.devices other = some E) :
    moveConstruct this other w =
      .returned () ((w.setDevice other (some {})).setDevice this (some E)) := by
  have hne : other ≠ this := ne_of_lives_of_free hE hfree
  apply construct_of_returned hfree
  apply Prog.noexcept_of_returned
  -- The new object is born before `release` empties the other one.
  have hE' : (w.setDevice this (some {})).devices other = some E := by simp [hne, hE]
  have hthis : ((w.setDevice this (some {})).setDevice other (some {})).devices this =
      some {} := by simp [hne.symm]
  simp only [Prog.bind_apply, release_apply hE', Outcome.returned_andThen, acquire_apply hthis]
  rw [World.setDevice_comm _ _ hne.symm, World.setDevice_setDevice]

theorem moveAssign_apply_self (hD : w.devices this = some D) :
    moveAssign P this this w = .returned () w := by
  apply Prog.noexcept_of_returned
  simp [hD]

theorem moveAssign_apply (hD : w.devices this = some D) (hne : this ≠ other)
    (hE : w.devices other = some E) :
    moveAssign P this other w =
      .returned () (((w.disposed P D).setDevice other (some {})).setDevice this (some E)) := by
  apply Prog.noexcept_of_returned
  -- `destroy` on the target does not touch the source.
  have hE' : ((w.disposed P D).setDevice this (some {})).devices other = some E := by
    simp [hne.symm, hE]
  have hthis : (((w.disposed P D).setDevice this (some {})).setDevice other (some {})).devices
      this = some {} := by simp [hne]
  simp only [Prog.bind_apply, load_apply hD, Outcome.returned_andThen, hne, ne_eq,
    not_false_eq_true, if_true, destroy_apply hD, release_apply hE', acquire_apply hthis]
  rw [World.setDevice_comm _ _ hne, World.setDevice_setDevice]

/-- The default constructor, when there is memory for the handle. -/
theorem constructDefault_apply {h : Handle} (hfree : w.devices this = none)
    (hnew : (P.libevdevNew w.env).1 = some h) :
    constructDefault P this w =
      .returned () ((w.called (.libevdevNew (some h)) (P.libevdevNew w.env).2).setDevice this
        (some { raw := some h })) := by
  have hborn := World.setDevice_devices_self w this (some {})
  apply construct_of_returned hfree
  rw [create_apply hborn]
  simp [hnew]

/-- A constructor needs room for the object. -/
theorem construct_apply_occupied {body : Op σ Unit} (hD : w.devices this = some D) :
    construct this body w = .undefined :=
  Memory.construct_apply_occupied hD

/-- An object that is initialised from itself is empty. -/
theorem moveConstruct_apply_self (hfree : w.devices this = none) :
    moveConstruct this this w = .returned () (w.setDevice this (some {})) := by
  apply construct_of_returned hfree
  apply Prog.noexcept_of_returned
  have hthis : (w.setDevice this (some {})).devices this = some {} := by simp
  have hempty : ((w.setDevice this (some {})).setDevice this (some {})).devices this =
      some {} := by simp
  simp only [Prog.bind_apply, release_apply hthis, Outcome.returned_andThen, acquire_apply hempty]
  simp

theorem moveConstruct_apply_none (hne : other ≠ this) (hE : w.devices other = none) :
    moveConstruct this other w = .undefined := by
  cases hD : w.devices this with
  | some D => exact construct_apply_occupied hD
  | none =>
      have hE' : (w.setDevice this (some {})).devices other = none := by simp [hne, hE]
      have hget : memory.get w this = none := hD
      simp [moveConstruct, construct, Memory.construct_apply hget, Prog.catchRethrow,
        Prog.noexcept, release, load_apply_none hE']

theorem moveAssign_apply_none (hD : w.devices this = none) :
    moveAssign P this other w = .undefined := by
  simp [moveAssign, Prog.noexcept, hD]

theorem moveAssign_apply_from_none (hD : w.devices this = some D)
    (hE : w.devices other = none) : moveAssign P this other w = .undefined := by
  have hne : this ≠ other := ne_of_lives_of_free hD hE
  have hE' : ((w.disposed P D).setDevice this (some {})).devices other = none := by
    simp [hne.symm, hE]
  simp [moveAssign, Prog.noexcept, hD, hne, destroy_apply hD, release, hE']

theorem destruct_apply (hD : w.devices this = some D) :
    destruct P this w = .returned () ((w.disposed P D).setDevice this none) := by
  apply Prog.noexcept_of_returned
  simp [destroy_apply hD]

end Device

end Evdevxx
