import Evdevxx.Model.Scripted
import Evdevxx.Ownership.Descriptors
import Evdevxx.Ownership.Recreation
import Evdevxx.Ownership.Uinputs

/-!
# Isolation — what is done with other objects does not reach a device

A valid `Device` that a run does not act on, neither itself nor through a `Grabber`, is the same object
at its end, with the same `libevdev` object behind it: the descriptor it reads from, the grab and the
log callback included.  The invariant is that of the ownership machines, so that no other object holds
the handle, together with the object and what is seen of its handle.  `Platform.Frames` says of what is
seen that a call on one handle leaves it as it is for the others.

Descriptors are numbers, and not isolated so: an object that is given the number, by `Device(int)` or
`create(int)`, closes the file when it is destroyed.  The file stays open if no other object owns the
number and none is given it (`KeepsOpen`).
-/

namespace Evdevxx

variable {σ : Type} {P : Platform σ} {V : Views σ}

/-! ## Actions that spare a device -/

def DeviceAct.Spares (d : DeviceId) : DeviceAct → Prop
  | .constructInvalid this => this ≠ d
  | .constructDefault this => this ≠ d
  | .constructFd this _ => this ≠ d
  | .constructPath this _ _ => this ≠ d
  | .moveConstruct this other => this ≠ d ∧ other ≠ d
  | .moveAssign this other => this ≠ d ∧ other ≠ d
  | .create this => this ≠ d
  | .createFd this _ => this ≠ d
  | .createPath this _ _ => this ≠ d
  | .openPath this _ _ => this ≠ d
  | .setFd this _ => this ≠ d
  | .changeFd this _ => this ≠ d
  | .destroy this => this ≠ d
  | .destruct this => this ≠ d

/-- What calls `ungrab` spares the device that the grabber does not hold. -/
def GrabberAct.Spares (d : DeviceId) (w : World σ) : GrabberAct → Prop
  | .constructFrom _ dev => dev ≠ d
  | .moveAssign this _ => w.grabbers this ≠ some { dev := some d }
  | .ungrab this => w.grabbers this ≠ some { dev := some d }
  | .destruct this => w.grabbers this ≠ some { dev := some d }
  | _ => True

def Act.Spares (d : DeviceId) (w : World σ) : Act → Prop
  | .device a => a.Spares d
  | .uinput _ => True
  | .grabber a => a.Spares d w

/-! ## Frames -/

variable {τ : Type} {obs : σ → Handle → τ}

/-- From `s` to `s'`, what is seen of the live handles stays, with `p` as an exception. -/
def Views.Leaves (V : Views σ) (obs : σ → Handle → τ) (p : Option Handle) (s s' : σ) : Prop :=
  ∀ h v, V.evdevs s h = some v → p ≠ some h → obs s' h = obs s h

/-- What is seen of a live handle stays in every call that is given another one, or none. -/
structure Platform.Frames (P : Platform σ) (V : Views σ) (obs : σ → Handle → τ) : Prop where
  posixOpen : ∀ path flags s, V.Leaves obs none s (P.posixOpen path flags s).2
  posixClose : ∀ fd s, V.Leaves obs none s (P.posixClose fd s)
  libevdevNew : ∀ s, V.Leaves obs none s (P.libevdevNew s).2
  libevdevNewFromFd : ∀ fd s, V.Leaves obs none s (P.libevdevNewFromFd fd s).2
  libevdevFree : ∀ h s v, V.evdevs s h = some v → V.Leaves obs (some h) s (P.libevdevFree h s)
  libevdevSetFd : ∀ h fd s v, V.evdevs s h = some v →
    V.Leaves obs (some h) s (P.libevdevSetFd h fd s).2
  libevdevChangeFd : ∀ h fd s v, V.evdevs s h = some v →
    V.Leaves obs (some h) s (P.libevdevChangeFd h fd s).2
  /-- A call that fails changes nothing. -/
  libevdevGrab : ∀ h mode s v, V.evdevs s h = some v →
    V.Leaves obs (some h) s (P.libevdevGrab h mode s).2 ∧
      ((P.libevdevGrab h mode s).1 < 0 → V.Leaves obs none s (P.libevdevGrab h mode s).2)
  libevdevUinputCreateFromDevice : ∀ h fd s,
    V.Leaves obs none s (P.libevdevUinputCreateFromDevice h fd s).2
  libevdevUinputDestroy : ∀ u s, V.Leaves obs none s (P.libevdevUinputDestroy u s)

section Frames

variable {w : World σ} {D : Device} {h : Handle} {v : EvdevView}

theorem Views.leaves_of_same {s s' : σ} (hsame : V.evdevs s' = V.evdevs s) (p : Option Handle) :
    V.Leaves V.evdevs p s s' :=
  fun h _ _ _ => congrFun hsame h

theorem Views.leaves_of_update {s s' : σ} {p : Handle} {x : Option EvdevView}
    (hupdate : V.evdevs s' = Function.update (V.evdevs s) p x) :
    V.Leaves V.evdevs (some p) s s' := by
  intro h v _ hne
  have hph : h ≠ p := fun heq => hne (congrArg some heq.symm)
  rw [hupdate, Function.update_of_ne hph]

/-- The objects of `libevdev` themselves can be seen. -/
theorem Platform.Documented.frames (hdoc : P.Documented V) : P.Frames V V.evdevs where
  posixOpen := fun path flags s => V.leaves_of_same (hdoc.posixOpen path flags s).2.1 _
  posixClose := fun fd s => V.leaves_of_same (hdoc.posixClose fd s).2.1 _
  libevdevNew := fun _ _ _ hv _ => (hdoc.evdevs_libevdevNew hv).trans hv.symm
  libevdevNewFromFd := fun fd _ _ _ hv _ => (hdoc.evdevs_libevdevNewFromFd hv fd).trans hv.symm
  libevdevFree := fun h s v hv => Views.leaves_of_update (hdoc.libevdevFree h s v hv).1
  libevdevSetFd := by
    intro h fd s v hv
    rcases hdoc.libevdevSetFd h fd s v hv with ⟨_, hfail, hok, _⟩
    by_cases hneg : (P.libevdevSetFd h fd s).1 < 0
    · exact V.leaves_of_same (hfail hneg) _
    · exact Views.leaves_of_update (hok (Int.not_lt.1 hneg))
  libevdevChangeFd := by
    intro h fd s v hv
    rcases hdoc.libevdevChangeFd h fd s v hv with ⟨hok, hfail, _⟩
    by_cases hzero : (P.libevdevChangeFd h fd s).1 = 0
    · rcases hok hzero with ⟨_, g, _, hupdate⟩
      exact Views.leaves_of_update hupdate
    · exact V.leaves_of_same (hfail hzero) _
  libevdevGrab := by
    intro h mode s v hv
    rcases hdoc.libevdevGrab h mode s v hv with ⟨hfail, hok, _⟩
    refine ⟨?_, fun hneg => V.leaves_of_same (hfail hneg) _⟩
    by_cases hneg : (P.libevdevGrab h mode s).1 < 0
    · exact V.leaves_of_same (hfail hneg) _
    · exact Views.leaves_of_update (hok (Int.not_lt.1 hneg))
  libevdevUinputCreateFromDevice := fun h fd s =>
    V.leaves_of_same (hdoc.libevdevUinputCreateFromDevice h fd s).2.2 _
  libevdevUinputDestroy := fun u s => V.leaves_of_same (hdoc.libevdevUinputDestroy u s).2 _

namespace Platform.Frames

theorem freed (hF : P.Frames V obs) (hlive : D.Live V w.env) (hne : D.raw ≠ some h)
    (hv : V.evdevs w.env h = some v) : obs (w.freed P D.raw).env h = obs w.env h := by
  cases hraw : D.raw with
  | none => rfl
  | some q =>
      rcases hlive q hraw with ⟨v', hv'⟩
      exact hF.libevdevFree q w.env v' hv' h v hv (hraw ▸ hne)

theorem closed (hF : P.Frames V obs) (fd : Fd) (hv : V.evdevs w.env h = some v) :
    obs (w.closed P fd).env h = obs w.env h := by
  unfold World.closed
  split
  · exact hF.posixClose fd w.env h v hv nofun
  · rfl

/-- `destroy` of another object. -/
theorem disposed (hF : P.Frames V obs) (hdoc : P.Documented V) (hlive : D.Live V w.env)
    (hne : D.raw ≠ some h) (hv : V.evdevs w.env h = some v) :
    obs (w.disposed P D).env h = obs w.env h := by
  have hv' : V.evdevs (w.freed P D.raw).env h = some v :=
    (hdoc.frames.freed hlive hne hv).trans hv
  exact (hF.closed D.ownedFd hv').trans (hF.freed hlive hne hv)

theorem udestroyed (hF : P.Frames V obs) (raw : Option UinputHandle)
    (hv : V.evdevs w.env h = some v) : obs (w.udestroyed P raw).env h = obs w.env h := by
  cases raw with
  | none => rfl
  | some u => exact hF.libevdevUinputDestroy u w.env h v hv nofun

end Platform.Frames

end Frames

/-! ## The invariant -/

/-- The object at `d` is `D`, and `x` is seen of its handle. -/
structure Spared (V : Views σ) (obs : σ → Handle → τ) (s₀ : σ) (d : DeviceId) (D : Device)
    (h : Handle) (x : τ) (w : World σ) : Prop where
  followed : HandlesFollowed V s₀ w
  object : w.devices d = some D
  seen : obs w.env h = x

namespace Spared

variable {s₀ : σ} {d d' : DeviceId} {D D' : Device} {h h' : Handle} {x : τ}
variable {w w' : World σ}

theorem live (hw : Spared V obs s₀ d D h x w) (hraw : D.raw = some h) :
    ∃ v, V.evdevs w.env h = some v :=
  hw.followed.live hw.object h hraw

/-- Another object has another handle. -/
theorem raw_ne (hw : Spared V obs s₀ d D h x w) (hraw : D.raw = some h) (hne : d' ≠ d)
    (hD' : w.devices d' = some D') : D'.raw ≠ some h := by
  intro hsame
  have hboth : (w.devices d').bind (·.raw) = some h := by rw [hD', Option.bind_some, hsame]
  exact DeviceHandles.handle_ne hw.followed.1 hne hw.object hraw h hboth rfl

theorem handle_ne (hw : Spared V obs s₀ d D h x w) (hraw : D.raw = some h) (hne : d' ≠ d)
    (hD' : w.devices d' = some D') (hraw' : D'.raw = some h') : some h' ≠ some h :=
  fun heq => hw.raw_ne hraw hne hD' (hraw'.trans heq)

/-- The object is not an empty one. -/
theorem ne_of_empty (hw : Spared V obs s₀ d D h x w) (hraw : D.raw = some h)
    (hempty : w.devices d' = some {}) : d' ≠ d := by
  rintro rfl
  rw [hw.object, Option.some.injEq] at hempty
  subst hempty
  cases hraw

theorem deviceInvariant (hdoc : P.Documented V) (hF : P.Frames V obs) (s₀ : σ) (x : τ)
    (hraw : D.raw = some h) :
    DeviceInvariant P (fun _ a => a.Spares d) (Spared V obs s₀ d D h x) where
  birth := by
    intro w d' hw hfree
    have hne : d ≠ d' := ne_of_lives_of_free hw.object hfree
    exact ⟨(HandlesFollowed.deviceInvariant hdoc s₀).birth hw.followed hfree,
      (Function.update_of_ne hne _ _).trans hw.object, hw.seen⟩
  death := by
    intro w d' hw hempty
    exact ⟨(HandlesFollowed.deviceInvariant hdoc s₀).death hw.followed hempty,
      (Function.update_of_ne (hw.ne_of_empty hraw hempty).symm _ _).trans hw.object, hw.seen⟩
  dispose := by
    intro w d' D' hw hD' hne
    rcases hw.live hraw with ⟨v, hv⟩
    have hseen := hF.disposed hdoc (hw.followed.live hD') (hw.raw_ne hraw hne hD') hv
    refine ⟨(HandlesFollowed.deviceInvariant hdoc s₀).dispose hw.followed hD' trivial, ?_,
      hseen.trans hw.seen⟩
    simpa [Ne.symm hne] using hw.object
  give := by
    intro w d' s E hw hds hempty hE hne
    have hne' := hw.ne_of_empty hraw hempty
    refine ⟨(HandlesFollowed.deviceInvariant hdoc s₀).give hw.followed hds hempty hE trivial, ?_,
      hw.seen⟩
    have hsd : d ≠ s := Ne.symm hne
    simpa [Ne.symm hne', hsd] using hw.object
  create := by
    intro w d' D' w' hw hD' hne hafter
    rcases hw.live hraw with ⟨v, hv⟩
    have hfollowed := (HandlesFollowed.deviceInvariant hdoc s₀).create hw.followed hD' trivial hafter
    have hnew := (hF.libevdevNew w.env h v hv nofun).trans hw.seen
    rcases Device.after_create hD' hafter with ⟨_, rfl⟩ | ⟨p, _, rfl⟩
    · exact ⟨hfollowed, hw.object, hnew⟩
    · refine ⟨hfollowed, by simpa [Ne.symm hne] using hw.object, ?_⟩
      exact (hF.disposed hdoc ((hw.followed.live hD').new hdoc) (hw.raw_ne hraw hne hD')
        (hdoc.evdevs_libevdevNew hv)).trans hnew
  createFd := by
    intro w d' D' fd w' hw hD' hne hafter
    rcases hw.live hraw with ⟨v, hv⟩
    have hfollowed :=
      (HandlesFollowed.deviceInvariant hdoc s₀).createFd hw.followed hD' trivial hafter
    have hnew := (hF.libevdevNewFromFd fd w.env h v hv nofun).trans hw.seen
    rcases Device.after_createFd hD' hafter with ⟨_, rfl⟩ | ⟨_, rfl⟩
    · exact ⟨hfollowed, hw.object, hnew⟩
    · refine ⟨hfollowed, by simpa [Ne.symm hne] using hw.object, ?_⟩
      exact (hF.disposed hdoc ((hw.followed.live hD').newFromFd hdoc fd) (hw.raw_ne hraw hne hD')
        (hdoc.evdevs_libevdevNewFromFd hv fd)).trans hnew
  createPath := by
    intro w d' D' filename flags w' hw hD' hne hafter
    rcases hw.live hraw with ⟨v, hv⟩
    have hfollowed :=
      (HandlesFollowed.deviceInvariant hdoc s₀).createPath hw.followed hD' trivial hafter
    -- The file is opened, and then an object made for it.
    have hv₁ := hdoc.evdevs_posixOpen hv filename flags
    have hv₂ := hdoc.evdevs_libevdevNewFromFd hv₁ (P.posixOpen filename flags w.env).1
    have hopened := (hF.posixOpen filename flags w.env h v hv nofun).trans hw.seen
    have hnew := (hF.libevdevNewFromFd (P.posixOpen filename flags w.env).1 _ h v hv₁ nofun).trans
      hopened
    rcases Device.after_createPath hD' hafter with ⟨_, rfl⟩ | ⟨_, _, rfl⟩ | ⟨_, _, rfl⟩
    · exact ⟨hfollowed, hw.object, hopened⟩
    · exact ⟨hfollowed, hw.object, (hF.posixClose _ _ h v hv₂ nofun).trans hnew⟩
    · refine ⟨hfollowed, by simpa [Ne.symm hne] using hw.object, ?_⟩
      have hlive := ((hw.followed.live hD').opened hdoc filename flags).newFromFd hdoc
        (P.posixOpen filename flags w.env).1
      exact (hF.disposed hdoc hlive (hw.raw_ne hraw hne hD') hv₂).trans hnew
  openPath := by
    intro w d' D' filename flags w' hw hD' hne hafter
    rcases hw.live hraw with ⟨v, hv⟩
    have hfollowed :=
      (HandlesFollowed.deviceInvariant hdoc s₀).openPath hw.followed hD' trivial hafter
    have hopened := (hF.posixOpen filename flags w.env h v hv nofun).trans hw.seen
    rcases Device.after_openPath hD' hafter with ⟨_, rfl⟩ | ⟨_, _, rfl⟩ | ⟨p, hp, _, _, rfl⟩
    · exact hw
    · exact ⟨hfollowed, by simpa [Ne.symm hne] using hw.object, hopened⟩
    · refine ⟨hfollowed, by simpa [Ne.symm hne] using hw.object, ?_⟩
      rcases hw.followed.live hD' p hp with ⟨v', hv'⟩
      exact (hF.libevdevSetFd p _ _ v' (hdoc.evdevs_posixOpen hv' filename flags) h v
        (hdoc.evdevs_posixOpen hv filename flags) (hw.handle_ne hraw hne hD' hp)).trans hopened
  setFd := by
    intro w d' D' fd w' hw hD' hne hafter
    rcases hw.live hraw with ⟨v, hv⟩
    have hfollowed := (HandlesFollowed.deviceInvariant hdoc s₀).setFd hw.followed hD' trivial hafter
    rcases Device.after_setFd hD' hafter with ⟨p, hp, rfl⟩
    rcases hw.followed.live hD' p hp with ⟨v', hv'⟩
    have hseen := hF.libevdevSetFd p fd w.env v' hv' h v hv (hw.handle_ne hraw hne hD' hp)
    exact ⟨hfollowed, hw.object, hseen.trans hw.seen⟩
  changeFd := by
    intro w d' D' fd w' hw hD' hne hafter
    rcases hw.live hraw with ⟨v, hv⟩
    have hfollowed :=
      (HandlesFollowed.deviceInvariant hdoc s₀).changeFd hw.followed hD' trivial hafter
    rcases Device.after_changeFd hD' hafter with ⟨p, hp, rfl⟩
    rcases hw.followed.live hD' p hp with ⟨v', hv'⟩
    have hseen := hF.libevdevChangeFd p fd w.env v' hv' h v hv (hw.handle_ne hraw hne hD' hp)
    exact ⟨hfollowed, hw.object, hseen.trans hw.seen⟩
  constructDefault := fun _ _ hG => hG
  constructFd := fun _ _ hG => hG
  constructPath := fun _ _ hG => hG
  moveConstruct := fun _ hG => hG.2
  moveAssign := fun _ _ hG => hG
  destruct := fun hG => hG

theorem uinputInvariant (hdoc : P.Documented V) (hF : P.Frames V obs) (s₀ : σ) (x : τ)
    (hraw : D.raw = some h) : UinputInvariant P (Spared V obs s₀ d D h x) where
  birth := fun hw hfree =>
    ⟨(HandlesFollowed.uinputInvariant hdoc s₀).birth hw.followed hfree, hw.object, hw.seen⟩
  death := fun hw hempty =>
    ⟨(HandlesFollowed.uinputInvariant hdoc s₀).death hw.followed hempty, hw.object, hw.seen⟩
  dispose := by
    intro w u U hw hU
    rcases hw.live hraw with ⟨v, hv⟩
    refine ⟨(HandlesFollowed.uinputInvariant hdoc s₀).dispose hw.followed hU, ?_, ?_⟩
    · simpa using hw.object
    · exact (hF.udestroyed U.raw hv).trans hw.seen
  give := fun hw hus hempty hE =>
    ⟨(HandlesFollowed.uinputInvariant hdoc s₀).give hw.followed hus hempty hE, hw.object, hw.seen⟩
  create := by
    intro w u U dev fd w' hw hU hafter
    rcases hw.live hraw with ⟨v, hv⟩
    have hfollowed := (HandlesFollowed.uinputInvariant hdoc s₀).create hw.followed hU hafter
    rcases Uinput.after_create hU hafter with ⟨D', p, _, _, hend⟩
    have hv₁ : V.evdevs (P.libevdevUinputCreateFromDevice p fd w.env).2 h = some v :=
      (congrFun (hdoc.libevdevUinputCreateFromDevice p fd w.env).2.2 h).trans hv
    have hseen := (hF.libevdevUinputCreateFromDevice p fd w.env h v hv nofun).trans hw.seen
    rcases hend with ⟨_, rfl⟩ | ⟨_, rfl⟩
    · exact ⟨hfollowed, hw.object, hseen⟩
    · refine ⟨hfollowed, by simpa using hw.object, ?_⟩
      exact (hF.udestroyed U.raw hv₁).trans hseen

theorem grabberInvariant (hdoc : P.Documented V) (hF : P.Frames V obs) (s₀ : σ) (x : τ)
    (hraw : D.raw = some h) :
    GrabberInvariant P (fun w a => a.Spares d w) (Spared V obs s₀ d D h x) where
  birth := fun hw _ => ⟨hw.followed, hw.object, hw.seen⟩
  death := fun hw _ => ⟨hw.followed, hw.object, hw.seen⟩
  give := fun hw _ _ _ => ⟨hw.followed, hw.object, hw.seen⟩
  hold := by
    intro w g d' D' h' hw _ hD' hraw' _ hne
    rcases hw.live hraw with ⟨v, hv⟩
    rcases hw.followed.live hD' h' hraw' with ⟨v', hv'⟩
    have hseen := (hF.libevdevGrab h' .grab w.env v' hv').1 h v hv (hw.handle_ne hraw hne hD' hraw')
    exact ⟨hw.followed.grabCalled hdoc hD' hraw', hw.object, hseen.trans hw.seen⟩
  letGo := by
    intro w g d' D' h' hw hX hD' hraw' _ hspared
    rcases hw.live hraw with ⟨v, hv⟩
    rcases hw.followed.live hD' h' hraw' with ⟨v', hv'⟩
    have hne : d' ≠ d := fun heq => hspared (heq ▸ hX)
    have hseen := (hF.libevdevGrab h' .ungrab w.env v' hv').1 h v hv
      (hw.handle_ne hraw hne hD' hraw')
    exact ⟨hw.followed.grabCalled hdoc hD' hraw', hw.object, hseen.trans hw.seen⟩
  failed := by
    intro w d' D' h' mode hw hD' hraw' hneg
    rcases hw.live hraw with ⟨v, hv⟩
    rcases hw.followed.live hD' h' hraw' with ⟨v', hv'⟩
    have hseen := (hF.libevdevGrab h' mode w.env v' hv').2 hneg h v hv nofun
    exact ⟨hw.followed.grabCalled hdoc hD' hraw', hw.object, hseen.trans hw.seen⟩
  moveAssign := fun _ hG => hG
  destruct := fun hG => hG

theorem step (hdoc : P.Documented V) (hF : P.Frames V obs) (hraw : D.raw = some h) {a : Act}
    (hw : Spared V obs s₀ d D h x w) (hspares : a.Spares d w) (hstep : Evdevxx.step P w a w') :
    Spared V obs s₀ d D h x w' := by
  cases a with
  | device a => exact (deviceInvariant hdoc hF s₀ x hraw).step hw hspares hstep
  | uinput a => exact (uinputInvariant hdoc hF s₀ x hraw).step hw hstep
  | grabber a => exact (grabberInvariant hdoc hF s₀ x hraw).step hw hspares hstep

end Spared

/-! ## The file behind the descriptor -/

/-- After the action an object may own the descriptor `n` that did not.  A `Uinput` may have descriptors
that libevdev manages. -/
def Act.MayTake (n : Fd) : Act → Prop
  | .device (.constructFd _ fd) => fd = n
  | .device (.createFd _ fd) => fd = n
  | .uinput _ => True
  | _ => False

/-- The descriptor `n` is open, and no object but the one at `d` will close it. -/
structure KeepsOpen (V : Views σ) (s₀ : σ) (d : DeviceId) (n : Fd) (w : World σ) : Prop where
  followed : HandlesFollowed V s₀ w
  others : ∀ {d' D'}, d' ≠ d → w.devices d' = some D' → D'.ownedFd ≠ n
  isOpen : V.files w.env n ≠ none

namespace KeepsOpen

variable {s₀ : σ} {d d' : DeviceId} {D D' : Device} {n fd : Fd} {w w' w₁ : World σ}

/-- An object is written, and does not own the descriptor. -/
theorem others_set (hw : KeepsOpen V s₀ d n w) (hdev : w₁.devices = w.devices) {X : Option Device}
    (hX : ∀ E, X = some E → E.ownedFd ≠ n) {i : DeviceId} {E : Device} (hne : i ≠ d)
    (hE : (w₁.setDevice d' X).devices i = some E) : E.ownedFd ≠ n := by
  rw [World.setDevice_devices, hdev] at hE
  by_cases hi : i = d'
  · subst hi
    rw [Function.update_self] at hE
    exact hX E hE
  · rw [Function.update_of_ne hi] at hE
    exact hw.others hne hE

/-- An object is destroyed and written again, and does not own the descriptor then. -/
theorem others_disposed (hw : KeepsOpen V s₀ d n w) {X : Option Device} {i : DeviceId} {E : Device}
    (hne : i ≠ d) (hE : ((w₁.disposed P D').setDevice d' X).devices i = some E)
    (hdev : w₁.devices = w.devices) (hX : ∀ F, X = some F → F.ownedFd ≠ n) : E.ownedFd ≠ n :=
  hw.others_set ((World.disposed_devices P w₁ D').trans hdev) hX hne hE

/-- `destroy` of an object that does not own the descriptor. -/
theorem disposed (hdoc : P.Documented V) (hopen : V.files w.env n ≠ none) (hlive : D'.Live V w.env)
    (hne : D'.ownedFd ≠ n) : V.files (w.disposed P D').env n ≠ none := by
  have howned : D'.owned ≠ some n := by
    unfold Device.owned
    split
    · exact (Option.some_ne_none n).symm
    · exact fun heq => hne (Option.some.inj heq)
  rw [DeviceDescriptors.files_disposed hdoc hlive howned]
  exact hopen

/-- `::open` closes nothing, and does not return a descriptor that is open. -/
theorem opened (hdoc : P.Documented V) (hopen : V.files w.env n ≠ none) (filename : String)
    (flags : BitVec 32) : V.files (P.posixOpen filename flags w.env).2 n ≠ none ∧
      (0 ≤ (P.posixOpen filename flags w.env).1 → (P.posixOpen filename flags w.env).1 ≠ n) := by
  rcases Option.ne_none_iff_exists'.1 hopen with ⟨f, hf⟩
  constructor
  · rw [hdoc.files_posixOpen hf]
    exact Option.some_ne_none f
  · intro hok heq
    rcases (hdoc.posixOpen filename flags w.env).1 with ⟨hminus, _⟩ | ⟨_, hfresh, _⟩
    · exact absurd hminus (ne_minusOne_of_nonneg hok)
    · rw [heq] at hfresh
      exact hopen hfresh

theorem deviceInvariant (hdoc : P.Documented V) (s₀ : σ) (hn : n ≠ -1) :
    DeviceInvariant P (fun _ a => a.Spares d ∧ ¬ (Act.device a).MayTake n) (KeepsOpen V s₀ d n) where
  birth := by
    intro w d' hw hfree
    refine ⟨(HandlesFollowed.deviceInvariant hdoc s₀).birth hw.followed hfree,
      hw.others_set rfl fun E hE => ?_, hw.isOpen⟩
    cases hE
    exact Ne.symm hn
  death := by
    intro w d' hw hempty
    exact ⟨(HandlesFollowed.deviceInvariant hdoc s₀).death hw.followed hempty,
      hw.others_set rfl fun E hE => absurd hE.symm (Option.some_ne_none E), hw.isOpen⟩
  dispose := by
    intro w d' D' hw hD' hG
    refine ⟨(HandlesFollowed.deviceInvariant hdoc s₀).dispose hw.followed hD' trivial,
      fun hne hE => hw.others_disposed hne hE rfl fun F hF => ?_,
      disposed hdoc hw.isOpen (hw.followed.live hD') (hw.others hG.1 hD')⟩
    cases hF
    exact Ne.symm hn
  give := by
    intro w d' i E hw hds hempty hE hG
    refine ⟨(HandlesFollowed.deviceInvariant hdoc s₀).give hw.followed hds hempty hE trivial, ?_,
      hw.isOpen⟩
    intro j F hj hF
    by_cases hjd : j = d'
    · -- The target gets what the source owned, and the source is not the device.
      subst hjd
      rw [World.setDevice_devices_self] at hF
      cases hF
      exact hw.others hG.1 hE
    · rw [World.setDevice_devices, Function.update_of_ne hjd] at hF
      refine hw.others_set rfl (fun F' hF' => ?_) hj hF
      cases hF'
      exact Ne.symm hn
  create := by
    intro w d' D' w' hw hD' hG hafter
    have hfollowed :=
      (HandlesFollowed.deviceInvariant hdoc s₀).create hw.followed hD' trivial hafter
    have hnew : V.files (P.libevdevNew w.env).2 n ≠ none := by
      rw [(hdoc.libevdevNew w.env).2.1]
      exact hw.isOpen
    rcases Device.after_create hD' hafter with ⟨_, rfl⟩ | ⟨p, _, rfl⟩
    · exact ⟨hfollowed, hw.others, hnew⟩
    · refine ⟨hfollowed, fun hne hE => hw.others_disposed hne hE rfl fun F hF => ?_,
        disposed hdoc hnew ((hw.followed.live hD').new hdoc) (hw.others hG.1 hD')⟩
      cases hF
      exact Ne.symm hn
  createFd := by
    intro w d' D' fd w' hw hD' hG hafter
    have hfollowed :=
      (HandlesFollowed.deviceInvariant hdoc s₀).createFd hw.followed hD' trivial hafter
    have hnew : V.files (P.libevdevNewFromFd fd w.env).2 n ≠ none := by
      rw [hdoc.files_libevdevNewFromFd]
      exact hw.isOpen
    rcases Device.after_createFd hD' hafter with ⟨_, rfl⟩ | ⟨_, rfl⟩
    · exact ⟨hfollowed, hw.others, hnew⟩
    · refine ⟨hfollowed, fun hne hE => hw.others_disposed hne hE rfl fun F hF => ?_,
        disposed hdoc hnew ((hw.followed.live hD').newFromFd hdoc fd) (hw.others hG.1 hD')⟩
      cases hF
      -- The number that the object is given is another one.
      exact hG.2
  createPath := by
    intro w d' D' filename flags w' hw hD' hG hafter
    have hfollowed :=
      (HandlesFollowed.deviceInvariant hdoc s₀).createPath hw.followed hD' trivial hafter
    rcases opened hdoc hw.isOpen filename flags with ⟨hopen, hfresh⟩
    have hnew : V.files (P.libevdevNewFromFd (P.posixOpen filename flags w.env).1
        (P.posixOpen filename flags w.env).2).2 n ≠ none := by
      rw [hdoc.files_libevdevNewFromFd]
      exact hopen
    rcases Device.after_createPath hD' hafter with ⟨_, rfl⟩ | ⟨hlow, _, rfl⟩ | ⟨hlow, _, rfl⟩
    · exact ⟨hfollowed, hw.others, hopen⟩
    · -- The descriptor that is closed again is the new one.
      refine ⟨hfollowed, hw.others, ?_⟩
      rw [World.called_env, (hdoc.posixClose _ _).1,
        Function.update_of_ne (Ne.symm (hfresh (by omega)))]
      exact hnew
    · have hlive := ((hw.followed.live hD').opened hdoc filename flags).newFromFd hdoc
        (P.posixOpen filename flags w.env).1
      refine ⟨hfollowed, fun hne hE => hw.others_disposed hne hE rfl fun F hF => ?_,
        disposed hdoc hnew hlive (hw.others hG.1 hD')⟩
      cases hF
      -- What `::open` returned was not open before.
      exact hfresh (by omega)
  openPath := by
    intro w d' D' filename flags w' hw hD' hG hafter
    have hfollowed :=
      (HandlesFollowed.deviceInvariant hdoc s₀).openPath hw.followed hD' trivial hafter
    rcases opened hdoc hw.isOpen filename flags with ⟨hopen, hfresh⟩
    rcases Device.after_openPath hD' hafter with ⟨_, rfl⟩ | ⟨_, hneg, rfl⟩ | ⟨p, hp, _, hok, rfl⟩
    · exact hw
    · -- `::open` has failed, and what it returned is no descriptor.
      refine ⟨hfollowed, hw.others_set rfl fun E hE => ?_, hopen⟩
      cases hE
      show (P.posixOpen filename flags w.env).1 ≠ n
      rw [hdoc.posixOpen_eq_minusOne hneg]
      exact Ne.symm hn
    · rcases hw.followed.live hD' p hp with ⟨v, hv⟩
      refine ⟨hfollowed, hw.others_set rfl fun E hE => ?_, ?_⟩
      · cases hE
        exact hfresh hok
      · rw [World.setDevice_env, World.called_env,
          (hdoc.libevdevSetFd p _ _ v (hdoc.evdevs_posixOpen hv filename flags)).2.2.2.1]
        exact hopen
  setFd := by
    intro w d' D' fd w' hw hD' hG hafter
    have hfollowed := (HandlesFollowed.deviceInvariant hdoc s₀).setFd hw.followed hD' trivial hafter
    rcases Device.after_setFd hD' hafter with ⟨p, hp, rfl⟩
    rcases hw.followed.live hD' p hp with ⟨v, hv⟩
    refine ⟨hfollowed, hw.others, ?_⟩
    rw [World.called_env, (hdoc.libevdevSetFd p fd w.env v hv).2.2.2.1]
    exact hw.isOpen
  changeFd := by
    intro w d' D' fd w' hw hD' hG hafter
    have hfollowed :=
      (HandlesFollowed.deviceInvariant hdoc s₀).changeFd hw.followed hD' trivial hafter
    rcases Device.after_changeFd hD' hafter with ⟨p, hp, rfl⟩
    rcases hw.followed.live hD' p hp with ⟨v, hv⟩
    refine ⟨hfollowed, hw.others, ?_⟩
    rw [World.called_env, (hdoc.libevdevChangeFd p fd w.env v hv).2.2.1]
    exact hw.isOpen
  constructDefault := fun _ _ hG => hG
  constructFd := fun _ _ hG => hG
  constructPath := fun _ _ hG => hG
  moveConstruct := fun _ hG => ⟨hG.1.2, hG.2⟩
  moveAssign := fun _ _ hG => ⟨⟨hG.1.1, hG.2⟩, hG.1.2, hG.2⟩
  destruct := fun hG => hG

theorem grabCalled (hdoc : P.Documented V) (hw : KeepsOpen V s₀ d n w)
    (hD' : w.devices d' = some D') {h : Handle} (hraw : D'.raw = some h) (mode : GrabMode) :
    KeepsOpen V s₀ d n (w.grabCalled P h mode) := by
  rcases hw.followed.live hD' h hraw with ⟨v, hv⟩
  refine ⟨hw.followed.grabCalled hdoc hD' hraw, hw.others, ?_⟩
  rw [World.grabCalled, World.called_env, (hdoc.libevdevGrab h mode w.env v hv).2.2.1]
  exact hw.isOpen

theorem grabberInvariant (hdoc : P.Documented V) (s₀ : σ) :
    GrabberInvariant P (fun _ _ => True) (KeepsOpen V s₀ d n) where
  birth := fun hw _ => ⟨hw.followed, hw.others, hw.isOpen⟩
  death := fun hw _ => ⟨hw.followed, hw.others, hw.isOpen⟩
  give := fun hw _ _ _ => ⟨hw.followed, hw.others, hw.isOpen⟩
  hold := by
    intro w g d' D' h hw _ hD' hraw _ _
    have hcalled := hw.grabCalled hdoc hD' hraw .grab
    exact ⟨hcalled.followed, hcalled.others, hcalled.isOpen⟩
  letGo := by
    intro w g d' D' h hw _ hD' hraw _ _
    have hcalled := hw.grabCalled hdoc hD' hraw .ungrab
    exact ⟨hcalled.followed, hcalled.others, hcalled.isOpen⟩
  failed := fun hw hD' hraw _ => hw.grabCalled hdoc hD' hraw _
  moveAssign := fun _ _ => trivial
  destruct := fun _ => trivial

theorem step (hdoc : P.Documented V) (hn : n ≠ -1) {a : Act} (hw : KeepsOpen V s₀ d n w)
    (hspares : a.Spares d w) (hnot : ¬ a.MayTake n) (hstep : Evdevxx.step P w a w') :
    KeepsOpen V s₀ d n w' := by
  cases a with
  | device a => exact (deviceInvariant hdoc s₀ hn).step hw ⟨hspares, hnot⟩ hstep
  | uinput a => exact absurd trivial hnot
  | grabber a => exact (grabberInvariant hdoc s₀).step hw trivial hstep

end KeepsOpen

/-! ## Runs -/

/-- From any point of any run, whatever a program does with its other objects: a valid device that is
spared stays the object it is, and so does the `libevdev` object behind it.  The file behind the
descriptor that it owns is still open if no other object owns that descriptor, no action makes one own
it, and none concerns a `Uinput`; else it may have been closed. -/
theorem device_isolated (hdoc : P.Documented V) {s₀ : σ} {acts acts' : List Act}
    {w w' : World σ} {d : DeviceId} {D : Device} {h : Handle}
    (before : Run (step P) (World.init s₀) acts w)
    (run : Run (Guarded (fun w a => a.Spares d w) (step P)) w acts' w')
    (hD : w.devices d = some D) (hraw : D.raw = some h) :
    w'.devices d = some D ∧ V.evdevs w'.env h = V.evdevs w.env h ∧
      (D.isOpen = true → V.files w.env D.ownedFd ≠ none →
        (∀ d' D', d' ≠ d → w.devices d' = some D' → D'.ownedFd ≠ D.ownedFd) →
        (∀ a ∈ acts', ¬ a.MayTake D.ownedFd) → V.files w'.env D.ownedFd ≠ none) := by
  have hfollowed := HandlesFollowed.run hdoc before
  have hend := run.invariant (Spared V V.evdevs s₀ d D h (V.evdevs w.env h)) ⟨hfollowed, hD, rfl⟩
    fun _ _ _ hw hs => hw.step hdoc hdoc.frames hraw hs.1 hs.2
  refine ⟨hend.object, hend.seen, fun hown hopen hothers hnone => ?_⟩
  -- A second invariant of the same run: nobody else has the descriptor to close.
  have hn : D.ownedFd ≠ -1 := (Device.isOpen_iff D).1 hown
  have hkept := (run.guarded_of_forall hnone).invariant (KeepsOpen V s₀ d D.ownedFd)
    ⟨hfollowed, fun hne hD' => hothers _ _ hne hD', hopen⟩
    fun _ _ _ hw hs => hw.step hdoc hn hs.2.1 hs.1 hs.2.2
  exact hkept.isOpen

/-- A second device is opened, grabbed, moved and destroyed. -/
theorem device_isolated_second :
    ∃ w w', Run (step Script.platform)
        (World.init { opens := [3, 4], handles := [0, 1], grabs := [0, 0] })
        [.device (.constructPath 0 "keyboard" 0)] w ∧
      Run (Guarded (fun w a => a.Spares 0 w) (step Script.platform)) w
        [.device (.constructPath 1 "mouse" 0), .grabber (.constructFrom 0 1),
          .grabber (.destruct 0), .device (.moveConstruct 2 1), .device (.destruct 2)] w' ∧
      w'.devices 0 = some { raw := some 0, ownedFd := 3 } ∧
      Script.views.evdevs w'.env 0 = Script.views.evdevs w.env 0 ∧
      Script.views.files w'.env 3 ≠ none := by
  have hstart : Run (step Script.platform)
      (World.init { opens := [3, 4], handles := [0, 1], grabs := [0, 0] }) []
      (World.init { opens := [3, 4], handles := [0, 1], grabs := [0, 0] }) := Run.nil
  have before := hstart.snoc (a := Act.device (.constructPath 0 "keyboard" 0)) rfl
  have spares : ∀ {w : World Script} {acts : List Act},
      Run (step Script.platform) (World.init { opens := [3, 4], handles := [0, 1], grabs := [0, 0] })
        acts w → Run (Guarded (fun w a => a.Spares 0 w) (step Script.platform)) w [] w :=
    fun _ => Run.nil
  have hopened := (spares before).snoc (a := Act.device (.constructPath 1 "mouse" 0))
    ⟨Nat.one_ne_zero, rfl⟩
  have hgrabbed := hopened.snoc (a := Act.grabber (.constructFrom 0 1)) ⟨Nat.one_ne_zero, rfl⟩
  have hlet := hgrabbed.snoc (a := Act.grabber (.destruct 0)) ⟨nofun, rfl⟩
  have hmoved := hlet.snoc (a := Act.device (.moveConstruct 2 1))
    ⟨⟨Nat.succ_ne_zero 1, Nat.one_ne_zero⟩, rfl⟩
  have run := hmoved.snoc (a := Act.device (.destruct 2)) ⟨Nat.succ_ne_zero 1, rfl⟩
  rcases device_isolated Script.documented before run rfl rfl with ⟨hobject, hseen, hopen⟩
  refine ⟨_, _, before, run, hobject, hseen, hopen rfl (by decide) ?_ (by simp [Act.MayTake])⟩
  intro d' D' hne hD'
  cases d' with
  | zero => exact absurd rfl hne
  | succ i => exact absurd (show none = some D' from hD') nofun

end Evdevxx
