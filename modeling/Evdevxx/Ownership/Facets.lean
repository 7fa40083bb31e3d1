import Evdevxx.Device.Details
import Evdevxx.Device.Lifetime
import Evdevxx.Model.Beside
import Evdevxx.Model.Facets
import Evdevxx.Ownership.Isolation

/-!
# Facets — what is kept of a device answers the calls about it

From any point of any run, the calls of a facet on a valid device are answered by one value, that sees
all of them and no others, in their order.  What a program does in between with other objects, and the
calls on them, does not reach the value, and nor do grabs and other descriptors.

That the values of two devices are never the same one is the invariant of the ownership machines; a
facet is lawful when a call on a valid device does to the platform what `Facet.on` says.
-/

namespace Evdevxx

variable {σ τ τ' : Type} {P : Platform σ} {V : Views σ} {obs : σ → Handle → τ} {F : Facet σ τ}

/-! ## What is seen of the objects -/

theorem Views.Same.refl (V : Views σ) (s : σ) : V.Same s s :=
  ⟨rfl, rfl, rfl⟩

namespace Views.Writes

variable {h : Handle} {t : τ} {s s' : σ}

theorem nothing (V : Views σ) (obs : σ → Handle → τ) (h : Handle) (s : σ) :
    V.Writes obs h (obs s h) s s :=
  ⟨(Function.update_eq_self h (obs s)).symm, Views.Same.refl V s⟩

/-- What is kept, seen through a function. -/
theorem map (hw : V.Writes obs h t s s') (g : τ → τ') :
    V.Writes (fun s h => g (obs s h)) h (g t) s s' := by
  refine ⟨?_, hw.2⟩
  funext h'
  show g (obs s' h') = Function.update (fun h => g (obs s h)) h (g t) h'
  rw [hw.1]
  by_cases hh : h' = h
  · rw [hh, Function.update_self, Function.update_self]
  · rw [Function.update_of_ne hh, Function.update_of_ne hh]

end Views.Writes

/-- The calls of libevdev leave what is seen of every object that they are not given, and
`libevdev_grab` and `libevdev_change_fd` what is seen of the object too. -/
structure Platform.OwnFrames (P : Platform σ) (V : Views σ) (obs : σ → Handle → τ) : Prop
    extends P.Frames V obs where
  ownChangeFd : ∀ h fd s v, V.evdevs s h = some v → obs (P.libevdevChangeFd h fd s).2 h = obs s h
  ownGrab : ∀ h mode s v, V.evdevs s h = some v → obs (P.libevdevGrab h mode s).2 h = obs s h

theorem Platform.OwnFrames.map (hF : P.OwnFrames V obs) (g : τ → τ') :
    P.OwnFrames V fun s h => g (obs s h) where
  posixOpen := fun path flags s h v hv hne => congrArg g (hF.posixOpen path flags s h v hv hne)
  posixClose := fun fd s h v hv hne => congrArg g (hF.posixClose fd s h v hv hne)
  libevdevNew := fun s h v hv hne => congrArg g (hF.libevdevNew s h v hv hne)
  libevdevNewFromFd := fun fd s h v hv hne => congrArg g (hF.libevdevNewFromFd fd s h v hv hne)
  libevdevFree := fun p s v' hv' h v hv hne => congrArg g (hF.libevdevFree p s v' hv' h v hv hne)
  libevdevSetFd := fun p fd s v' hv' h v hv hne =>
    congrArg g (hF.libevdevSetFd p fd s v' hv' h v hv hne)
  libevdevChangeFd := fun p fd s v' hv' h v hv hne =>
    congrArg g (hF.libevdevChangeFd p fd s v' hv' h v hv hne)
  libevdevGrab := fun p mode s v' hv' =>
    ⟨fun h v hv hne => congrArg g ((hF.libevdevGrab p mode s v' hv').1 h v hv hne),
      fun hneg h v hv hne => congrArg g ((hF.libevdevGrab p mode s v' hv').2 hneg h v hv hne)⟩
  libevdevUinputCreateFromDevice := fun p fd s h v hv hne =>
    congrArg g (hF.libevdevUinputCreateFromDevice p fd s h v hv hne)
  libevdevUinputDestroy := fun u s h v hv hne =>
    congrArg g (hF.libevdevUinputDestroy u s h v hv hne)
  ownChangeFd := fun h fd s v hv => congrArg g (hF.ownChangeFd h fd s v hv)
  ownGrab := fun h mode s v hv => congrArg g (hF.ownGrab h mode s v hv)

/-- The calls of a platform leave the state beside it. -/
theorem Platform.ownFrames_beside (P : Platform σ) (V : Views σ) (kept : τ → Handle → τ') :
    (P.beside τ).OwnFrames (V.beside τ) fun s => kept s.2 where
  posixOpen := fun _ _ _ _ _ _ _ => rfl
  posixClose := fun _ _ _ _ _ _ => rfl
  libevdevNew := fun _ _ _ _ _ => rfl
  libevdevNewFromFd := fun _ _ _ _ _ _ => rfl
  libevdevFree := fun _ _ _ _ _ _ _ _ => rfl
  libevdevSetFd := fun _ _ _ _ _ _ _ _ _ => rfl
  libevdevChangeFd := fun _ _ _ _ _ _ _ _ _ => rfl
  libevdevGrab := fun _ _ _ _ _ => ⟨fun _ _ _ _ => rfl, fun _ _ _ _ _ => rfl⟩
  libevdevUinputCreateFromDevice := fun _ _ _ _ _ _ _ => rfl
  libevdevUinputDestroy := fun _ _ _ _ _ _ => rfl
  ownChangeFd := fun _ _ _ _ _ => rfl
  ownGrab := fun _ _ _ _ _ => rfl

/-! ## Calls -/

section Calls

variable {α β : Type} {w : World σ} {d : DeviceId} {D : Device} {h : Handle}

theorem ofExcept_inj {w' : World σ} {r r' : Except Exn α}
    (heq : (Prog.ofExcept r : Op σ α) w = Prog.ofExcept r' w') : r = r' ∧ w = w' := by
  cases r with
  | ok a =>
      cases r' with
      | ok a' =>
          cases heq
          exact ⟨rfl, rfl⟩
      | error e => cases heq
  | error e =>
      cases r' with
      | ok a => cases heq
      | error e' =>
          cases heq
          exact ⟨rfl, rfl⟩

namespace Device

theorem deref_of_not_valid (hnot : ¬ Valid w d) (f : Handle → Op σ α) :
    (do
      let D ← load d
      let raw ← Op.deref D.raw
      f raw : Op σ α) w = .undefined := by
  cases hD : w.devices d with
  | none => simp [hD]
  | some D =>
      cases hraw : D.raw with
      | none => simp [hD, hraw]
      | some h => exact absurd ⟨D, h, hD, hraw⟩ hnot

theorem query_of_not_valid (hnot : ¬ Valid w d) (ask : Handle → σ → α) :
    query d ask w = .undefined :=
  deref_of_not_valid hnot fun raw => Prog.gets fun w => ask raw w.env

theorem command_of_not_valid (hnot : ¬ Valid w d) (tell : Handle → σ → σ) :
    command d tell w = .undefined :=
  deref_of_not_valid hnot fun raw => Prog.modify fun w => w.withEnv (tell raw w.env)

theorem require_of_not_valid (hnot : ¬ Valid w d) (what : String) (call : Handle → σ → Int × σ) :
    require d what call w = .undefined :=
  deref_of_not_valid hnot _

theorem noexcept_of_undefined {p : Op σ α} (hp : p w = .undefined) :
    Prog.noexcept p w = .undefined := by
  rw [Prog.noexcept, hp]

/-- What is not defined has no continuation. -/
theorem bind_of_undefined {p : Op σ β} (hp : p w = .undefined) (f : β → Op σ α) :
    (p >>= f) w = .undefined := by
  rw [Prog.bind_apply, hp]
  rfl

theorem noexcept_command_apply (hD : w.devices d = some D) (hraw : D.raw = some h)
    (tell : Handle → σ → σ) :
    Prog.noexcept (command d tell) w = .returned () (w.withEnv (tell h w.env)) :=
  Prog.noexcept_of_returned (by simp [command, hD, hraw])

/-- A call that throws if libevdev refuses it. -/
theorem require_apply (hD : w.devices d = some D) (hraw : D.raw = some h) (what : String)
    (call : Handle → σ → Int × σ) :
    require d what call w =
      (if (call h w.env).1 ≠ 0 then Op.throwRuntimeError what else pure () : Op σ Unit)
        (w.withEnv (call h w.env).2) := by
  simp only [require, Prog.bind_apply, load_apply hD, hraw, deref_some_apply,
    Outcome.returned_andThen]
  rfl

end Device

end Calls

/-! ## Lawful facets -/

namespace Facet

section Does

variable {w : World σ} {c : F.Call} {D : Device} {h : Handle} {a : F.Answer}

/-- The call does to the platform what it does to the value that is kept. -/
def Does (F : Facet σ τ) (V : Views σ) (obs : σ → Handle → τ) (w : World σ) (c : F.Call)
    (h : Handle) : Prop :=
  ∃ s, F.exec c w = Prog.ofExcept (F.on (obs w.env h) c).1 (w.withEnv s) ∧
    V.Writes obs h (F.on (obs w.env h) c).2 w.env s

/-- A call on a valid device does what `on` says, and every other one is undefined. -/
structure Lawful (F : Facet σ τ) (V : Views σ) (obs : σ → Handle → τ) : Prop where
  does : ∀ {w c D h}, w.devices (F.dev c) = some D → D.raw = some h → F.Does V obs w c h
  undefined : ∀ {w c}, ¬ Device.Valid w (F.dev c) → F.exec c w = .undefined

/-- A call that reads. -/
theorem does_of_read (hexec : F.exec c w = Prog.ofExcept (F.on (obs w.env h) c).1 w)
    (hon : (F.on (obs w.env h) c).2 = obs w.env h) : F.Does V obs w c h := by
  refine ⟨w.env, hexec, ?_⟩
  rw [hon]
  exact Views.Writes.nothing V obs h w.env

/-- A call that writes. -/
theorem does_of_command {tell : Handle → σ → σ} (hD : w.devices (F.dev c) = some D)
    (hraw : D.raw = some h)
    (hexec : F.exec c = do
      Prog.noexcept (Device.command (F.dev c) tell)
      return a)
    (hon : (F.on (obs w.env h) c).1 = .ok a)
    (hwrites : V.Writes obs h (F.on (obs w.env h) c).2 w.env (tell h w.env)) :
    F.Does V obs w c h := by
  refine ⟨_, ?_, hwrites⟩
  rw [hexec, hon, Prog.bind_apply, Device.noexcept_command_apply hD hraw]
  rfl

/-- A call that libevdev may refuse. -/
theorem does_of_require {what : String} {call : Handle → σ → Int × σ}
    (hD : w.devices (F.dev c) = some D) (hraw : D.raw = some h)
    (hexec : F.exec c = do
      Device.require (F.dev c) what call
      return a)
    (hon : (F.on (obs w.env h) c).1 =
      if (call h w.env).1 ≠ 0 then .error (.std (.runtimeError what)) else .ok a)
    (hwrites : V.Writes obs h (F.on (obs w.env h) c).2 w.env (call h w.env).2) :
    F.Does V obs w c h := by
  refine ⟨_, ?_, hwrites⟩
  rw [hexec, hon, Prog.bind_apply, Device.require_apply hD hraw]
  by_cases hret : (call h w.env).1 ≠ 0
  · rw [if_pos hret, if_pos hret]
    rfl
  · rw [if_neg hret, if_neg hret]
    rfl

end Does

section Step

variable {w w' : World σ} {s₀ : σ}

/-- All that a call can do. -/
theorem call_cases (hlaw : F.Lawful V obs) {c : F.Call} {r : Except Exn F.Answer}
    (hstep : F.Step P w (.call c r) w') :
    ∃ D h s, w.devices (F.dev c) = some D ∧ D.raw = some h ∧ w' = w.withEnv s ∧
      V.Writes obs h (F.on (obs w.env h) c).2 w.env s ∧ (F.on (obs w.env h) c).1 = r := by
  have hexec : F.exec c w = Prog.ofExcept r w' := hstep
  by_cases hvalid : Device.Valid w (F.dev c)
  · rcases hvalid with ⟨D, h, hD, hraw⟩
    rcases hlaw.does hD hraw with ⟨s, hdoes, hwrites⟩
    rcases ofExcept_inj (hdoes.symm.trans hexec) with ⟨hr, hw⟩
    exact ⟨D, h, s, hD, hraw, hw.symm, hwrites, hr⟩
  · rw [hlaw.undefined hvalid] at hexec
    cases r with
    | ok a => cases hexec
    | error e => cases hexec

/-- The device at `d` is not created or opened again, `set_fd` is not called on it, and it is neither
given away nor destroyed; it may be grabbed, and read from another descriptor by `change_fd`. -/
def Action.KeepsDevice (d : DeviceId) : F.Action → Prop
  | .act (.device (.changeFd _ _)) => True
  | .act (.device a) => a.Spares d
  | _ => True

end Step

end Facet

/-! ## The invariant -/

theorem HandlesFollowed.withEnv {s₀ s : σ} {w : World σ} (hw : HandlesFollowed V s₀ w)
    (hs : V.Same w.env s) : HandlesFollowed V s₀ (w.withEnv s) := by
  refine ⟨hw.1.same ?_, hw.2.same ?_⟩
  · have hinUse : (deviceHandles V).inUse s = (deviceHandles V).inUse w.env := by
      simp only [deviceHandles, hs.2.1]
    exact congrArg (Ledger.Books.mk _ _) hinUse
  · have hinUse : (uinputHandles V).inUse s = (uinputHandles V).inUse w.env := by
      simp only [uinputHandles, hs.2.2]
    exact congrArg (Ledger.Books.mk _ _) hinUse

theorem HandlesFollowed.facetStep (hdoc : P.Documented V) (hlaw : F.Lawful V obs) {s₀ : σ}
    {w w' : World σ} {a : F.Action} (hw : HandlesFollowed V s₀ w) (hstep : F.Step P w a w') :
    HandlesFollowed V s₀ w' := by
  cases a with
  | act a =>
      cases a with
      | device a => exact (deviceInvariant hdoc s₀).step hw trivial hstep
      | uinput a => exact (uinputInvariant hdoc s₀).step hw hstep
      | grabber a => exact (grabberInvariant hdoc s₀).step hw trivial hstep
  | call c r =>
      rcases Facet.call_cases hlaw hstep with ⟨_, _, s, _, _, rfl, hwrites, _⟩
      exact hw.withEnv hwrites.2

namespace Spared

variable {s₀ : σ} {d d' : DeviceId} {D D' : Device} {h h' : Handle} {x : τ} {w w' : World σ}

/-- A grab, of the device or of another one. -/
theorem grabCalled (hdoc : P.Documented V) (hF : P.OwnFrames V obs) (hraw : D.raw = some h)
    (hw : Spared V obs s₀ d D h x w) (hD' : w.devices d' = some D') (hraw' : D'.raw = some h')
    (mode : GrabMode) : Spared V obs s₀ d D h x (w.grabCalled P h' mode) := by
  refine ⟨hw.followed.grabCalled hdoc hD' hraw', hw.object, ?_⟩
  rcases hw.live hraw with ⟨v, hv⟩
  rcases hw.followed.live hD' h' hraw' with ⟨v', hv'⟩
  by_cases hh : h' = h
  · subst hh
    exact (hF.ownGrab h' mode w.env v' hv').trans hw.seen
  · have hne : some h' ≠ some h := fun heq => hh (Option.some.inj heq)
    exact ((hF.libevdevGrab h' mode w.env v' hv').1 h v hv hne).trans hw.seen

/-- Whatever is done with grabbers. -/
theorem anyGrabberInvariant (hdoc : P.Documented V) (hF : P.OwnFrames V obs) (s₀ : σ) (x : τ)
    (hraw : D.raw = some h) : GrabberInvariant P (fun _ _ => True) (Spared V obs s₀ d D h x) where
  birth := fun hw _ => ⟨hw.followed, hw.object, hw.seen⟩
  death := fun hw _ => ⟨hw.followed, hw.object, hw.seen⟩
  give := fun hw _ _ _ => ⟨hw.followed, hw.object, hw.seen⟩
  hold := by
    intro w g d' D' h' hw _ hD' hraw' _ _
    have hgrabbed := hw.grabCalled hdoc hF hraw hD' hraw' .grab
    exact ⟨hgrabbed.followed, hgrabbed.object, hgrabbed.seen⟩
  letGo := by
    intro w g d' D' h' hw _ hD' hraw' _ _
    have hungrabbed := hw.grabCalled hdoc hF hraw hD' hraw' .ungrab
    exact ⟨hungrabbed.followed, hungrabbed.object, hungrabbed.seen⟩
  failed := fun hw hD' hraw' _ => hw.grabCalled hdoc hF hraw hD' hraw' _
  moveAssign := fun _ _ => trivial
  destruct := fun _ => trivial

/-- Another descriptor, for the device or for another one. -/
theorem changeFd (hdoc : P.Documented V) (hF : P.OwnFrames V obs) (hraw : D.raw = some h)
    (hw : Spared V obs s₀ d D h x w) {this : DeviceId} {fd : Fd}
    (hstep : deviceStep P w (.changeFd this fd) w') : Spared V obs s₀ d D h x w' := by
  by_cases hthis : this = d
  · subst hthis
    have hfollowed := (HandlesFollowed.deviceInvariant hdoc s₀).step hw.followed trivial hstep
    rcases Device.after_changeFd hw.object hstep with ⟨p, hp, rfl⟩
    rcases hw.live hraw with ⟨v, hv⟩
    have hph : p = h := Option.some.inj (hp.symm.trans hraw)
    subst hph
    exact ⟨hfollowed, hw.object, (hF.ownChangeFd p fd w.env v hv).trans hw.seen⟩
  · exact (deviceInvariant hdoc hF.toFrames s₀ x hraw).step hw (a := .changeFd this fd) hthis hstep

theorem actStep (hdoc : P.Documented V) (hF : P.OwnFrames V obs) (hraw : D.raw = some h) {a : Act}
    (hw : Spared V obs s₀ d D h x w) (hkeeps : (Facet.Action.act a : F.Action).KeepsDevice d)
    (hstep : Evdevxx.step P w a w') : Spared V obs s₀ d D h x w' := by
  cases a with
  | device a =>
      by_cases hchange : ∃ this fd, a = .changeFd this fd
      · rcases hchange with ⟨this, fd, rfl⟩
        exact hw.changeFd hdoc hF hraw hstep
      · have hspares : a.Spares d := by
          cases a with
          | changeFd this fd => exact absurd ⟨this, fd, rfl⟩ hchange
          | _ => exact hkeeps
        exact (deviceInvariant hdoc hF.toFrames s₀ x hraw).step hw hspares hstep
  | uinput a => exact (uinputInvariant hdoc hF.toFrames s₀ x hraw).step hw hstep
  | grabber a => exact (anyGrabberInvariant hdoc hF s₀ x hraw).step hw trivial hstep

/-- A call on the device is answered by what is kept of it. -/
theorem callStep (hlaw : F.Lawful V obs) (hraw : D.raw = some h) (hw : Spared V obs s₀ d D h x w)
    {c : F.Call} {r : Except Exn F.Answer} (hc : F.dev c = d)
    (hstep : F.Step P w (.call c r) w') :
    ∃ x', Spared V obs s₀ d D h x' w' ∧ F.Answers (obs w.env h) (c, r) (obs w'.env h) := by
  rcases Facet.call_cases hlaw hstep with ⟨D', h', s, hD', hraw', rfl, hwrites, hon⟩
  have hDD : D' = D := Option.some.inj (hD'.symm.trans ((congrArg w.devices hc).trans hw.object))
  subst hDD
  have hhh : h' = h := Option.some.inj (hraw'.symm.trans hraw)
  subst hhh
  have hwritten : obs s h' = (F.on (obs w.env h') c).2 := by rw [hwrites.1, Function.update_self]
  exact ⟨_, ⟨hw.followed.withEnv hwrites.2, hw.object, hwritten⟩, Prod.ext hon hwritten.symm⟩

/-- A call on another device does not reach what is kept. -/
theorem callElsewhere (hlaw : F.Lawful V obs) (hraw : D.raw = some h)
    (hw : Spared V obs s₀ d D h x w) {c : F.Call} {r : Except Exn F.Answer} (hc : F.dev c ≠ d)
    (hstep : F.Step P w (.call c r) w') : Spared V obs s₀ d D h x w' := by
  rcases Facet.call_cases hlaw hstep with ⟨D', h', s, hD', hraw', rfl, hwrites, _⟩
  have hhh : h ≠ h' := fun heq => hw.raw_ne hraw hc hD' (heq ▸ hraw')
  refine ⟨hw.followed.withEnv hwrites.2, hw.object, ?_⟩
  have hsame : obs s h = obs w.env h := by rw [hwrites.1, Function.update_of_ne hhh]
  exact hsame.trans hw.seen

/-- Whatever a program does, what is kept sees the calls on the device, and nothing else. -/
theorem facetStep (hdoc : P.Documented V) (hF : P.OwnFrames V obs) (hlaw : F.Lawful V obs)
    (hraw : D.raw = some h) {a : F.Action} (hw : Spared V obs s₀ d D h x w)
    (hkeeps : a.KeepsDevice d) (hstep : F.Step P w a w') :
    (∃ x', Spared V obs s₀ d D h x' w') ∧
      Run F.Answers (obs w.env h) (a.callOn d).toList (obs w'.env h) := by
  cases a with
  | act a =>
      have hw' := hw.actStep hdoc hF hraw hkeeps hstep
      refine ⟨⟨x, hw'⟩, ?_⟩
      rw [hw'.seen, hw.seen]
      exact Run.nil
  | call c r =>
      by_cases hc : F.dev c = d
      · rcases hw.callStep hlaw hraw hc hstep with ⟨x', hw', hanswers⟩
        have hcall : (Facet.Action.call c r).callOn d = some (c, r) := if_pos hc
        refine ⟨⟨x', hw'⟩, ?_⟩
        rw [hcall]
        exact Run.nil.snoc hanswers
      · have hw' := hw.callElsewhere hlaw hraw hc hstep
        have hcall : (Facet.Action.call c r).callOn d = none := if_neg hc
        refine ⟨⟨x, hw'⟩, ?_⟩
        rw [hcall, hw'.seen, hw.seen]
        exact Run.nil

end Spared

/-! ## Runs -/

/-- From any point of any run, the calls on a valid device are answered by what is kept of it,
whatever a program does in between with other objects; and so is whatever is asked next. -/
theorem Facet.stored (hdoc : P.Documented V) (hF : P.OwnFrames V obs) (hlaw : F.Lawful V obs)
    {s₀ : σ} {acts acts' : List F.Action} {w w' : World σ} {d : DeviceId} {D : Device} {h : Handle}
    (before : Run (F.Step P) (World.init s₀) acts w)
    (run : Run (Guarded (fun _ a => a.KeepsDevice d) (F.Step P)) w acts' w')
    (hD : w.devices d = some D) (hraw : D.raw = some h) :
    Run F.Answers (obs w.env h) (acts'.filterMap (Facet.Action.callOn d)) (obs w'.env h) ∧
      ∀ c, F.dev c = d → ∃ w'', F.Step P w' (.call c (F.on (obs w'.env h) c).1) w'' := by
  have hfollowed : HandlesFollowed V s₀ w :=
    before.invariant (HandlesFollowed V s₀) ⟨Custody.Followed.init _ s₀, Custody.Followed.init _ s₀⟩
      fun _ _ _ hw hs => hw.facetStep hdoc hlaw hs
  have hend := run.projects (fun w => ∃ x, Spared V obs s₀ d D h x w) (fun w => obs w.env h)
    (Facet.Action.callOn d) ⟨_, hfollowed, hD, rfl⟩
    fun _ _ _ ⟨_, hw⟩ hs => hw.facetStep hdoc hF hlaw hraw hs.1 hs.2
  refine ⟨hend.2, fun c hc => ?_⟩
  rcases hend.1 with ⟨x, hw'⟩
  have hD' : w'.devices (F.dev c) = some D := (congrArg w'.devices hc).trans hw'.object
  rcases hlaw.does hD' hraw with ⟨s, hexec, _⟩
  exact ⟨w'.withEnv s, hexec⟩

end Evdevxx
