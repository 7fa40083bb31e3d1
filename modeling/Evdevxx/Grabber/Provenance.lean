import Evdevxx.Grabber.Coverage

/-!
# Provenance — on which handle a grab is undone

A `Grabber` remembers the address of a `Device`, and `ungrab` uses whatever handle that object holds
by then.  A `Tracked` state also remembers the handle that each `Grabber` was constructed on: it
travels with the device from one `Grabber` to another and is read by nothing.

Along every run that takes the handle away from no held device (`Spares`), every `ungrab` reaches
the handle it was made on, and the handle is live (`UndoesGrab`).
-/

namespace Evdevxx

variable {σ : Type} {P : Platform σ} {V : Views σ}

/-! ## Tracked states -/

/-- A world, and for every `Grabber` the handle that the construction it goes back to grabbed. -/
structure Tracked (σ : Type) where
  world : World σ
  grabbedOn : GrabberId → Option Handle

/-- The handle of the last call, if that call was `libevdev_grab(LIBEVDEV_GRAB)`. -/
def lastGrabbed : List Call → Option Handle
  | .libevdevGrab h .grab _ :: _ => some h
  | _ => none

/-- What the `Grabber` at `s` goes back to is now what the one at `g` goes back to. -/
def handOver (on : GrabberId → Option Handle) (g s : GrabberId) : GrabberId → Option Handle :=
  Function.update (Function.update on g (on s)) s none

namespace Tracked

def init (s : σ) : Tracked σ :=
  { world := World.init s
    grabbedOn := fun _ => none }

/-- The handles after an action on a `Grabber` that ends like `r`. -/
def follow (on : GrabberId → Option Handle) :
    GrabberAct → Outcome Exn (World σ) Unit → GrabberId → Option Handle
  | .constructFrom g _, .returned _ w' => Function.update on g (lastGrabbed w'.log)
  | .moveConstruct g s, .returned _ _ => handOver on g s
  | .moveAssign g s, .returned _ _ => if g = s then on else handOver on g s
  | .ungrab g, .returned _ _ => Function.update on g none
  | .destruct g, .returned _ _ => Function.update on g none
  -- What throws leaves the devices where they are.
  | _, _ => on

/-- The handles after an action. -/
def followed (P : Platform σ) (t : Tracked σ) : Act → GrabberId → Option Handle
  | .grabber a => follow t.grabbedOn a (a.exec P t.world)
  | _ => t.grabbedOn

/-- One action of a program, with the handles followed. -/
def Step (P : Platform σ) (t : Tracked σ) (a : Act) (t' : Tracked σ) : Prop :=
  step P t.world a t'.world ∧ t'.grabbedOn = t.followed P a

theorem Step.intro {w w' : World σ} {on : GrabberId → Option Handle} {a : Act}
    (hstep : step P w a w') : Step P { world := w, grabbedOn := on } a
      { world := w', grabbedOn := followed P { world := w, grabbedOn := on } a } :=
  ⟨hstep, rfl⟩

end Tracked

/-- `ungrab` of the `Grabber` at `g` makes no call, or `libevdev_grab(LIBEVDEV_UNGRAB)` on the handle
that was grabbed, which is still live. -/
def UndoesGrab (P : Platform σ) (V : Views σ) (t : Tracked σ) (g : GrabberId) : Prop :=
  ∃ w', (Grabber.ungrab P g t.world).after = some w' ∧
    (w'.log = t.world.log ∨ ∃ h ret v, t.grabbedOn g = some h ∧ V.evdevs t.world.env h = some v ∧
      w'.log = Call.libevdevGrab h .ungrab ret :: t.world.log)

/-- The action takes the handle away from the device at `d`: it moves it elsewhere, frees it, or
replaces it.  A `create` that fails does not. -/
def DeviceAct.Takes (P : Platform σ) (w : World σ) (d : DeviceId) : DeviceAct → Prop
  | .moveConstruct _ s => s = d
  | .moveAssign t s => t ≠ s ∧ (t = d ∨ s = d)
  | .create t => t = d ∧ (P.libevdevNew w.env).1 ≠ none
  | .createFd t fd => t = d ∧ 0 ≤ (P.libevdevNewFromFd fd w.env).1.1
  | .createPath t filename flags => t = d ∧ 1 ≤ (P.posixOpen filename flags w.env).1 ∧
      0 ≤ (P.libevdevNewFromFd (P.posixOpen filename flags w.env).1
        (P.posixOpen filename flags w.env).2).1.1
  | .destroy t => t = d
  | .destruct t => t = d
  | _ => False

/-- The action takes the handle away from no device that a `Grabber` holds. -/
def Spares (P : Platform σ) (w : World σ) : Act → Prop
  | .device a => ∀ d, Held w d → ¬ a.Takes P w d
  | _ => True

/-! ## Matching handles -/

/-- A `Grabber` that holds a device was made on the handle which that device has. -/
def Matched (on : GrabberId → Option Handle) (w : World σ) : Prop :=
  ∀ g d, w.grabbers g = some { dev := some d } → ∃ h, w.rawAt d = some h ∧ on g = some h

section Matched

variable {w w' : World σ} {on on' : GrabberId → Option Handle} {g s : GrabberId} {d : DeviceId}
variable {D : Device} {X E : Grabber}

theorem Matched.valid (hm : Matched on w) (hheld : Held w d) : ∃ h, w.rawAt d = some h := by
  rcases hheld with ⟨g, hg⟩
  rcases hm g d hg with ⟨h, hraw, _⟩
  exact ⟨h, hraw⟩

theorem Matched.not_held (hm : Matched on w) (hnone : w.rawAt d = none) : ¬ Held w d := by
  intro hheld
  rcases hm.valid hheld with ⟨h, hraw⟩
  rw [hnone] at hraw
  cases hraw

/-- No `Grabber` changes, and the held devices keep their handles. -/
theorem Matched.frame (hm : Matched on w) (hgrab : w'.grabbers = w.grabbers)
    (hraw : ∀ d, Held w d → w'.rawAt d = w.rawAt d) : Matched on w' := by
  intro g d hg
  rw [hgrab] at hg
  rcases hm g d hg with ⟨h, hold, hon⟩
  exact ⟨h, (hraw d ⟨g, hg⟩).trans hold, hon⟩

theorem Matched.congr (hm : Matched on w) (hdev : w'.devices = w.devices)
    (hgrab : w'.grabbers = w.grabbers) : Matched on w' :=
  hm.frame hgrab fun d _ => World.rawAt_congr hdev d

/-- A device that is not held gets another value, after calls that change no object. -/
theorem Matched.write {t : World σ} (hm : Matched on w) (hdev : t.devices = w.devices)
    (hgrab : t.grabbers = w.grabbers) (hunheld : ¬ Held w d) (Y : Option Device) :
    Matched on (t.setDevice d Y) := by
  refine hm.frame hgrab fun d' hheld => ?_
  have hdd : d' ≠ d := by
    intro heq
    exact hunheld (heq ▸ hheld)
  rw [World.rawAt_setDevice_of_ne hdd, World.rawAt_congr hdev]

/-- One `Grabber` changes. -/
theorem Matched.change (hm : Matched on w) (hdev : w'.devices = w.devices)
    (hother : ∀ g', g' ≠ g → w'.grabbers g' = w.grabbers g' ∧ on' g' = on g')
    (hself : ∀ d, w'.grabbers g = some { dev := some d } →
      ∃ h, w.rawAt d = some h ∧ on' g = some h) : Matched on' w' := by
  intro g' d hg'
  rw [World.rawAt_congr hdev]
  by_cases hgg : g' = g
  · subst hgg
    exact hself d hg'
  · rcases hother g' hgg with ⟨hgrab, hon⟩
    rw [hon]
    exact hm g' d (hgrab ▸ hg')

end Matched

/-! ## The invariant -/

/-- The handles are live, and every `Grabber` was made on the handle that its device has. -/
structure Traced (V : Views σ) (s₀ : σ) (on : GrabberId → Option Handle) (w : World σ) :
    Prop where
  handles : HandlesFollowed V s₀ w
  matched : Matched on w

namespace Traced

variable {w w' : World σ} {s₀ : σ} {on : GrabberId → Option Handle}

/-- The actions on devices that spare the held ones. -/
theorem deviceInvariant (hdoc : P.Documented V) (s₀ : σ) (on : GrabberId → Option Handle) :
    DeviceInvariant P (fun w a => ∀ d, Held w d → ¬ a.Takes P w d) (Traced V s₀ on) where
  birth := by
    intro w d ht hfree
    refine ⟨(HandlesFollowed.deviceInvariant hdoc s₀).birth ht.handles hfree, ?_⟩
    exact ht.matched.write rfl rfl (ht.matched.not_held (World.rawAt_of_none hfree)) _
  death := by
    intro w d ht hD
    refine ⟨(HandlesFollowed.deviceInvariant hdoc s₀).death ht.handles hD, ?_⟩
    exact ht.matched.write rfl rfl (ht.matched.not_held (World.rawAt_of_some hD)) _
  dispose := by
    intro w d D ht hD hspares
    refine ⟨(HandlesFollowed.deviceInvariant hdoc s₀).dispose ht.handles hD trivial, ?_⟩
    exact ht.matched.write (World.disposed_devices P w D) (World.disposed_grabbers P w D)
      (fun hheld => hspares d hheld rfl) _
  give := by
    intro w d s E ht hds hempty hE hspares
    refine ⟨(HandlesFollowed.deviceInvariant hdoc s₀).give ht.handles hds hempty hE trivial, ?_⟩
    -- Neither the source nor the empty target is held.
    have hsource : Matched on (w.setDevice s (some {})) :=
      ht.matched.write rfl rfl (fun hheld => hspares s hheld rfl) _
    refine hsource.write rfl rfl (hsource.not_held ?_) _
    rw [World.rawAt_setDevice_of_ne hds, World.rawAt_of_some hempty]
  create := by
    intro w d D w' ht hD hspares hafter
    refine ⟨(HandlesFollowed.deviceInvariant hdoc s₀).create ht.handles hD trivial hafter, ?_⟩
    rcases Device.after_create hD hafter with ⟨_, rfl⟩ | ⟨p, hnew, rfl⟩
    · exact ht.matched.congr rfl rfl
    · refine ht.matched.write ?_ ?_ (fun hheld => hspares d hheld ⟨rfl, by simp [hnew]⟩) _
      · simp
      · simp
  createFd := by
    intro w d D fd w' ht hD hspares hafter
    refine ⟨(HandlesFollowed.deviceInvariant hdoc s₀).createFd ht.handles hD trivial hafter, ?_⟩
    rcases Device.after_createFd hD hafter with ⟨_, rfl⟩ | ⟨hok, rfl⟩
    · exact ht.matched.congr rfl rfl
    · refine ht.matched.write ?_ ?_ (fun hheld => hspares d hheld ⟨rfl, hok⟩) _
      · simp
      · simp
  createPath := by
    intro w d D filename flags w' ht hD hspares hafter
    refine ⟨(HandlesFollowed.deviceInvariant hdoc s₀).createPath ht.handles hD trivial hafter, ?_⟩
    rcases Device.after_createPath hD hafter with ⟨_, rfl⟩ | ⟨_, _, rfl⟩ | ⟨hlow, hok, rfl⟩
    · exact ht.matched.congr rfl rfl
    · exact ht.matched.congr rfl rfl
    · refine ht.matched.write ?_ ?_ (fun hheld => hspares d hheld ⟨rfl, hlow, hok⟩) _
      · simp
      · simp
  openPath := by
    intro w d D filename flags w' ht hD _ hafter
    refine ⟨(HandlesFollowed.deviceInvariant hdoc s₀).openPath ht.handles hD trivial hafter, ?_⟩
    -- `open` records a descriptor in the object and leaves its handle alone.
    have hkeep : ∀ (t : World σ) (fd : Fd), t.devices = w.devices → ∀ d',
        (t.setDevice d (some { D with ownedFd := fd })).rawAt d' = w.rawAt d' := by
      intro t fd hdev d'
      by_cases hdd : d' = d
      · subst hdd
        rw [World.rawAt_setDevice_self, World.rawAt_of_some hD]
        rfl
      · rw [World.rawAt_setDevice_of_ne hdd, World.rawAt_congr hdev]
    rcases Device.after_openPath hD hafter with ⟨_, rfl⟩ | ⟨_, _, rfl⟩ | ⟨p, _, _, _, rfl⟩
    · exact ht.matched
    · exact ht.matched.frame rfl fun d' _ => hkeep _ _ rfl d'
    · exact ht.matched.frame rfl fun d' _ => hkeep _ _ rfl d'
  setFd := by
    intro w d D fd w' ht hD _ hafter
    refine ⟨(HandlesFollowed.deviceInvariant hdoc s₀).setFd ht.handles hD trivial hafter, ?_⟩
    rcases Device.after_setFd hD hafter with ⟨p, _, rfl⟩
    exact ht.matched.congr rfl rfl
  changeFd := by
    intro w d D fd w' ht hD _ hafter
    refine ⟨(HandlesFollowed.deviceInvariant hdoc s₀).changeFd ht.handles hD trivial hafter, ?_⟩
    rcases Device.after_changeFd hD hafter with ⟨p, _, rfl⟩
    exact ht.matched.congr rfl rfl
  constructDefault := by
    intro w d ht hfree _ d' hheld htakes
    exact ht.matched.not_held (World.rawAt_of_none hfree) (htakes.1 ▸ hheld)
  constructFd := by
    intro w d fd ht hfree _ d' hheld htakes
    exact ht.matched.not_held (World.rawAt_of_none hfree) (htakes.1 ▸ hheld)
  constructPath := by
    intro w d filename flags ht hfree _ d' hheld htakes
    exact ht.matched.not_held (World.rawAt_of_none hfree) (htakes.1 ▸ hheld)
  moveConstruct := fun _ hspares => hspares
  moveAssign := by
    intro w d s D hds _ hspares
    refine ⟨fun d' hheld heq => hspares d' hheld ⟨hds, Or.inl heq⟩, fun d' hheld heq => ?_⟩
    have hheld' : Held w d' := (held_congr (by simp) d').1 hheld
    exact hspares d' hheld' ⟨hds, Or.inr heq⟩
  destruct := fun hspares => hspares

/-- The actions on `Uinput` objects change no device and no `Grabber`. -/
theorem uinputInvariant (hdoc : P.Documented V) (s₀ : σ) (on : GrabberId → Option Handle) :
    UinputInvariant P (Traced V s₀ on) where
  birth := by
    intro w u ht hfree
    exact ⟨(HandlesFollowed.uinputInvariant hdoc s₀).birth ht.handles hfree,
      ht.matched.congr rfl rfl⟩
  death := by
    intro w u ht hU
    exact ⟨(HandlesFollowed.uinputInvariant hdoc s₀).death ht.handles hU,
      ht.matched.congr rfl rfl⟩
  dispose := by
    intro w u U ht hU
    exact ⟨(HandlesFollowed.uinputInvariant hdoc s₀).dispose ht.handles hU,
      ht.matched.congr (by simp) (by simp)⟩
  give := by
    intro w u s E ht hus hempty hE
    exact ⟨(HandlesFollowed.uinputInvariant hdoc s₀).give ht.handles hus hempty hE,
      ht.matched.congr rfl rfl⟩
  create := by
    intro w u U dev fd w' ht hU hafter
    refine ⟨(HandlesFollowed.uinputInvariant hdoc s₀).create ht.handles hU hafter, ?_⟩
    rcases Uinput.after_create hU hafter with ⟨D, p, _, _, ⟨_, rfl⟩ | ⟨_, rfl⟩⟩
    · exact ht.matched.congr rfl rfl
    · exact ht.matched.congr (by simp) (by simp)

end Traced

/-! ## The actions on grabbers -/

section Grabbers

variable {w w' : World σ} {on : GrabberId → Option Handle} {g s : GrabberId} {d : DeviceId}
variable {X E : Grabber}

/-- A `Grabber` that holds nothing any more. -/
theorem Matched.emptied {Y : Option Grabber} {on' : GrabberId → Option Handle}
    (hm : Matched on w) (hdev : w'.devices = w.devices)
    (hgrab : w'.grabbers = Function.update w.grabbers g Y)
    (hY : ∀ d, Y ≠ some { dev := some d }) (hon : ∀ g', g' ≠ g → on' g' = on g') :
    Matched on' w' := by
  refine hm.change (g := g) hdev (fun g' hgg => ⟨?_, hon g' hgg⟩) fun d hg => ?_
  · rw [hgrab, Function.update_of_ne hgg]
  · rw [hgrab, Function.update_self] at hg
    exact absurd hg (hY d)

/-- What one `Grabber` holds goes to another one, with the handle it goes back to. -/
theorem Matched.handedOver (hm : Matched on w) (hgs : g ≠ s) (hE : w.grabbers s = some E)
    (hdev : w'.devices = w.devices)
    (hgrab : w'.grabbers = Function.update (Function.update w.grabbers s (some {})) g (some E)) :
    Matched (handOver on g s) w' := by
  intro g' d hg'
  rw [World.rawAt_congr hdev]
  rw [hgrab] at hg'
  by_cases hgg : g' = g
  · subst hgg
    rw [Function.update_self] at hg'
    have hheld : w.grabbers s = some { dev := some d } := hE.trans hg'
    rcases hm s d hheld with ⟨h, hraw, hon⟩
    refine ⟨h, hraw, ?_⟩
    rw [handOver, Function.update_of_ne hgs, Function.update_self]
    exact hon
  · rw [Function.update_of_ne hgg] at hg'
    have hsg : g' ≠ s := by
      intro heq
      rw [heq, Function.update_self] at hg'
      cases hg'
    rw [Function.update_of_ne hsg] at hg'
    rcases hm g' d hg' with ⟨h, hraw, hon⟩
    refine ⟨h, hraw, ?_⟩
    rw [handOver, Function.update_of_ne hsg, Function.update_of_ne hgg]
    exact hon

/-- `ungrab` leaves its object empty, or throws and changes no object. -/
theorem Matched.ungrab (hm : Matched on w) {r : Outcome Exn (World σ) Unit}
    (hungrab : Grabber.Ungrabbed P w g r) (hafter : r.after = some w') :
    Matched (Tracked.follow on (.ungrab g) r) w' := by
  cases r with
  | returned _ w₁ =>
      cases hafter
      have hframe := hungrab.frame_returned
      refine hm.emptied hframe.1 hframe.2 (fun d hd => by cases hd) fun g' hgg => ?_
      simp [Tracked.follow, hgg]
  | threw e w₁ =>
      cases hafter
      exact hm.congr hungrab.frame_threw.1 hungrab.frame_threw.2
  | _ => cases hafter

/-- Every action on a `Grabber`: one case for each way it can end. -/
theorem Matched.grabberStep (hm : Matched on w) {a : GrabberAct}
    (hstep : (a.exec P w).after = some w') :
    Matched (Tracked.follow on a (a.exec P w)) w' := by
  have hend := Grabber.ended P w a
  generalize a.exec P w = r at hend hstep ⊢
  cases hend with
  | @born g _ =>
      cases hstep
      exact hm.emptied (g := g) rfl rfl (fun d hd => by cases hd) fun _ _ => rfl
  | @held g d D h _ hD hraw _ =>
      cases hstep
      refine hm.change (g := g) rfl (fun g' hgg => ⟨?_, ?_⟩) fun d' hg => ?_
      · simp [World.grabCalled, hgg]
      · simp [Tracked.follow, hgg]
      · -- The call that was just made is the one that grabbed the handle.
        have hdd : d = d' := by simpa using hg
        subst hdd
        refine ⟨h, (World.rawAt_of_some hD).trans hraw, ?_⟩
        simp [Tracked.follow, World.grabCalled, lastGrabbed]
  | refused _ _ _ _ =>
      cases hstep
      exact hm.congr rfl rfl
  | @bornFromSelf g _ =>
      cases hstep
      refine hm.emptied (g := g) rfl rfl (fun d hd => by cases hd) fun g' hgg => ?_
      simp [Tracked.follow, handOver, hgg]
  | moved hfree hE =>
      cases hstep
      exact hm.handedOver (ne_of_lives_of_free hE hfree).symm hE rfl rfl
  | kept =>
      cases hstep
      simpa [Tracked.follow] using hm
  | @assigned g s E w₁ hgs hungrab hE =>
      cases hstep
      have hframe := hungrab.frame_returned
      have hto : Tracked.follow on (.moveAssign g s)
          (.returned () ((w₁.setGrabber s (some {})).setGrabber g (some E))) = handOver on g s :=
        if_neg hgs
      rw [hto]
      refine hm.handedOver hgs hE hframe.1 ?_
      -- That the target was emptied in between leaves no trace.
      simp [hframe.2, Function.update_comm hgs]
  | notAssigned _ hungrab =>
      cases hstep
      exact hm.congr hungrab.frame_threw.1 hungrab.frame_threw.2
  | ungrabbed hungrab => exact hm.ungrab hungrab hstep
  | @died g w₁ hungrab =>
      cases hstep
      have hframe := hungrab.frame_returned
      refine hm.emptied (g := g) (Y := none) hframe.1 ?_ (fun d hd => by cases hd) fun g' hgg => ?_
      · simp [hframe.2]
      · simp [Tracked.follow, hgg]
  | terminated _ => cases hstep
  | undefined => cases hstep

end Grabbers

/-! ## Undoing a grab -/

section Undoing

variable {t t' : Tracked σ} {s₀ : σ} {g : GrabberId} {d : DeviceId} {X : Grabber}

/-- `ungrab` of a `Grabber` that holds a device undoes its grab exactly when the device has the
handle that was grabbed, and that handle is live. -/
theorem undoesGrab_iff (hg : t.world.grabbers g = some { dev := some d }) :
    UndoesGrab P V t g ↔
      ∃ h v, t.world.rawAt d = some h ∧ t.grabbedOn g = some h ∧ V.evdevs t.world.env h = some v := by
  constructor
  · rintro ⟨w', hafter, hlog⟩
    rcases Grabber.ungrab_cases P hg with hdev | ⟨d', D, q, hdev, hD, hraw⟩ | hundef
    · cases hdev
    · cases hdev
      -- Whether it throws or returns, there was one call, on the handle of the device.
      have hcalled : w'.log = Call.libevdevGrab q .ungrab (P.libevdevGrab q .ungrab t.world.env).1 ::
          t.world.log := by
        rw [Grabber.ungrab_apply hg rfl hD hraw] at hafter
        simp only at hafter
        split at hafter
        · cases hafter
          rfl
        · cases hafter
          rfl
      rcases hlog with hsame | ⟨h, ret, v, hon, hv, hlog⟩
      · rw [hcalled] at hsame
        exact absurd hsame (List.cons_ne_self _ _)
      · rw [hcalled] at hlog
        cases hlog
        exact ⟨q, v, (World.rawAt_of_some hD).trans hraw, hon, hv⟩
    · rw [hundef] at hafter
      cases hafter
  · rintro ⟨h, v, hraw, hon, hv⟩
    rcases Option.bind_eq_some_iff.1 hraw with ⟨D, hD, hDraw⟩
    have happly := Grabber.ungrab_apply (P := P) hg rfl hD hDraw
    by_cases hneg : (P.libevdevGrab h .ungrab t.world.env).1 < 0
    · simp only [hneg, if_true] at happly
      refine ⟨_, by rw [happly]; rfl, Or.inr ⟨h, _, v, hon, hv, rfl⟩⟩
    · simp only [hneg, if_false] at happly
      refine ⟨_, by rw [happly]; rfl, Or.inr ⟨h, _, v, hon, hv, rfl⟩⟩

/-- A `Grabber` that holds nothing makes no call. -/
theorem undoesGrab_of_empty (hg : t.world.grabbers g = some {}) : UndoesGrab P V t g :=
  ⟨t.world, by rw [Grabber.ungrab_apply_empty hg rfl]; rfl, Or.inl rfl⟩

theorem Traced.undoesGrab (ht : Traced V s₀ t.grabbedOn t.world)
    (hX : t.world.grabbers g = some X) : UndoesGrab P V t g := by
  rcases X with ⟨dev⟩
  cases dev with
  | none => exact undoesGrab_of_empty hX
  | some d =>
      rcases ht.matched g d hX with ⟨h, hraw, hon⟩
      rcases DeviceHandles.views_of_raw ht.handles.1 hraw with ⟨v, hv⟩
      exact (undoesGrab_iff hX).2 ⟨h, v, hraw, hon, hv⟩

theorem Traced.step (hdoc : P.Documented V) (ht : Traced V s₀ t.grabbedOn t.world) {a : Act}
    (hspares : Spares P t.world a) (hstep : t.Step P a t') :
    Traced V s₀ t'.grabbedOn t'.world := by
  rcases hstep with ⟨hworld, hon⟩
  cases a with
  | device a =>
      rw [hon]
      exact (Traced.deviceInvariant hdoc s₀ t.grabbedOn).step ht hspares hworld
  | uinput a =>
      rw [hon]
      exact (Traced.uinputInvariant hdoc s₀ t.grabbedOn).step ht hworld
  | grabber a =>
      rw [hon]
      exact ⟨(HandlesFollowed.grabberInvariant hdoc s₀).step ht.handles trivial hworld,
        ht.matched.grabberStep hworld⟩

theorem Traced.init (V : Views σ) (s₀ : σ) :
    Traced V s₀ (Tracked.init s₀).grabbedOn (Tracked.init s₀).world where
  handles := ⟨Custody.Followed.init _ s₀, Custody.Followed.init _ s₀⟩
  matched := by
    intro g d hg
    cases hg

/-- Along every run that takes the handle away from no held device: whichever `Grabber` is
ungrabbed (by `ungrab`, by an assignment to it or by its destructor), it makes no call, or undoes
the grab on the live handle that it was made on. -/
theorem grabs_undone (hdoc : P.Documented V) {acts : List Act}
    (hrun : Run (Guarded (fun t a => Spares P t.world a) (Tracked.Step P)) (Tracked.init s₀) acts t)
    (hX : t.world.grabbers g = some X) : UndoesGrab P V t g := by
  have htraced : Traced V s₀ t.grabbedOn t.world := by
    refine hrun.invariant (fun t => Traced V s₀ t.grabbedOn t.world) (Traced.init V s₀) ?_
    intro t a t' ht hstep
    exact ht.step hdoc hstep.1 hstep.2
  exact htraced.undoesGrab hX

/-- What takes the handle away from a device leaves it with another one, or with none. -/
theorem DeviceAct.Takes.rawAt_ne (hdoc : P.Documented V) {w w' : World σ} {a : DeviceAct}
    {h : Handle} (hw : HandlesFollowed V s₀ w) (htakes : a.Takes P w d)
    (hraw : w.rawAt d = some h) (hstep : deviceStep P w a w') :
    w'.grabbers = w.grabbers ∧ w'.rawAt d ≠ some h := by
  rcases Option.bind_eq_some_iff.1 hraw with ⟨D, hD, hDraw⟩
  rcases hw.live hD h hDraw with ⟨v, hv⟩
  cases a with
  | moveConstruct r s =>
      have hsd : s = d := htakes
      subst hsd
      cases Device.transferred_of_step (a := .moveConstruct r s) trivial hstep with
      | born hfree =>
          rw [hD] at hfree
          cases hfree
      | moved hfree hE =>
          have hne : s ≠ r := ne_of_lives_of_free hD hfree
          refine ⟨rfl, ?_⟩
          rw [World.rawAt_setDevice_of_ne hne, World.rawAt_setDevice_self]
          simp
  | moveAssign r s =>
      rcases htakes with ⟨hrs, heither⟩
      cases Device.transferred_of_step (a := .moveAssign r s) trivial hstep with
      | kept _ => exact absurd rfl hrs
      | assigned hR hne hE =>
          refine ⟨by simp, ?_⟩
          by_cases hsd : s = d
          · subst hsd
            rw [World.rawAt_setDevice_of_ne (Ne.symm hrs), World.rawAt_setDevice_self]
            simp
          · -- It gets the handle of the source, and no two devices share one.
            have hrd : r = d := heither.resolve_right hsd
            subst hrd
            rw [World.rawAt_setDevice_self]
            intro hEraw
            have hsource : w.rawAt s = some h := (World.rawAt_of_some hE).trans hEraw
            exact DeviceHandles.handle_ne hw.1 hsd hD hDraw h hsource rfl
  | create r =>
      rcases htakes with ⟨rfl, hnew⟩
      rcases Device.after_create hD hstep with ⟨hnone, _⟩ | ⟨p, hp, rfl⟩
      · exact absurd hnone hnew
      · have hlaw := (hdoc.libevdevNew w.env).1
        simp only [hp] at hlaw
        refine ⟨by simp, ?_⟩
        rw [World.rawAt_setDevice_self]
        intro heq
        exact ne_of_lives_of_free hv hlaw.1 (Option.some.inj heq).symm
  | createFd r fd =>
      rcases htakes with ⟨rfl, hok⟩
      rcases Device.after_createFd hD hstep with ⟨hneg, _⟩ | ⟨_, rfl⟩
      · exact absurd hok (Int.not_le.2 hneg)
      · rcases (hdoc.libevdevNewFromFd fd w.env).2 hok with ⟨_, _, _, p, hp, hfresh, _⟩
        refine ⟨by simp, ?_⟩
        rw [World.rawAt_setDevice_self]
        intro heq
        have hph : some p = some h := hp.symm.trans heq
        exact ne_of_lives_of_free hv hfresh (Option.some.inj hph).symm
  | createPath r filename flags =>
      rcases htakes with ⟨rfl, hlow, hok⟩
      rcases Device.after_createPath hD hstep with ⟨hless, _⟩ | ⟨_, hneg, _⟩ | ⟨_, _, rfl⟩
      · exact absurd hlow (Int.not_le.2 hless)
      · exact absurd hok (Int.not_le.2 hneg)
      · rcases (hdoc.libevdevNewFromFd _ _).2 hok with ⟨_, _, _, p, hp, hfresh, _⟩
        have hv' : V.evdevs (P.posixOpen filename flags w.env).2 h = some v :=
          hdoc.evdevs_posixOpen hv filename flags
        refine ⟨by simp, ?_⟩
        rw [World.rawAt_setDevice_self]
        intro heq
        have hph : some p = some h := hp.symm.trans heq
        exact ne_of_lives_of_free hv' hfresh (Option.some.inj hph).symm
  | destroy r =>
      cases htakes
      cases Device.transferred_of_step (a := .destroy d) trivial hstep with
      | emptied _ => exact ⟨by simp, by simp⟩
  | destruct r =>
      cases htakes
      cases Device.transferred_of_step (a := .destruct d) trivial hstep with
      | died _ => exact ⟨by simp, by simp⟩
  | _ => exact htakes.elim

/-- The condition is no stronger than it has to be: once the handle has been taken away from a held
device, the `Grabber` that holds it cannot undo its grab. -/
theorem not_undoesGrab_of_taken (hdoc : P.Documented V) (ht : Traced V s₀ t.grabbedOn t.world)
    (hg : t.world.grabbers g = some { dev := some d }) {a : DeviceAct}
    (htakes : a.Takes P t.world d) (hstep : t.Step P (.device a) t') : ¬ UndoesGrab P V t' g := by
  rcases ht.matched g d hg with ⟨h, hraw, hon⟩
  rcases htakes.rawAt_ne hdoc ht.handles hraw hstep.1 with ⟨hgrab, hne⟩
  have hg' : t'.world.grabbers g = some { dev := some d } := by rw [hgrab, hg]
  intro hundoes
  rcases (undoesGrab_iff hg').1 hundoes with ⟨h', v, hraw', hon', _⟩
  -- The handle that was grabbed is remembered as before.
  have hsame : h' = h := by
    rw [hstep.2] at hon'
    exact Option.some.inj (hon'.symm.trans hon)
  subst hsame
  exact hne hraw'

end Undoing

/-- A `Grabber` is moved, and a `create` on its device fails. -/
theorem grabs_undone_moved :
    ∃ t, Run (Guarded (fun t a => Spares Script.platform t.world a) (Tracked.Step Script.platform))
        (Tracked.init { opens := [3], handles := [0] })
        [.device (.constructPath 0 "/dev/input/event0" 0), .grabber (.constructFrom 0 0),
          .grabber (.moveConstruct 1 0), .device (.create 0)] t ∧
      UndoesGrab Script.platform Script.views t 1 := by
  have hspares : ∀ {w : World Script} {a : DeviceAct}, (∀ d, ¬ a.Takes Script.platform w d) →
      Spares Script.platform w (.device a) := fun h d _ => h d
  have hstart : Run (Guarded (fun t a => Spares Script.platform t.world a)
      (Tracked.Step Script.platform)) (Tracked.init { opens := [3], handles := [0] }) []
      (Tracked.init { opens := [3], handles := [0] }) := Run.nil
  have hdevice := hstart.snoc (a := Act.device (.constructPath 0 "/dev/input/event0" 0))
    ⟨hspares fun _ h => h, Tracked.Step.intro rfl⟩
  have hgrab := hdevice.snoc (a := Act.grabber (.constructFrom 0 0))
    ⟨trivial, Tracked.Step.intro rfl⟩
  have hmove := hgrab.snoc (a := Act.grabber (.moveConstruct 1 0))
    ⟨trivial, Tracked.Step.intro rfl⟩
  have hrun := hmove.snoc (a := Act.device (.create 0))
    ⟨hspares fun _ h => h.2 rfl, Tracked.Step.intro rfl⟩
  exact ⟨_, hrun, grabs_undone Script.documented hrun (g := 1) rfl⟩

/-- The device is moved while a `Grabber` holds it: the grabbed handle is live and held by the new
object, and `ungrab` gives libevdev a null pointer. -/
theorem moved_device_not_ungrabbed :
    ∃ t, Run (Tracked.Step Script.platform) (Tracked.init { opens := [3], handles := [0] })
        [.device (.constructPath 0 "/dev/input/event0" 0), .grabber (.constructFrom 0 0),
          .device (.moveConstruct 1 0)] t ∧
      t.world.grabbers 0 = some { dev := some 0 } ∧ t.grabbedOn 0 = some 0 ∧
        t.world.rawAt 1 = some 0 ∧ Grabber.ungrab Script.platform 0 t.world = .undefined ∧
          ¬ UndoesGrab Script.platform Script.views t 0 := by
  have hstart : Run (Tracked.Step Script.platform) (Tracked.init { opens := [3], handles := [0] })
      [] (Tracked.init { opens := [3], handles := [0] }) := Run.nil
  have hdevice := hstart.snoc (a := Act.device (.constructPath 0 "/dev/input/event0" 0))
    (Tracked.Step.intro rfl)
  have hgrab := hdevice.snoc (a := Act.grabber (.constructFrom 0 0)) (Tracked.Step.intro rfl)
  have hrun := hgrab.snoc (a := Act.device (.moveConstruct 1 0)) (Tracked.Step.intro rfl)
  refine ⟨_, hrun, rfl, rfl, rfl, rfl, ?_⟩
  rintro ⟨w', hafter, _⟩
  cases hafter

end Evdevxx
