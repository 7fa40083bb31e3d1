import Evdevxx.Ownership.Uinputs

/-!
# Exceptions — what happens when `libevdev_grab` fails under a `Grabber`

The members of `Grabber` that may throw do so before they change anything.  The destructor calls
`ungrab` and is implicitly `noexcept`, so a failing `LIBEVDEV_UNGRAB` terminates the program.
-/

namespace Evdevxx

variable {σ : Type} {P : Platform σ} {V : Views σ}

/-- Whether the device at `d` is grabbed, if it is a valid device. -/
def grabState (V : Views σ) (w : World σ) (d : DeviceId) : Option Bool :=
  (w.devices d).bind fun D => D.raw.bind fun h => (V.evdevs w.env h).map (·.grabbed)

/-- The action does not terminate the program, and if it throws, every `Grabber` holds what it held
before and every device is grabbed as before. -/
structure GrabberSafe (P : Platform σ) (V : Views σ) (w : World σ) (a : GrabberAct) : Prop where
  terminates : a.exec P w ≠ .terminated
  threw : ∀ e w', a.exec P w = .threw e w' →
    w'.grabbers = w.grabbers ∧ ∀ d, grabState V w' d = grabState V w d

/-- If the action destroys a `Grabber` that holds a device, `LIBEVDEV_UNGRAB` succeeds on it. -/
def UngrabsDestroyed (P : Platform σ) (w : World σ) : GrabberAct → Prop
  | .destruct g => ∀ G d D h, w.grabbers g = some G → G.dev = some d → w.devices d = some D →
      D.raw = some h → 0 ≤ (P.libevdevGrab h .ungrab w.env).1
  | _ => True

def Act.grabberSafe (P : Platform σ) (V : Views σ) (w : World σ) : Act → Prop
  | .grabber a => GrabberSafe P V w a
  | _ => True

def Act.ungrabsDestroyed (P : Platform σ) (w : World σ) : Act → Prop
  | .grabber a => UngrabsDestroyed P w a
  | _ => True

namespace GrabberSafe

variable {w w' : World σ} {g : GrabberId} {d : DeviceId} {D : Device} {h : Handle} {s₀ : σ}

/-- A failed `libevdev_grab` changes no grab flag. -/
theorem grabState_of_failed (hdoc : P.Documented V) (hw : HandlesFollowed V s₀ w)
    (hD : w.devices d = some D) (hraw : D.raw = some h) {mode : GrabMode}
    (hneg : (P.libevdevGrab h mode w.env).1 < 0) (d' : DeviceId) :
    grabState V (w.grabCalled P h mode) d' = grabState V w d' := by
  rcases hw.live hD _ hraw with ⟨v, hv⟩
  have hev : V.evdevs (P.libevdevGrab h mode w.env).2 = V.evdevs w.env :=
    (hdoc.libevdevGrab h mode w.env v hv).1 hneg
  simp [grabState, World.grabCalled, hev]

/-- An `ungrab` that throws has changed nothing. -/
theorem ungrab_threw (hdoc : P.Documented V) (hw : HandlesFollowed V s₀ w) {e : Exn}
    (hungrab : Grabber.Ungrabbed P w g (.threw e w')) :
    w'.grabbers = w.grabbers ∧ ∀ d, grabState V w' d = grabState V w d := by
  cases hungrab with
  | failed _ hD hraw hneg => exact ⟨rfl, grabState_of_failed hdoc hw hD hraw hneg⟩

/-- Whatever throws does so right after a failed `libevdev_grab`. -/
theorem of_not_terminated (hdoc : P.Documented V) (hw : HandlesFollowed V s₀ w) {a : GrabberAct}
    (hterm : a.exec P w ≠ .terminated) : GrabberSafe P V w a where
  terminates := hterm
  threw := by
    intro e w' hthrew
    have hend := Grabber.ended P w a
    rw [hthrew] at hend
    cases hend with
    | refused _ hD hraw hneg => exact ⟨rfl, grabState_of_failed hdoc hw hD hraw hneg⟩
    | notAssigned _ hungrab => exact ungrab_threw hdoc hw hungrab
    | ungrabbed hungrab => exact ungrab_threw hdoc hw hungrab

/-- Only the destructor can terminate the program, and it does where it cannot ungrab. -/
theorem not_terminated_iff (P : Platform σ) (w : World σ) (a : GrabberAct) :
    a.exec P w ≠ .terminated ↔ UngrabsDestroyed P w a := by
  constructor
  · intro hterm
    cases a with
    | destruct g =>
        intro G d D h hG hdev hD hraw
        by_contra hneg
        have hend : GrabberAct.exec P (.destruct g) w = _ :=
          Grabber.destruct_apply hG hdev hD hraw
        have hlt : (P.libevdevGrab h .ungrab w.env).1 < 0 := Int.not_le.1 hneg
        simp only [hlt, if_true] at hend
        -- The exception reaches the `noexcept` boundary of the destructor.
        exact hterm hend
    | _ => trivial
  · intro hcond hterm
    have hend := Grabber.ended P w a
    rw [hterm] at hend
    cases hend with
    | ungrabbed hungrab => cases hungrab
    | terminated hungrab =>
        cases hungrab with
        | failed hX hD hraw hneg =>
            exact absurd hneg (Int.not_lt.2 (hcond _ _ _ _ hX rfl hD hraw))

/-- In a world whose handles are live, an action is safe exactly when it destroys no `Grabber` that
fails to ungrab. -/
theorem iff_ungrabsDestroyed (hdoc : P.Documented V) (hw : HandlesFollowed V s₀ w)
    (a : GrabberAct) : GrabberSafe P V w a ↔ UngrabsDestroyed P w a := by
  constructor
  · intro hsafe
    exact (not_terminated_iff P w a).1 hsafe.terminates
  · intro hcond
    exact of_not_terminated hdoc hw ((not_terminated_iff P w a).2 hcond)

end GrabberSafe

/-- Along every run, the members of `Grabber` are safe exactly when `LIBEVDEV_UNGRAB` succeeds for
every destroyed `Grabber` that holds a device. -/
theorem grabber_safe_iff (hdoc : P.Documented V) (s₀ : σ) (acts : List Act) :
    Always (step P) (Act.grabberSafe P V) (World.init s₀) acts ↔
      Always (step P) (Act.ungrabsDestroyed P) (World.init s₀) acts := by
  -- Reachable worlds have live handles, which is what each step needs.
  refine Always.congr (fun bs w a hrun => ?_) acts [] (World.init s₀) Run.nil
  have hw : HandlesFollowed V s₀ w := HandlesFollowed.run hdoc hrun
  cases a with
  | device a => exact Iff.rfl
  | uinput a => exact Iff.rfl
  | grabber a => exact GrabberSafe.iff_ungrabsDestroyed hdoc hw a

/-- A device is grabbed, and the `Grabber` destroyed. -/
theorem grabber_safe_iff_destroyed :
    Always (step Script.platform) (Act.grabberSafe Script.platform Script.views)
        (World.init { opens := [3], handles := [0] })
        [.device (.constructPath 0 "/dev/input/event0" 0), .grabber (.constructFrom 0 0),
          .grabber (.destruct 0)] ↔
      Always (step Script.platform) (Act.ungrabsDestroyed Script.platform)
        (World.init { opens := [3], handles := [0] })
        [.device (.constructPath 0 "/dev/input/event0" 0), .grabber (.constructFrom 0 0),
          .grabber (.destruct 0)] :=
  grabber_safe_iff Script.documented _ _

/-- The device is gone when the `Grabber` is destroyed (`LIBEVDEV_UNGRAB` fails with `ENODEV`). -/
theorem grabber_destructor_terminates :
    ¬ Always (step Script.platform) (Act.grabberSafe Script.platform Script.views)
        (World.init { opens := [3], handles := [0], grabs := [0, -19] })
        [.device (.constructPath 0 "/dev/input/event0" 0), .grabber (.constructFrom 0 0),
          .grabber (.destruct 0)] := by
  intro hsafe
  have hdestruct := ((hsafe.2 _ rfl).2 _ rfl).1
  exact hdestruct.terminates rfl

end Evdevxx
