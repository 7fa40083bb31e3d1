import Evdevxx.Model.System
import Evdevxx.Grabber.Evaluation

/-!
# Steps — what one action on a `Grabber` can do

`Grabber.Ended` says how each action can end, with the world it leaves.

`GrabberInvariant` lists the elementary changes (an empty object is born or dies, an object hands
its device to an empty one, a device is grabbed or ungrabbed, `libevdev_grab` fails), and
`GrabberInvariant.step` derives that every action keeps what survives them.
-/

namespace Evdevxx

variable {σ : Type} {P : Platform σ}

/-- The world after `libevdev_grab`. -/
def World.grabCalled (w : World σ) (P : Platform σ) (h : Handle) (mode : GrabMode) : World σ :=
  w.called (.libevdevGrab h mode (P.libevdevGrab h mode w.env).1) (P.libevdevGrab h mode w.env).2

/-! ## The ways each member function can end -/

namespace Grabber

/-- How `ungrab` can end: it does nothing, or lets its device go, or `libevdev_grab` fails, or the
device is not a valid one. -/
inductive Ungrabbed (P : Platform σ) (w : World σ) (g : GrabberId) :
    Outcome Exn (World σ) Unit → Prop where
  | empty : w.grabbers g = some {} → Ungrabbed P w g (.returned () w)
  | letGo {d : DeviceId} {D : Device} {h : Handle} : w.grabbers g = some { dev := some d } →
      w.devices d = some D → D.raw = some h → 0 ≤ (P.libevdevGrab h .ungrab w.env).1 →
      Ungrabbed P w g (.returned () ((w.grabCalled P h .ungrab).setGrabber g (some {})))
  | failed {d : DeviceId} {D : Device} {h : Handle} {e : Exn} :
      w.grabbers g = some { dev := some d } → w.devices d = some D → D.raw = some h →
      (P.libevdevGrab h .ungrab w.env).1 < 0 →
      Ungrabbed P w g (.threw e (w.grabCalled P h .ungrab))
  | undefined : Ungrabbed P w g .undefined

/-- How each action can end. -/
inductive Ended (P : Platform σ) (w : World σ) :
    GrabberAct → Outcome Exn (World σ) Unit → Prop where
  | born {g : GrabberId} : w.grabbers g = none →
      Ended P w (.constructEmpty g) (.returned () (w.setGrabber g (some {})))
  | held {g : GrabberId} {d : DeviceId} {D : Device} {h : Handle} : w.grabbers g = none →
      w.devices d = some D → D.raw = some h → 0 ≤ (P.libevdevGrab h .grab w.env).1 →
      Ended P w (.constructFrom g d)
        (.returned () ((w.grabCalled P h .grab).setGrabber g (some { dev := some d })))
  | refused {g : GrabberId} {d : DeviceId} {D : Device} {h : Handle} {e : Exn} :
      w.grabbers g = none → w.devices d = some D → D.raw = some h → (P.libevdevGrab h .grab w.env).1 < 0 →
      Ended P w (.constructFrom g d) (.threw e (w.grabCalled P h .grab))
  /-- An object that is initialised from itself. -/
  | bornFromSelf {g : GrabberId} : w.grabbers g = none →
      Ended P w (.moveConstruct g g) (.returned () (w.setGrabber g (some {})))
  | moved {g s : GrabberId} {E : Grabber} : w.grabbers g = none → w.grabbers s = some E →
      Ended P w (.moveConstruct g s)
        (.returned () ((w.setGrabber s (some {})).setGrabber g (some E)))
  | kept {g : GrabberId} : Ended P w (.moveAssign g g) (.returned () w)
  | assigned {g s : GrabberId} {E : Grabber} {w₁ : World σ} : g ≠ s →
      Ungrabbed P w g (.returned () w₁) → w.grabbers s = some E →
      Ended P w (.moveAssign g s)
        (.returned () ((w₁.setGrabber s (some {})).setGrabber g (some E)))
  | notAssigned {g s : GrabberId} {e : Exn} {w₁ : World σ} : g ≠ s →
      Ungrabbed P w g (.threw e w₁) → Ended P w (.moveAssign g s) (.threw e w₁)
  | ungrabbed {g : GrabberId} {r : Outcome Exn (World σ) Unit} : Ungrabbed P w g r →
      Ended P w (.ungrab g) r
  | died {g : GrabberId} {w₁ : World σ} : Ungrabbed P w g (.returned () w₁) →
      Ended P w (.destruct g) (.returned () (w₁.setGrabber g none))
  | terminated {g : GrabberId} {e : Exn} {w₁ : World σ} : Ungrabbed P w g (.threw e w₁) →
      Ended P w (.destruct g) .terminated
  | undefined {a : GrabberAct} : Ended P w a .undefined

section Ends

variable {w w₁ : World σ} {g s : GrabberId} {d : DeviceId} {e : Exn}

theorem ungrabbed (P : Platform σ) (w : World σ) (g : GrabberId) :
    Ungrabbed P w g (ungrab P g w) := by
  cases hX : w.grabbers g with
  | none =>
      rw [ungrab_apply_none hX]
      exact .undefined
  | some X =>
      rcases ungrab_cases P hX with hdev | ⟨d, D, h, hdev, hD, hraw⟩ | hundef
      · rcases X with ⟨_⟩
        cases hdev
        rw [ungrab_apply_empty hX rfl]
        exact .empty hX
      · rcases X with ⟨_⟩
        cases hdev
        have happly := ungrab_apply (P := P) hX rfl hD hraw
        by_cases hneg : (P.libevdevGrab h .ungrab w.env).1 < 0
        · simp only [hneg, if_true] at happly
          rw [happly]
          exact .failed hX hD hraw hneg
        · simp only [hneg, if_false] at happly
          rw [happly]
          exact .letGo hX hD hraw (Int.not_lt.1 hneg)
      · rw [hundef]
        exact .undefined

theorem Ungrabbed.frame_returned (h : Ungrabbed P w g (.returned () w₁)) :
    w₁.devices = w.devices ∧ w₁.grabbers = Function.update w.grabbers g (some {}) := by
  cases h with
  | empty hX => exact ⟨rfl, by rw [← hX, Function.update_eq_self]⟩
  | letGo => exact ⟨rfl, rfl⟩

theorem Ungrabbed.frame_threw (h : Ungrabbed P w g (.threw e w₁)) :
    w₁.devices = w.devices ∧ w₁.grabbers = w.grabbers := by
  cases h with
  | failed => exact ⟨rfl, rfl⟩

theorem ended_constructFrom (P : Platform σ) (w : World σ) (g : GrabberId) (d : DeviceId) :
    Ended P w (.constructFrom g d) (constructFrom P g d w) := by
  cases hX : w.grabbers g with
  | some X =>
      rw [constructFrom, construct_apply_occupied hX]
      exact .undefined
  | none =>
      rcases constructFrom_cases P hX d with ⟨D, h, hD, hraw⟩ | hundef
      · have happly := constructFrom_apply (P := P) hX hD hraw
        by_cases hneg : (P.libevdevGrab h .grab w.env).1 < 0
        · simp only [hneg, if_true] at happly
          -- The object is gone again.
          have hgone : (w.grabCalled P h .grab).setGrabber g none = w.grabCalled P h .grab :=
            World.setGrabber_of_none hX
          rw [happly]
          exact hgone.symm ▸ Ended.refused hX hD hraw hneg
        · simp only [hneg, if_false] at happly
          rw [happly]
          exact .held hX hD hraw (Int.not_lt.1 hneg)
      · rw [hundef]
        exact .undefined

theorem ended_moveConstruct (P : Platform σ) (w : World σ) (g s : GrabberId) :
    Ended P w (.moveConstruct g s) (moveConstruct g s w) := by
  cases hX : w.grabbers g with
  | some X =>
      rw [moveConstruct, construct_apply_occupied hX]
      exact .undefined
  | none =>
      by_cases hsg : s = g
      · subst hsg
        rw [moveConstruct_apply_self hX]
        exact .bornFromSelf hX
      · cases hE : w.grabbers s with
        | none =>
            rw [moveConstruct_apply_none hsg hE]
            exact .undefined
        | some E =>
            rw [moveConstruct_apply hX hE]
            exact .moved hX hE

theorem ended_moveAssign (P : Platform σ) (w : World σ) (g s : GrabberId) :
    Ended P w (.moveAssign g s) (moveAssign P g s w) := by
  cases hX : w.grabbers g with
  | none =>
      rw [moveAssign_apply_none hX]
      exact .undefined
  | some X =>
      by_cases hgs : g = s
      · subst hgs
        rw [moveAssign_apply_self hX]
        exact .kept
      · have happly : moveAssign P g s w = (ungrab P g w).andThen fun _ => (do
            let G ← load s
            store g { dev := G.dev }
            store s { dev := none }) := by
          simp [moveAssign, hX, hgs]
        -- `ungrab` comes first; only if it returns does the source give its device.
        have hungrab := ungrabbed P w g
        cases hend : ungrab P g w with
        | returned _ w₁ =>
            rw [hend] at hungrab
            have hsource : w₁.grabbers s = w.grabbers s := by
              rw [hungrab.frame_returned.2, Function.update_of_ne (Ne.symm hgs)]
            rw [hend, Outcome.returned_andThen] at happly
            cases hE : w.grabbers s with
            | none =>
                rw [happly, Prog.bind_apply, load_apply_none (hsource.trans hE)]
                exact .undefined
            | some E =>
                have hgive : moveAssign P g s w =
                    .returned () ((w₁.setGrabber s (some {})).setGrabber g (some E)) := by
                  rw [happly, Prog.bind_apply, load_apply (hsource.trans hE),
                    World.setGrabber_comm _ _ (Ne.symm hgs)]
                  rfl
                rw [hgive]
                exact .assigned hgs hungrab hE
        | threw e w₁ =>
            rw [hend] at hungrab
            rw [happly, hend]
            exact .notAssigned hgs hungrab
        | terminated =>
            rw [hend] at hungrab
            cases hungrab
        | undefined =>
            rw [happly, hend]
            exact .undefined
        | exhausted =>
            rw [hend] at hungrab
            cases hungrab

theorem ended_destruct (P : Platform σ) (w : World σ) (g : GrabberId) :
    Ended P w (.destruct g) (destruct P g w) := by
  have hungrab := ungrabbed P w g
  cases hend : ungrab P g w with
  | returned _ w₁ =>
      rw [hend] at hungrab
      have happly : destruct P g w = .returned () (w₁.setGrabber g none) := by
        apply Prog.noexcept_of_returned
        simp [hend]
      rw [happly]
      exact .died hungrab
  | threw e w₁ =>
      rw [hend] at hungrab
      -- The exception reaches the `noexcept` boundary of the destructor.
      have happly : destruct P g w = .terminated := by
        simp [destruct, Prog.noexcept, hend]
      rw [happly]
      exact .terminated hungrab
  | undefined =>
      have happly : destruct P g w = .undefined := by
        simp [destruct, Prog.noexcept, hend]
      rw [happly]
      exact .undefined
  | terminated =>
      rw [hend] at hungrab
      cases hungrab
  | exhausted =>
      rw [hend] at hungrab
      cases hungrab

theorem ended (P : Platform σ) (w : World σ) (a : GrabberAct) : Ended P w a (a.exec P w) := by
  cases a with
  | constructEmpty g =>
      rw [GrabberAct.exec]
      cases hX : w.grabbers g with
      | some X =>
          rw [constructEmpty, construct_apply_occupied hX]
          exact .undefined
      | none =>
          rw [constructEmpty_apply hX]
          exact .born hX
  | constructFrom g d => exact ended_constructFrom P w g d
  | moveConstruct g s => exact ended_moveConstruct P w g s
  | moveAssign g s => exact ended_moveAssign P w g s
  | ungrab g => exact .ungrabbed (ungrabbed P w g)
  | destruct g => exact ended_destruct P w g

end Ends

end Grabber

/-! ## Invariants of the actions on grabbers -/

/-- What an invariant `I` has to survive, for the actions that meet `G`. -/
structure GrabberInvariant (P : Platform σ) (G : World σ → GrabberAct → Prop)
    (I : World σ → Prop) : Prop where
  birth : ∀ {w g}, I w → w.grabbers g = none → I (w.setGrabber g (some {}))
  death : ∀ {w g}, I w → w.grabbers g = some {} → I (w.setGrabber g none)
  give : ∀ {w g s E}, I w → g ≠ s → w.grabbers g = some {} → w.grabbers s = some E →
    I ((w.setGrabber s (some {})).setGrabber g (some E))
  hold : ∀ {w g d D h}, I w → w.grabbers g = none → w.devices d = some D → D.raw = some h →
    0 ≤ (P.libevdevGrab h .grab w.env).1 → G w (.constructFrom g d) →
    I ((w.grabCalled P h .grab).setGrabber g (some { dev := some d }))
  letGo : ∀ {w g d D h}, I w → w.grabbers g = some { dev := some d } → w.devices d = some D →
    D.raw = some h → 0 ≤ (P.libevdevGrab h .ungrab w.env).1 → G w (.ungrab g) →
    I ((w.grabCalled P h .ungrab).setGrabber g (some {}))
  failed : ∀ {w d D h mode}, I w → w.devices d = some D → D.raw = some h →
    (P.libevdevGrab h mode w.env).1 < 0 → I (w.grabCalled P h mode)
  /-- The move assignment and the destructor meet the condition when `ungrab` does. -/
  moveAssign : ∀ {w g s}, g ≠ s → G w (.moveAssign g s) → G w (.ungrab g)
  destruct : ∀ {w g}, G w (.destruct g) → G w (.ungrab g)

namespace GrabberInvariant

variable {G : World σ → GrabberAct → Prop} {I : World σ → Prop} {w w' : World σ}

/-- Whether `ungrab` returns or throws, the invariant holds. -/
theorem ungrab (inv : GrabberInvariant P G I) (hI : I w) {g : GrabberId} (hG : G w (.ungrab g))
    {r : Outcome Exn (World σ) Unit} (hend : Grabber.Ungrabbed P w g r)
    (hafter : r.after = some w') : I w' := by
  cases hend with
  | empty _ =>
      cases hafter
      exact hI
  | letGo hX hD hraw hok =>
      cases hafter
      exact inv.letGo hI hX hD hraw hok hG
  | failed _ hD hraw hneg =>
      cases hafter
      exact inv.failed hI hD hraw hneg
  | undefined => cases hafter

/-- Every action that meets the condition keeps the invariant. -/
theorem step (inv : GrabberInvariant P G I) {a : GrabberAct} (hI : I w) (hG : G w a)
    (hstep : (a.exec P w).after = some w') : I w' := by
  have hend := Grabber.ended P w a
  generalize a.exec P w = r at hend hstep
  cases hend with
  | born hfree =>
      cases hstep
      exact inv.birth hI hfree
  | held hfree hD hraw hok =>
      cases hstep
      exact inv.hold hI hfree hD hraw hok hG
  | refused _ hD hraw hneg =>
      cases hstep
      exact inv.failed hI hD hraw hneg
  | bornFromSelf hfree =>
      cases hstep
      exact inv.birth hI hfree
  | @moved g s E hfree hE =>
      cases hstep
      have hgs : g ≠ s := (ne_of_lives_of_free hE hfree).symm
      -- The new object is born, and then takes the device.
      have hgive := inv.give (inv.birth hI hfree) hgs (s := s) (E := E) (by simp)
        (by simpa [Ne.symm hgs] using hE)
      rw [World.setGrabber_comm _ _ hgs, World.setGrabber_setGrabber] at hgive
      exact hgive
  | kept =>
      cases hstep
      exact hI
  | assigned hgs hungrab hE =>
      cases hstep
      have hgrab := hungrab.frame_returned.2
      refine inv.give (inv.ungrab hI (inv.moveAssign hgs hG) hungrab rfl) hgs ?_ ?_
      · rw [hgrab, Function.update_self]
      · rw [hgrab, Function.update_of_ne (Ne.symm hgs)]
        exact hE
  | notAssigned hgs hungrab =>
      cases hstep
      exact inv.ungrab hI (inv.moveAssign hgs hG) hungrab rfl
  | ungrabbed hungrab => exact inv.ungrab hI hG hungrab hstep
  | died hungrab =>
      cases hstep
      refine inv.death (inv.ungrab hI (inv.destruct hG) hungrab rfl) ?_
      rw [hungrab.frame_returned.2, Function.update_self]
  | terminated _ => cases hstep
  | undefined => cases hstep

end GrabberInvariant

end Evdevxx
