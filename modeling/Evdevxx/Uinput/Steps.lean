import Evdevxx.Model.System
import Evdevxx.Uinput.Evaluation

/-!
# Steps — what one action on a `Uinput` can do

As for `Device`: `Uinput.Ended` says where each action can end, `UinputInvariant` lists what an
invariant has to survive, and `UinputInvariant.step` derives that every action keeps it.
-/

namespace Evdevxx

variable {σ : Type} {P : Platform σ}

namespace Uinput

variable {w w' : World σ} {this : UinputId} {U : Uinput}

/-- `create` fails, or the old handle is destroyed and the new one acquired. -/
theorem after_create {dev : DeviceId} {fd : Fd} (hU : w.uinputs this = some U)
    (hafter : (create P this dev fd w).after = some w') :
    ∃ D h, w.devices dev = some D ∧ D.raw = some h ∧
      let r := P.libevdevUinputCreateFromDevice h fd w.env
      let w₁ := w.called (.libevdevUinputCreateFromDevice h fd r.1.1 r.1.2) r.2
      (r.1.1 < 0 ∧ w' = w₁) ∨
        (0 ≤ r.1.1 ∧ w' = (w₁.udestroyed P U.raw).setUinput this (some { raw := r.1.2 })) := by
  cases hD : w.devices dev with
  | none => simp [create_apply_dangling hU hD] at hafter
  | some D =>
      cases hraw : D.raw with
      | none => simp [create_apply_invalid hU hD hraw] at hafter
      | some h =>
          refine ⟨D, h, rfl, hraw, ?_⟩
          rw [create_apply hU hD hraw] at hafter
          by_cases hneg : (P.libevdevUinputCreateFromDevice h fd w.env).1.1 < 0
          · simp only [hneg, if_true, Outcome.after_threw, Option.some.injEq] at hafter
            exact Or.inl ⟨hneg, hafter.symm⟩
          · simp only [hneg, if_false, Outcome.after_returned, Option.some.injEq] at hafter
            exact Or.inr ⟨by omega, hafter.symm⟩

/-- When `create` throws, the object is as it was. -/
theorem born_of_create_threw {dev : DeviceId} {fd : Fd} {e : Exn}
    (h : create P this dev fd (w.setUinput this (some {})) = .threw e w') :
    w'.uinputs this = some {} := by
  have hU := World.setUinput_uinputs_self w this (some {})
  have hafter : (create P this dev fd (w.setUinput this (some {}))).after = some w' := by simp [h]
  rcases after_create hU hafter with ⟨D, p, hD, hraw, ⟨_, rfl⟩ | ⟨hok, _⟩⟩
  · simp
  · rw [create_apply hU hD hraw] at h
    have hneg : ¬ (P.libevdevUinputCreateFromDevice p fd w.env).1.1 < 0 := by
      simpa using hok
    simp [hneg] at h

/-- The worlds in which each action can end. -/
inductive Ended (P : Platform σ) (w : World σ) : UinputAct → World σ → Prop where
  | born {u : UinputId} : w.uinputs u = none →
      Ended P w (.constructInvalid u) (w.setUinput u (some {}))
  | constructed {u : UinputId} {dev : DeviceId} {fd : Fd} {w₁ : World σ} : w.uinputs u = none →
      create P u dev fd (w.setUinput u (some {})) = .returned () w₁ →
      Ended P w (.constructFrom u dev fd) w₁
  | notConstructed {u : UinputId} {dev : DeviceId} {fd : Fd} {e : Exn} {w₁ : World σ} :
      w.uinputs u = none → create P u dev fd (w.setUinput u (some {})) = .threw e w₁ →
      Ended P w (.constructFrom u dev fd) (w₁.setUinput u none)
  /-- An object that is initialised from itself. -/
  | bornFromSelf {u : UinputId} : w.uinputs u = none →
      Ended P w (.moveConstruct u u) (w.setUinput u (some {}))
  | moved {u s : UinputId} {E : Uinput} : w.uinputs u = none → w.uinputs s = some E →
      Ended P w (.moveConstruct u s) ((w.setUinput s (some {})).setUinput u (some E))
  | kept {u : UinputId} : Ended P w (.moveAssign u u) w
  | assigned {u s : UinputId} {U E : Uinput} : w.uinputs u = some U → u ≠ s →
      w.uinputs s = some E →
      Ended P w (.moveAssign u s)
        (((w.udestroyed P U.raw).setUinput s (some {})).setUinput u (some E))
  | created {u : UinputId} {U : Uinput} {dev : DeviceId} {fd : Fd} {w₁ : World σ} :
      w.uinputs u = some U → (create P u dev fd w).after = some w₁ →
      Ended P w (.create u dev fd) w₁
  | emptied {u : UinputId} {U : Uinput} : w.uinputs u = some U →
      Ended P w (.destroy u) ((w.udestroyed P U.raw).setUinput u (some {}))
  | died {u : UinputId} {U : Uinput} : w.uinputs u = some U →
      Ended P w (.destruct u) ((w.udestroyed P U.raw).setUinput u none)

theorem ended_of_step {a : UinputAct} (hstep : (a.exec P w).after = some w') :
    Ended P w a w' := by
  cases a with
  | constructInvalid u =>
      rcases after_construct hstep with ⟨hfree, hret | ⟨e, w₁, hthrew, _⟩⟩
      · cases hret
        exact .born hfree
      · cases hthrew
  | constructFrom u dev fd =>
      rcases after_construct hstep with ⟨hfree, hret | ⟨e, w₁, hthrew, rfl⟩⟩
      · exact .constructed hfree hret
      · exact .notConstructed hfree hthrew
  | moveConstruct u s =>
      cases hU : w.uinputs u with
      | some U => simp [UinputAct.exec, moveConstruct, construct_apply_occupied hU] at hstep
      | none =>
          by_cases hsu : s = u
          · subst hsu
            simp only [UinputAct.exec, moveConstruct_apply_self hU, Outcome.after_returned,
              Option.some.injEq] at hstep
            exact hstep ▸ Ended.bornFromSelf hU
          · cases hE : w.uinputs s with
            | none => simp [UinputAct.exec, moveConstruct_apply_none hsu hE] at hstep
            | some E =>
                simp only [UinputAct.exec, moveConstruct_apply hU hE, Outcome.after_returned,
                  Option.some.injEq] at hstep
                exact hstep ▸ Ended.moved hU hE
  | moveAssign u s =>
      cases hU : w.uinputs u with
      | none => simp [UinputAct.exec, moveAssign_apply_none hU] at hstep
      | some U =>
          by_cases hus : u = s
          · subst hus
            simp only [UinputAct.exec, moveAssign_apply_self hU, Outcome.after_returned,
              Option.some.injEq] at hstep
            exact hstep ▸ Ended.kept
          · cases hE : w.uinputs s with
            | none => simp [UinputAct.exec, moveAssign_apply_from_none hU hE] at hstep
            | some E =>
                simp only [UinputAct.exec, moveAssign_apply hU hus hE, Outcome.after_returned,
                  Option.some.injEq] at hstep
                exact hstep ▸ Ended.assigned hU hus hE
  | create u dev fd =>
      cases hU : w.uinputs u with
      | none => simp [UinputAct.exec, create_apply_none hU] at hstep
      | some U => exact .created hU hstep
  | destroy u =>
      cases hU : w.uinputs u with
      | none => simp [UinputAct.exec, destroy_apply_none hU] at hstep
      | some U =>
          simp only [UinputAct.exec, destroy_apply hU, Outcome.after_returned,
            Option.some.injEq] at hstep
          exact hstep ▸ Ended.emptied hU
  | destruct u =>
      cases hU : w.uinputs u with
      | none => simp [UinputAct.exec, destruct_apply_none hU] at hstep
      | some U =>
          simp only [UinputAct.exec, destruct_apply hU, Outcome.after_returned,
            Option.some.injEq] at hstep
          exact hstep ▸ Ended.died hU

end Uinput

/-- What an invariant `I` has to survive. -/
structure UinputInvariant (P : Platform σ) (I : World σ → Prop) : Prop where
  birth : ∀ {w u}, I w → w.uinputs u = none → I (w.setUinput u (some {}))
  death : ∀ {w u}, I w → w.uinputs u = some {} → I (w.setUinput u none)
  dispose : ∀ {w u U}, I w → w.uinputs u = some U →
    I ((w.udestroyed P U.raw).setUinput u (some {}))
  give : ∀ {w u s E}, I w → u ≠ s → w.uinputs u = some {} → w.uinputs s = some E →
    I ((w.setUinput s (some {})).setUinput u (some E))
  create : ∀ {w u U dev fd w'}, I w → w.uinputs u = some U →
    (Uinput.create P u dev fd w).after = some w' → I w'

namespace UinputInvariant

variable {I : World σ → Prop}

/-- Every action keeps the invariant. -/
theorem step (inv : UinputInvariant P I) {w w' : World σ} {a : UinputAct} (hI : I w)
    (hstep : (a.exec P w).after = some w') : I w' := by
  cases Uinput.ended_of_step hstep with
  | born hfree => exact inv.birth hI hfree
  | constructed hfree hret =>
      exact inv.create (inv.birth hI hfree) (World.setUinput_uinputs_self _ _ _)
        (by rw [hret]; rfl)
  | @notConstructed u dev fd e w₁ hfree hthrew =>
      -- The object dies as empty as it was born.
      have hw₁ : I w₁ := inv.create (inv.birth hI hfree) (World.setUinput_uinputs_self _ _ _)
        (by rw [hthrew]; rfl)
      exact inv.death hw₁ (Uinput.born_of_create_threw hthrew)
  | bornFromSelf hfree => exact inv.birth hI hfree
  | @moved u s E hfree hE =>
      have hus : u ≠ s := (ne_of_lives_of_free hE hfree).symm
      have hgive := inv.give (inv.birth hI hfree) hus (s := s) (E := E) (by simp)
        (by simp [Ne.symm hus, hE])
      rw [World.setUinput_comm _ _ hus, World.setUinput_setUinput] at hgive
      exact hgive
  | kept => exact hI
  | @assigned u s U E hU hus hE =>
      -- `basic_wrapper` calls the virtual `destroy` before it takes the handle.
      have hgive := inv.give (inv.dispose hI hU) hus (E := E) (by simp)
        (by simp [Ne.symm hus, hE])
      rw [World.setUinput_comm _ _ hus, World.setUinput_setUinput] at hgive
      exact hgive
  | created hU hafter => exact inv.create hI hU hafter
  | emptied hU => exact inv.dispose hI hU
  | @died u U hU =>
      have hdeath := inv.death (inv.dispose hI hU) (u := u) (by simp)
      rw [World.setUinput_setUinput] at hdeath
      exact hdeath

end UinputInvariant

end Evdevxx
