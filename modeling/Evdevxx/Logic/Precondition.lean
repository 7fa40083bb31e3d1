import Evdevxx.Logic.Outcome

/-!
# Precondition — weakest preconditions of C++ calls

`p.wp ret exc w` says that `p`, started in `w`, does not reach `std::terminate`, that `ret` holds of
the value and the state if it returns, and `exc` of the exception and the state if it throws.
Nothing is said about a call whose behaviour is undefined, or whose budget is used up.

The rules are the usual ones; the one for a `noexcept` function is `wp_noexcept`: no exception may
reach its boundary.
-/

namespace Evdevxx

universe u

namespace Prog

variable {ε ε' ω χ α β : Type u}

/-- The weakest precondition for the postconditions `ret` and `exc`. -/
def wp (p : Prog ε ω α) (ret : α → ω → Prop) (exc : ε → ω → Prop) (w : ω) : Prop :=
  match p w with
  | .returned a w' => ret a w'
  | .threw e w' => exc e w'
  | .terminated => False
  | .undefined => True
  | .exhausted => True

section Rules

variable {p : Prog ε ω α} {ret ret' : α → ω → Prop} {exc exc' : ε → ω → Prop} {w : ω}

/-- Seen from outside: the call does not terminate the program, and `R` holds of the state that it
leaves. -/
theorem wp_iff_after (R : ω → Prop) :
    p.wp (fun _ => R) (fun _ => R) w ↔
      p w ≠ .terminated ∧ ∀ w', (p w).after = some w' → R w' := by
  unfold wp
  cases p w with
  | returned a w' => simp
  | threw e w' => simp
  | terminated => simp
  | undefined => simp
  | exhausted => simp

theorem wp_mono (hret : ∀ a w', ret a w' → ret' a w') (hexc : ∀ e w', exc e w' → exc' e w')
    (h : p.wp ret exc w) : p.wp ret' exc' w := by
  unfold wp at h ⊢
  cases hp : p w with
  | returned a w' =>
      rw [hp] at h
      exact hret a w' h
  | threw e w' =>
      rw [hp] at h
      exact hexc e w' h
  | terminated =>
      rw [hp] at h
      exact h
  | undefined => trivial
  | exhausted => trivial

@[simp] theorem wp_pure (a : α) : (pure a : Prog ε ω α).wp ret exc w ↔ ret a w := Iff.rfl

@[simp] theorem wp_gets (f : ω → α) : (gets f : Prog ε ω α).wp ret exc w ↔ ret (f w) w := Iff.rfl

@[simp] theorem wp_bind {f : α → Prog ε ω β} {ret : β → ω → Prop} :
    (p >>= f).wp ret exc w ↔ p.wp (fun a w' => (f a).wp ret exc w') exc w := by
  simp only [wp, bind_apply]
  cases p w with
  | returned a w' => exact Iff.rfl
  | threw e w' => exact Iff.rfl
  | terminated => exact Iff.rfl
  | undefined => exact Iff.rfl
  | exhausted => exact Iff.rfl

/-- No exception may reach the boundary of a `noexcept` function. -/
@[simp] theorem wp_noexcept :
    (noexcept p).wp ret exc w ↔ p.wp ret (fun _ _ => False) w := by
  simp only [wp, noexcept]
  cases p w with
  | returned a w' => exact Iff.rfl
  | threw e w' => exact Iff.rfl
  | terminated => exact Iff.rfl
  | undefined => exact Iff.rfl
  | exhausted => exact Iff.rfl

@[simp] theorem wp_ofExcept (x : Except ε α) :
    (ofExcept x).wp ret exc w ↔
      (∀ a, x = .ok a → ret a w) ∧ ∀ e, x = .error e → exc e w := by
  cases x with
  | ok a => simp [wp]
  | error e => simp [wp]

@[simp] theorem wp_withLocal {x : χ} {p : Prog ε (ω × χ) α} {ret : α × χ → ω → Prop} :
    (withLocal x p).wp ret exc w ↔
      p.wp (fun a s => ret (a, s.2) s.1) (fun e s => exc e s.1) (w, x) := by
  simp only [wp, withLocal]
  cases p (w, x) with
  | returned a s => exact Iff.rfl
  | threw e s => exact Iff.rfl
  | terminated => exact Iff.rfl
  | undefined => exact Iff.rfl
  | exhausted => exact Iff.rfl

@[simp] theorem wp_onSnd {f : ε' → ε} {p : Prog ε' χ α} {ret : α → ω × χ → Prop}
    {exc : ε → ω × χ → Prop} {s : ω × χ} :
    (onSnd f p).wp ret exc s ↔
      p.wp (fun a x => ret a (s.1, x)) (fun e x => exc (f e) (s.1, x)) s.2 := by
  simp only [wp, onSnd]
  cases p s.2 with
  | returned a x => exact Iff.rfl
  | threw e x => exact Iff.rfl
  | terminated => exact Iff.rfl
  | undefined => exact Iff.rfl
  | exhausted => exact Iff.rfl

end Rules

end Prog

end Evdevxx
