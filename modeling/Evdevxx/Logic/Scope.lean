import Mathlib.Data.List.Basic
import Evdevxx.Logic.Precondition

/-!
# Scope — blocks with a local object, handlers, and loops over lists

* `Prog.Ends` — like `Prog.wp`, but the behaviour of the call is defined too: it returns or throws as
  stated, and it may be claimed that its budget suffices;
* `Prog.withObject` — a block with a local object, whose destructor runs however the block is left;
* `Prog.tryCatch` — a handler for every exception; `Prog.zoom` — a call on a part of the state;
* `Prog.forEach` — a loop over a list, with the rule for its invariants.
-/

namespace Evdevxx

universe u

namespace Prog

variable {ε ω χ α β : Type u}

/-! ## Statements -/

/-- `body`, and then `dtor`, also while an exception leaves `body`. -/
def andFinally (body : Prog ε ω α) (dtor : Prog ε ω PUnit) : Prog ε ω α := fun w =>
  match body w with
  | .returned a w => (dtor w).andThen fun _ => pure a
  -- A second exception on the way out would be `std::terminate`.
  | .threw e w => (noexcept dtor w).andThen fun _ => throw e
  | .terminated => .terminated
  | .undefined => .undefined
  | .exhausted => .exhausted

/-- `{ T x; body }`: the destructor runs behind the block, or while an exception leaves it. -/
def withObject (ctor dtor : Prog ε ω PUnit) (body : Prog ε ω α) : Prog ε ω α := do
  ctor
  andFinally body dtor

/-- `try { p } catch (..& e) { handler }` -/
def tryCatch (p : Prog ε ω α) (handler : ε → Prog ε ω α) : Prog ε ω α := fun w =>
  match p w with
  | .threw e w => handler e w
  | o => o

/-- Run on a part of the state. -/
def zoom (get : ω → χ) (set : ω → χ → ω) (p : Prog ε χ α) : Prog ε ω α := fun w =>
  (p (get w)).map id (set w)

/-- `for (x : xs) body(x);` -/
def forEach (body : β → Prog ε ω PUnit) : List β → Prog ε ω PUnit
  | [] => pure ⟨⟩
  | x :: xs => do
      body x
      forEach body xs

/-! ## How they end -/

/-- `p`, started in `w`, returns with `ret` or throws with `exc`.  That its budget is used up is
allowed if `lim` is true, and excluded if `lim` is false. -/
def Ends (p : Prog ε ω α) (lim : Prop) (ret : α → ω → Prop) (exc : ε → ω → Prop) (w : ω) : Prop :=
  match p w with
  | .returned a w' => ret a w'
  | .threw e w' => exc e w'
  | .terminated => False
  | .undefined => False
  | .exhausted => lim

section Rules

variable {p : Prog ε ω α} {lim : Prop} {ret ret' : α → ω → Prop} {exc exc' : ε → ω → Prop}
variable {w w' : ω}

theorem ends_of_returned {a : α} (hp : p w = .returned a w') (h : ret a w') : p.Ends lim ret exc w := by
  unfold Ends
  rw [hp]
  exact h

theorem ends_of_threw {e : ε} (hp : p w = .threw e w') (h : exc e w') : p.Ends lim ret exc w := by
  unfold Ends
  rw [hp]
  exact h

theorem Ends.of_returned {a : α} (h : p.Ends lim ret exc w) (hp : p w = .returned a w') : ret a w' := by
  unfold Ends at h
  rw [hp] at h
  exact h

theorem Ends.of_threw {e : ε} (h : p.Ends lim ret exc w) (hp : p w = .threw e w') : exc e w' := by
  unfold Ends at h
  rw [hp] at h
  exact h

/-- A call whose budget suffices, and that does not throw, returns. -/
theorem Ends.returns (h : p.Ends False ret (fun _ _ => False) w) :
    ∃ a w', p w = .returned a w' ∧ ret a w' := by
  unfold Ends at h
  cases hp : p w with
  | returned a w' =>
      rw [hp] at h
      exact ⟨a, w', rfl, h⟩
  | _ =>
      rw [hp] at h
      exact h.elim

theorem Ends.imp {lim' : Prop} (h : p.Ends lim ret exc w) (hlim : lim → lim')
    (hret : ∀ a w', ret a w' → ret' a w') (hexc : ∀ e w', exc e w' → exc' e w') :
    p.Ends lim' ret' exc' w := by
  unfold Ends at h ⊢
  cases hp : p w with
  | returned a w' =>
      rw [hp] at h
      exact hret a w' h
  | threw e w' =>
      rw [hp] at h
      exact hexc e w' h
  | terminated =>
      rw [hp] at h
      exact h
  | undefined =>
      rw [hp] at h
      exact h
  | exhausted =>
      rw [hp] at h
      exact hlim h

theorem Ends.mono (h : p.Ends lim ret exc w) (hret : ∀ a w', ret a w' → ret' a w')
    (hexc : ∀ e w', exc e w' → exc' e w') : p.Ends lim ret' exc' w :=
  h.imp id hret hexc

@[simp] theorem ends_pure (a : α) : (pure a : Prog ε ω α).Ends lim ret exc w ↔ ret a w := Iff.rfl

@[simp] theorem ends_throw (e : ε) : (throw e : Prog ε ω α).Ends lim ret exc w ↔ exc e w := Iff.rfl

@[simp] theorem ends_exhausted : (exhausted : Prog ε ω α).Ends lim ret exc w ↔ lim := Iff.rfl

@[simp] theorem ends_gets (f : ω → α) : (gets f : Prog ε ω α).Ends lim ret exc w ↔ ret (f w) w := Iff.rfl

@[simp] theorem ends_bind {f : α → Prog ε ω β} {ret : β → ω → Prop} :
    (p >>= f).Ends lim ret exc w ↔ p.Ends lim (fun a w' => (f a).Ends lim ret exc w') exc w := by
  simp only [Ends, bind_apply]
  cases p w with
  | returned a w' => exact Iff.rfl
  | threw e w' => exact Iff.rfl
  | terminated => exact Iff.rfl
  | undefined => exact Iff.rfl
  | exhausted => exact Iff.rfl

@[simp] theorem ends_noexcept :
    (noexcept p).Ends lim ret exc w ↔ p.Ends lim ret (fun _ _ => False) w := by
  simp only [Ends, noexcept]
  cases p w with
  | returned a w' => exact Iff.rfl
  | threw e w' => exact Iff.rfl
  | terminated => exact Iff.rfl
  | undefined => exact Iff.rfl
  | exhausted => exact Iff.rfl

/-- A part of the state is all that a call on it changes. -/
@[simp] theorem ends_onFst {ret : α → ω × χ → Prop} {exc : ε → ω × χ → Prop} {s : ω × χ} :
    (onFst p).Ends lim ret exc s ↔
      p.Ends lim (fun a w' => ret a (w', s.2)) (fun e w' => exc e (w', s.2)) s.1 := by
  simp only [Ends, onFst]
  cases p s.1 with
  | returned a w' => exact Iff.rfl
  | threw e w' => exact Iff.rfl
  | terminated => exact Iff.rfl
  | undefined => exact Iff.rfl
  | exhausted => exact Iff.rfl

@[simp] theorem ends_withLocal {x : χ} {p : Prog ε (ω × χ) α} {ret : α × χ → ω → Prop} :
    (withLocal x p).Ends lim ret exc w ↔
      p.Ends lim (fun a s => ret (a, s.2) s.1) (fun e s => exc e s.1) (w, x) := by
  simp only [Ends, withLocal]
  cases p (w, x) with
  | returned a s => exact Iff.rfl
  | threw e s => exact Iff.rfl
  | terminated => exact Iff.rfl
  | undefined => exact Iff.rfl
  | exhausted => exact Iff.rfl

@[simp] theorem ends_zoom {get : ω → χ} {set : ω → χ → ω} {p : Prog ε χ α} :
    (zoom get set p).Ends lim ret exc w ↔
      p.Ends lim (fun a x => ret a (set w x)) (fun e x => exc e (set w x)) (get w) := by
  simp only [Ends, zoom]
  cases p (get w) with
  | returned a x => exact Iff.rfl
  | threw e x => exact Iff.rfl
  | terminated => exact Iff.rfl
  | undefined => exact Iff.rfl
  | exhausted => exact Iff.rfl

/-- The handler gets what the block throws. -/
@[simp] theorem ends_tryCatch {handler : ε → Prog ε ω α} :
    (tryCatch p handler).Ends lim ret exc w ↔
      p.Ends lim ret (fun e w' => (handler e).Ends lim ret exc w') w := by
  simp only [Ends, tryCatch]
  cases p w with
  | returned a w' => exact Iff.rfl
  | threw e w' => exact Iff.rfl
  | terminated => exact Iff.rfl
  | undefined => exact Iff.rfl
  | exhausted => exact Iff.rfl

/-- However the body ends, the destructor is what comes after it. -/
@[simp] theorem ends_andFinally {dtor : Prog ε ω PUnit} :
    (andFinally p dtor).Ends lim ret exc w ↔
      p.Ends lim (fun a w₁ => dtor.Ends lim (fun _ w₂ => ret a w₂) exc w₁)
        (fun e w₁ => dtor.Ends lim (fun _ w₂ => exc e w₂) (fun _ _ => False) w₁) w := by
  unfold Ends andFinally noexcept
  cases p w with
  | returned a w₁ =>
      dsimp only
      cases dtor w₁ with
      | _ => exact Iff.rfl
  | threw e w₁ =>
      dsimp only
      cases dtor w₁ with
      | _ => exact Iff.rfl
  | terminated => exact Iff.rfl
  | undefined => exact Iff.rfl
  | exhausted => exact Iff.rfl

/-- An invariant of a loop may depend on the elements that are done. -/
theorem ends_forEach {body : β → Prog ε ω PUnit} {I : List β → ω → Prop} {xs : List β}
    (hbody : ∀ done x rest w, xs = done ++ x :: rest → I done w →
      (body x).Ends lim (fun _ w' => I (done ++ [x]) w') exc w) (hstart : I [] w) :
    (forEach body xs).Ends lim (fun _ w' => I xs w') exc w := by
  have hfrom : ∀ (rest done : List β) (w : ω), xs = done ++ rest → I done w →
      (forEach body rest).Ends lim (fun _ w' => I xs w') exc w := by
    intro rest
    induction rest with
    | nil =>
        intro done w hxs hI
        rw [List.append_nil] at hxs
        exact hxs ▸ hI
    | cons x rest ih =>
        intro done w hxs hI
        refine ends_bind.2 (Ends.mono (hbody done x rest w hxs hI) ?_ fun _ _ h => h)
        intro _ w' hI'
        exact ih (done ++ [x]) w' (by rw [hxs, List.append_assoc, List.singleton_append]) hI'
  exact hfrom xs [] w rfl hstart

end Rules

end Prog

end Evdevxx
