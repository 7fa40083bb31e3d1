import Mathlib.Data.List.Basic

/-!
# Monitor — what may happen when, along a trace

A `Monitor` reads a trace of actions from left to right: it has a state that every action changes,
and says in each state which actions are allowed next.  A trace is accepted if every action in it was
allowed when it happened.
-/

namespace Evdevxx

universe u v

structure Monitor (α : Type u) (β : Type v) where
  start : β
  next : β → α → β
  allowed : β → α → Prop

namespace Monitor

variable {α : Type u} {β : Type v} (M : Monitor α β)

/-- The state after a trace. -/
def state (trace : List α) : β :=
  trace.foldl M.next M.start

/-- Every action was allowed in the state after those before it. -/
def Accepts (trace : List α) : Prop :=
  ∀ pre a post, trace = pre ++ a :: post → M.allowed (M.state pre) a

@[simp] theorem state_nil : M.state [] = M.start := rfl

@[simp] theorem state_snoc (trace : List α) (a : α) :
    M.state (trace ++ [a]) = M.next (M.state trace) a := by
  simp [state]

theorem accepts_nil : M.Accepts [] := by
  intro pre a post h
  simp at h

/-- A trace is accepted if it was accepted before its last action, and that was allowed. -/
theorem accepts_snoc {trace : List α} {a : α} :
    M.Accepts (trace ++ [a]) ↔ M.Accepts trace ∧ M.allowed (M.state trace) a := by
  constructor
  · intro h
    refine ⟨fun pre b post heq => h pre b (post ++ [a]) ?_, h trace a [] rfl⟩
    rw [heq, List.append_assoc, List.cons_append]
  · rintro ⟨hbefore, hlast⟩ pre b post heq
    rcases List.eq_nil_or_concat post with rfl | ⟨post, c, rfl⟩
    · have hparts := List.append_inj' heq rfl
      cases hparts.2
      exact hparts.1 ▸ hlast
    · have hsplit : trace ++ [a] = (pre ++ b :: post) ++ [c] := by
        rw [heq, List.concat_eq_append, List.append_assoc, List.cons_append]
      exact hbefore pre b post (List.append_inj' hsplit rfl).1

end Monitor

end Evdevxx
