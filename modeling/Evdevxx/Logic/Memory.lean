import Evdevxx.Logic.Outcome

/-!
# Memory — objects of a class at their addresses

A class has its objects at addresses `ι`; where no object lives the memory reads `none`, and an
access there is undefined.  `construct` is what a C++ constructor does around its body: the
object lives from the start of the body, and an exception in the body ends its lifetime.
-/

namespace Evdevxx

universe u

/-- An address at which something lives is none at which nothing does. -/
theorem ne_of_lives_of_free {ι τ : Type u} {m : ι → Option τ} {i j : ι} {x : τ}
    (hlives : m i = some x) (hfree : m j = none) : i ≠ j := by
  apply ne_of_apply_ne m
  rw [hlives, hfree]
  exact Option.some_ne_none x

/-- Where the objects of one class are kept in the state `ω`. -/
structure Memory (ω ι τ : Type u) where
  get : ω → ι → Option τ
  set : ω → ι → Option τ → ω

namespace Memory

variable {ε ω ι τ : Type u} (M : Memory ω ι τ)

def load (i : ι) : Prog ε ω τ := fun w =>
  match M.get w i with
  | some x => .returned x w
  | none => .undefined

def store (i : ι) (x : τ) : Prog ε ω PUnit := fun w =>
  .returned ⟨⟩ (M.set w i (some x))

/-- A new object with the initial members `x`. -/
def allocate (i : ι) (x : τ) : Prog ε ω PUnit := fun w =>
  match M.get w i with
  | some _ => .undefined
  | none => .returned ⟨⟩ (M.set w i (some x))

def deallocate (i : ι) : Prog ε ω PUnit := fun w =>
  .returned ⟨⟩ (M.set w i none)

def construct (i : ι) (x : τ) (body : Prog ε ω PUnit) : Prog ε ω PUnit := do
  M.allocate i x
  Prog.catchRethrow body (M.deallocate i)

section

variable {M} {i : ι} {x y : τ} {w w' : ω} {body : Prog ε ω PUnit} {e : ε}

theorem load_apply (h : M.get w i = some x) :
    (M.load i : Prog ε ω τ) w = .returned x w := by
  simp [load, h]

theorem load_apply_none (h : M.get w i = none) : (M.load i : Prog ε ω τ) w = .undefined := by
  simp [load, h]

@[simp] theorem store_apply : (M.store i x : Prog ε ω PUnit) w =
    .returned ⟨⟩ (M.set w i (some x)) := rfl

@[simp] theorem deallocate_apply : (M.deallocate i : Prog ε ω PUnit) w =
    .returned ⟨⟩ (M.set w i none) := rfl

/-- There is no room for an object where one lives. -/
theorem construct_apply_occupied (h : M.get w i = some y) : M.construct i x body w = .undefined := by
  simp [construct, allocate, h]

theorem construct_apply (h : M.get w i = none) :
    M.construct i x body w =
      Prog.catchRethrow body (M.deallocate i) (M.set w i (some x)) := by
  simp [construct, allocate, h]

theorem construct_of_returned (h : M.get w i = none)
    (hbody : body (M.set w i (some x)) = .returned ⟨⟩ w') :
    M.construct i x body w = .returned ⟨⟩ w' := by
  simp [construct_apply h, Prog.catchRethrow, hbody]

theorem construct_of_threw (h : M.get w i = none)
    (hbody : body (M.set w i (some x)) = .threw e w') :
    M.construct i x body w = .threw e (M.set w' i none) := by
  simp [construct_apply h, Prog.catchRethrow, hbody]

/-- A constructor ends like its body, but for the lifetime of the object. -/
theorem after_construct (hafter : (M.construct i x body w).after = some w') :
    M.get w i = none ∧
      ((∃ u, body (M.set w i (some x)) = .returned u w') ∨
        ∃ e w₁, body (M.set w i (some x)) = .threw e w₁ ∧ w' = M.set w₁ i none) := by
  cases h : M.get w i with
  | some y =>
      simp [construct_apply_occupied h] at hafter
  | none =>
      refine ⟨rfl, ?_⟩
      rw [construct_apply h] at hafter
      cases hb : body (M.set w i (some x)) with
      | returned u w₁ =>
          simp [Prog.catchRethrow, hb] at hafter
          exact Or.inl ⟨u, by rw [hafter]⟩
      | threw e w₁ =>
          -- The lifetime of the object ends before the exception goes on.
          simp [Prog.catchRethrow, hb] at hafter
          exact Or.inr ⟨e, w₁, rfl, hafter.symm⟩
      | terminated => simp [Prog.catchRethrow, hb] at hafter
      | undefined => simp [Prog.catchRethrow, hb] at hafter
      | exhausted => simp [Prog.catchRethrow, hb] at hafter

end

end Memory

end Evdevxx
