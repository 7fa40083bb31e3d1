/-!
# Outcome — how a C++ call can end, and the calculus of such calls

A C++ call that starts in a state `w` can return, let an exception out, reach
`std::terminate` (an exception at a `noexcept` boundary), or run into undefined behaviour
(here: a null or dangling pointer is dereferenced).  A call that recurses or loops is modelled with
a budget (on the depth of the call stack, on the number of iterations), and `exhausted` says that
the budget did not suffice.

An exception does not roll the state back: `threw e w` carries the state at the throw.
Nothing in this module is about a particular program; `ω` is its state, `ε` its exceptions.
-/

namespace Evdevxx

universe u

/-- The ways a call can end, with the state it leaves where there is one. -/
inductive Outcome (ε ω α : Type u) : Type u where
  | returned (a : α) (w : ω)
  | threw (e : ε) (w : ω)
  | terminated
  | undefined
  | exhausted
  deriving DecidableEq, Repr

/-- A computation with state `ω` and exceptions `ε`. -/
def Prog (ε ω α : Type u) : Type u :=
  ω → Outcome ε ω α

namespace Outcome

variable {ε ω α β : Type u}

/-- The state after a call that ended normally or by an exception. -/
def after : Outcome ε ω α → Option ω
  | .returned _ w => some w
  | .threw _ w => some w
  | .terminated => none
  | .undefined => none
  | .exhausted => none

@[simp] theorem after_returned (a : α) (w : ω) : (Outcome.returned a w : Outcome ε ω α).after = some w := rfl
@[simp] theorem after_threw (e : ε) (w : ω) : (Outcome.threw e w : Outcome ε ω α).after = some w := rfl
@[simp] theorem after_terminated : (Outcome.terminated : Outcome ε ω α).after = none := rfl
@[simp] theorem after_undefined : (Outcome.undefined : Outcome ε ω α).after = none := rfl
@[simp] theorem after_exhausted : (Outcome.exhausted : Outcome ε ω α).after = none := rfl

/-- The call ends in the state `w`: by the exception that `r` is, or else normally. -/
def EndsBy (o : Outcome ε ω PUnit) (r : Option ε) (w : ω) : Prop :=
  o = match r with
    | none => .returned ⟨⟩ w
    | some e => .threw e w

theorem EndsBy.after {o : Outcome ε ω PUnit} {r : Option ε} {w : ω} (h : o.EndsBy r w) :
    o.after = some w := by
  cases r with
  | none => rw [show o = .returned ⟨⟩ w from h, after_returned]
  | some e => rw [show o = .threw e w from h, after_threw]

theorem endsBy_returned_iff {u : PUnit} {r : Option ε} {w w' : ω} :
    (Outcome.returned u w : Outcome ε ω PUnit).EndsBy r w' ↔ r = none ∧ w' = w := by
  cases r with
  | none => simp [EndsBy, eq_comm]
  | some e => simp [EndsBy]

theorem endsBy_threw_iff {e : ε} {r : Option ε} {w w' : ω} :
    (Outcome.threw e w : Outcome ε ω PUnit).EndsBy r w' ↔ r = some e ∧ w' = w := by
  cases r with
  | none => simp [EndsBy]
  | some e' => simp [EndsBy, eq_comm]

/-- Run `f` on the result of a call, when there is one. -/
def andThen (o : Outcome ε ω α) (f : α → Prog ε ω β) : Outcome ε ω β :=
  match o with
  | .returned a w => f a w
  | .threw e w => .threw e w
  | .terminated => .terminated
  | .undefined => .undefined
  | .exhausted => .exhausted

@[simp] theorem returned_andThen (a : α) (w : ω) (f : α → Prog ε ω β) :
    (Outcome.returned a w).andThen f = f a w := rfl
@[simp] theorem threw_andThen (e : ε) (w : ω) (f : α → Prog ε ω β) :
    (Outcome.threw e w).andThen f = .threw e w := rfl
@[simp] theorem terminated_andThen (f : α → Prog ε ω β) :
    (Outcome.terminated : Outcome ε ω α).andThen f = .terminated := rfl
@[simp] theorem undefined_andThen (f : α → Prog ε ω β) :
    (Outcome.undefined : Outcome ε ω α).andThen f = .undefined := rfl
@[simp] theorem exhausted_andThen (f : α → Prog ε ω β) :
    (Outcome.exhausted : Outcome ε ω α).andThen f = .exhausted := rfl

end Outcome

namespace Outcome

variable {ε ε' ω ω' α : Type u}

/-- The same end, with the exception and the state seen through `f` and `g`. -/
def map (f : ε → ε') (g : ω → ω') : Outcome ε ω α → Outcome ε' ω' α
  | .returned a w => .returned a (g w)
  | .threw e w => .threw (f e) (g w)
  | .terminated => .terminated
  | .undefined => .undefined
  | .exhausted => .exhausted

@[simp] theorem map_returned (f : ε → ε') (g : ω → ω') (a : α) (w : ω) :
    (Outcome.returned a w).map f g = .returned a (g w) := rfl
@[simp] theorem map_threw (f : ε → ε') (g : ω → ω') (e : ε) (w : ω) :
    (Outcome.threw e w : Outcome ε ω α).map f g = .threw (f e) (g w) := rfl
@[simp] theorem map_terminated (f : ε → ε') (g : ω → ω') :
    (Outcome.terminated : Outcome ε ω α).map f g = .terminated := rfl
@[simp] theorem map_undefined (f : ε → ε') (g : ω → ω') :
    (Outcome.undefined : Outcome ε ω α).map f g = .undefined := rfl

end Outcome

namespace Prog

variable {ε ω α β : Type u}

instance : Monad (Prog ε ω) where
  pure a := fun w => .returned a w
  bind p f := fun w => (p w).andThen f

/-- `throw e` -/
def throw (e : ε) : Prog ε ω α := fun w => .threw e w

/-- A null or dangling pointer is dereferenced. -/
def undefined : Prog ε ω α := fun _ => .undefined

/-- The budget is used up. -/
def exhausted : Prog ε ω α := fun _ => .exhausted

/-- `abort()`, as after a failed `assert`. -/
def abort : Prog ε ω α := fun _ => .terminated

/-- Run a computation that has no state. -/
def ofExcept (x : Except ε α) : Prog ε ω α := fun w =>
  match x with
  | .ok a => .returned a w
  | .error e => .threw e w

/-- Read something off the state. -/
def gets (f : ω → α) : Prog ε ω α := fun w => .returned (f w) w

/-- Change the state. -/
def modify (f : ω → ω) : Prog ε ω PUnit := fun w => .returned ⟨⟩ (f w)

/-- `try { p } catch (...) { h; throw; }` -/
def catchRethrow (p : Prog ε ω α) (h : Prog ε ω PUnit) : Prog ε ω α := fun w =>
  match p w with
  | .threw e w' => (h w').andThen fun _ => throw e
  | o => o

/-- The boundary of a `noexcept` function: an exception that reaches it is `std::terminate`. -/
def noexcept (p : Prog ε ω α) : Prog ε ω α := fun w =>
  match p w with
  -- `std::terminate` leaves no state behind that a caller could see.
  | .threw _ _ => .terminated
  | o => o

/-- Run on the first of two parts of the state. -/
def onFst {χ : Type u} (p : Prog ε ω α) : Prog ε (ω × χ) α := fun s =>
  (p s.1).map id fun w => (w, s.2)

/-- Run on the second of two parts of the state, with exceptions of another type. -/
def onSnd {ε' χ : Type u} (f : ε' → ε) (p : Prog ε' χ α) : Prog ε (ω × χ) α := fun s =>
  (p s.2).map f fun x => (s.1, x)

/-- Run with a local variable that starts as `x`; its last value is returned too. -/
def withLocal {χ : Type u} (x : χ) (p : Prog ε (ω × χ) α) : Prog ε ω (α × χ) := fun w =>
  match p (w, x) with
  | .returned a s => .returned (a, s.2) s.1
  | .threw e s => .threw e s.1
  | .terminated => .terminated
  | .undefined => .undefined
  | .exhausted => .exhausted

@[simp] theorem pure_apply (a : α) (w : ω) : (pure a : Prog ε ω α) w = .returned a w := rfl

@[simp] theorem bind_apply (p : Prog ε ω α) (f : α → Prog ε ω β) (w : ω) :
    (p >>= f) w = (p w).andThen f := rfl

@[simp] theorem throw_apply (e : ε) (w : ω) : (throw e : Prog ε ω α) w = .threw e w := rfl

@[simp] theorem undefined_apply (w : ω) : (undefined : Prog ε ω α) w = .undefined := rfl

@[simp] theorem exhausted_apply (w : ω) : (exhausted : Prog ε ω α) w = .exhausted := rfl

@[simp] theorem abort_apply (w : ω) : (abort : Prog ε ω α) w = .terminated := rfl

@[simp] theorem ofExcept_ok (a : α) (w : ω) :
    (ofExcept (.ok a) : Prog ε ω α) w = .returned a w := rfl

@[simp] theorem ofExcept_error (e : ε) (w : ω) :
    (ofExcept (.error e) : Prog ε ω α) w = .threw e w := rfl

@[simp] theorem gets_apply (f : ω → α) (w : ω) : (gets f : Prog ε ω α) w = .returned (f w) w := rfl

@[simp] theorem modify_apply (f : ω → ω) (w : ω) :
    (modify f : Prog ε ω PUnit) w = .returned ⟨⟩ (f w) := rfl

@[simp] theorem ite_apply' (c : Prop) [Decidable c] (p q : Prog ε ω α) (w : ω) :
    (if c then p else q) w = if c then p w else q w := by
  split <;> rfl

/-- A body that returns is not affected by the `noexcept` boundary around it. -/
theorem noexcept_of_returned {p : Prog ε ω α} {w w' : ω} {a : α} (h : p w = .returned a w') :
    noexcept p w = .returned a w' := by
  simp [noexcept, h]

/-- A `noexcept` function reaches `std::terminate` when its body throws. -/
theorem noexcept_of_threw {p : Prog ε ω α} {w w' : ω} {e : ε} (h : p w = .threw e w') :
    noexcept p w = .terminated := by
  simp [noexcept, h]

/-- A handler does not run when the body runs out of budget. -/
theorem catchRethrow_of_exhausted {p : Prog ε ω α} (h : Prog ε ω PUnit) {w : ω}
    (hp : p w = .exhausted) : catchRethrow p h w = .exhausted := by
  simp [catchRethrow, hp]

end Prog

end Evdevxx
