import Evdevxx.Model.Capabilities
import Evdevxx.Model.Property

/-!
# Numbers — objects of the classes derived from `NumberBase`

`Type` and `Property` inherit their increments from the template `NumberBase<T, D>`, and each of them
has a constructor that checks the number it is given.  A `NumberClass` is what such a class brings;
a program that uses it constructs objects, one after another, and increments them.
-/

namespace Evdevxx

/-- A class `D` that derives from `NumberBase<V, D>`. -/
structure NumberClass (V D : Type) where
  base : D → NumberBase V
  /-- the object with the given base; the derived class has no data members -/
  withBase : NumberBase V → D
  /-- `D::D()` -/
  construct : D
  /-- `D::D(V)` -/
  ofNumber : V → Except StdError D
  /-- `D::parse`, on the state of the memory that `pos` points to -/
  parse : Text → Prog StdError (Option Nat) D

/-- `evdev::Type` -/
def EventType.numbers (T : NameTables) : NumberClass UInt16 EventType where
  base := EventType.toNumberBase
  withBase := EventType.mk
  construct := ⟨⟨0⟩⟩
  ofNumber := EventType.ofNumber
  parse := EventType.parse T

/-- `evdev::Property` -/
def Property.numbers (T : NameTables) : NumberClass UInt32 Property where
  base := Property.toNumberBase
  withBase := Property.mk
  construct := ⟨⟨0⟩⟩
  ofNumber := Property.ofNumber
  parse := Property.parse T

/-- What can be done with objects; an object is named by its place in the order of construction. -/
inductive NumberOp (V : Type) where
  | construct
  | ofNumber (number : V)
  | parse (name : Text) (pos : Option Nat)
  | copy (i : Nat)
  | preIncrement (i : Nat)
  | postIncrement (i : Nat)
  deriving DecidableEq, Repr

/-- The object that is incremented. -/
def NumberOp.incremented {V : Type} : NumberOp V → Option Nat
  | .preIncrement i => some i
  | .postIncrement i => some i
  | _ => none

namespace NumberClass

variable {V D : Type} (C : NumberClass V D)

/-- `value`, also as what the object is converted to -/
def value (this : D) : V :=
  (C.base this).value

section Increments

variable [Add V] [OfNat V 1]

/-- The object with the next number. -/
def advance (this : D) : D :=
  C.withBase { value := C.value this + 1 }

/-- `++value` -/
def incrementValue : Prog StdError D Unit := fun this =>
  .returned () (C.advance this)

/-- `NumberBase::operator ++()` -/
def preIncrement : Prog StdError D Unit :=
  Prog.noexcept C.incrementValue

/-- `NumberBase::operator ++(int)` -/
def postIncrement : Prog StdError D D :=
  Prog.noexcept do
    let value ← Prog.gets C.value
    -- `Derived old{*this}`: the constructor from a number, through the conversion to one.
    let old ← Prog.ofExcept (C.ofNumber value)
    C.incrementValue
    pure old

end Increments

/-! ## Programs -/

/-- Work on the `i`-th object. -/
def onObject {α : Type} (i : Nat) (p : Prog StdError D α) : Prog StdError (List D) α := fun objects =>
  match objects[i]? with
  | none => .undefined
  | some d => (p d).map id fun d => objects.set i d

/-- The object `d` has been constructed. -/
def constructed (d : D) : Prog StdError (List D) Unit := fun objects =>
  .returned () (objects ++ [d])

section Operations

variable [Add V] [OfNat V 1]

/-- One operation, on the objects constructed so far. -/
def exec : NumberOp V → Prog StdError (List D) Unit
  | .construct => constructed C.construct
  | .ofNumber number => do
      let d ← Prog.ofExcept (C.ofNumber number)
      constructed d
  | .parse name pos => do
      let (d, _) ← Prog.withLocal pos (Prog.onSnd id (C.parse name))
      constructed d
  | .copy i => do
      let d ← onObject i (Prog.gets id)
      constructed d
  | .preIncrement i => onObject i C.preIncrement
  | .postIncrement i => do
      let old ← onObject i C.postIncrement
      constructed old

/-- What an operation can do; one that throws leaves its caller with the objects of before. -/
def Step (objects : List D) (op : NumberOp V) (objects' : List D) : Prop :=
  (C.exec op objects).after = some objects'

end Operations

end NumberClass

end Evdevxx
