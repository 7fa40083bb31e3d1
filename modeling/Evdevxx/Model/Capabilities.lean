import Evdevxx.Logic.Loop
import Evdevxx.Model.Device
import Evdevxx.Model.Names

/-!
# Capabilities — which types and codes a `Device` has

The queries of libevdev about the capability bitmaps of a device change nothing; they are functions
of the platform's state.  The loops of `get_types` and `get_codes` have a budget on the number of
iterations.
-/

namespace Evdevxx

/-- The queries about capabilities. -/
structure Capabilities (σ : Type) where
  libevdevHasEventType : Handle → UInt32 → σ → Bool
  libevdevHasEventCode : Handle → UInt32 → UInt32 → σ → Bool

/-- The capabilities of a device with the given bits set. -/
def Capabilities.ofBits {σ : Type} (types : List UInt32) (codes : List (UInt32 × UInt32)) :
    Capabilities σ where
  libevdevHasEventType := fun _ t _ => types.contains t
  libevdevHasEventCode := fun _ t c _ => codes.contains (t, c)

/-- `operator ++`; the number is a machine word. -/
def NumberBase.increment (n : NumberBase UInt16) : NumberBase UInt16 :=
  { value := n.value + 1 }

/-- `operator ++` on a `Type`, which the constructor has no part in. -/
def EventType.increment (type : EventType) : EventType :=
  { toNumberBase := type.toNumberBase.increment }

/-- `operator ++` on a `Code` -/
def Code.increment (code : Code) : Code :=
  { toNumberBase := code.toNumberBase.increment }

/-- `Type::max()` -/
def EventType.max : EventType :=
  ⟨⟨evMax⟩⟩

namespace Device

variable {σ : Type} (Q : Capabilities σ) (T : NameTables)

open Op

/-- `has(Type)` -/
def hasType (this : DeviceId) (type : EventType) : Op σ Bool :=
  Prog.noexcept do
    let D ← load this
    let raw ← deref D.raw
    Prog.gets fun w => Q.libevdevHasEventType raw type.value.toUInt32 w.env

/-- `has(Type, Code)` -/
def hasCode (this : DeviceId) (type : EventType) (code : Code) : Op σ Bool :=
  Prog.noexcept do
    let D ← load this
    let raw ← deref D.raw
    Prog.gets fun w => Q.libevdevHasEventCode raw type.value.toUInt32 code.value.toUInt32 w.env

/-- `get_types()` -/
def getTypes (this : DeviceId) (budget : Nat) : Op σ (List EventType) :=
  Prog.forLoop (fun t => t.value ≤ EventType.max.value) EventType.increment
    (Prog.pushIf (hasType Q this)) budget ⟨⟨0⟩⟩ []

/-- `get_codes(type, max)` -/
def getCodesUpTo (this : DeviceId) (type : EventType) (max : Code) (budget : Nat) :
    Op σ (List Code) :=
  Prog.forLoop (fun c => c.value ≤ max.value) Code.increment
    (Prog.pushIf (hasCode Q this type)) budget (Code.ofNumber 0) []

/-- `get_codes(type)` -/
def getCodes (this : DeviceId) (type : EventType) (budget : Nat) : Op σ (List Code) :=
  match Code.max T type with
  | .error e => Prog.throw (.std e)
  | .ok max => getCodesUpTo Q this type max budget

end Device

end Evdevxx
