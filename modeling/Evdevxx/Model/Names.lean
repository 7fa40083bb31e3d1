import Evdevxx.Model.Event
import Evdevxx.Model.Utils

/-!
# Names — the texts of types and codes

libevdev has tables of the names of types, codes and properties.  They are not part of the
repository, so they are a parameter: `NameTables` are any functions with the types of libevdev's.

* `EventType.toText`, `codeToString` — `to_string(Type)` and `code_to_string`;
* `EventType.parse`, `Code.parse` — the named constructors, on the state of the memory that `pos`
  points to (`none` if it is a null pointer);
* `Code.max` — the largest code of a type.
-/

namespace Evdevxx

/-- The characters of a `std::string`. -/
abbrev Text := List Char

/-- The name lookups of libevdev.  A function that looks up a number returns `-1` if there is none;
the `_n` functions get the whole of a `std::string_view`. -/
structure NameTables where
  eventTypeGetName : UInt32 → Option Text
  eventTypeFromNameN : Text → Int
  eventTypeGetMax : UInt32 → Int
  eventCodeGetName : UInt32 → UInt32 → Option Text
  eventCodeFromCodeNameN : Text → Int
  eventTypeFromCodeNameN : Text → Int
  propertyGetName : UInt32 → Option Text
  propertyFromNameN : Text → Int

/-- `if (pos) *pos = size;` -/
def storePos (size : Nat) : Prog StdError (Option Nat) Unit := fun pos =>
  .returned () (pos.map fun _ => size)

@[simp] theorem storePos_apply (size : Nat) (pos : Option Nat) :
    storePos size pos = .returned () (pos.map fun _ => size) := rfl

variable (T : NameTables)

/-! ## Types -/

/-- `to_string(Type)` -/
def EventType.toText (type : EventType) : Text :=
  match T.eventTypeGetName type.value.toUInt32 with
  | some s => s
  | none => Detail.toHex type.value.toUInt32 2

/-- `Type::parse` -/
def EventType.parse (name : Text) : Prog StdError (Option Nat) EventType := do
  let num := T.eventTypeFromNameN name
  if num = -1 then
    Prog.throw (.invalidArgument ("bad event type name: " ++ String.ofList name))
  else do
    let result ← Prog.ofExcept (EventType.ofNumber (UInt16.ofInt num))
    storePos (result.toText T).length
    pure result

/-! ## Codes -/

/-- `code_to_string` -/
def codeToString (type : EventType) (code : Code) : Text :=
  match T.eventCodeGetName type.value.toUInt32 code.value.toUInt32 with
  | some n => n
  | none => Detail.toHex code.value.toUInt32 3

/-- `Code::parse` -/
def Code.parse (name : Text) : Prog StdError (Option Nat) (EventType × Code) := do
  let codeNum := T.eventCodeFromCodeNameN name
  if codeNum = -1 then
    Prog.throw (.invalidArgument ("bad event code name: " ++ String.ofList name))
  else do
    let typeNum := T.eventTypeFromCodeNameN name
    -- `assert(type_num != -1);`
    if typeNum = -1 then
      Prog.abort
    else do
      let type ← Prog.ofExcept (EventType.ofNumber (UInt16.ofInt typeNum))
      let code := Code.ofNumber (UInt16.ofInt codeNum)
      -- The length is that of the name printed for the result, not that of what was matched.
      storePos (codeToString T type code).length
      pure (type, code)

/-- `Code::max` -/
def Code.max (type : EventType) : Except StdError Code :=
  let val := T.eventTypeGetMax type.value.toUInt32
  if val = -1 then
    .error (.invalidArgument ("bad event type: " ++ String.ofList (type.toText T)))
  else
    .ok (Code.ofNumber (UInt16.ofInt val))

/-! ## How they end -/

variable {T} {name : Text} {pos : Option Nat}

theorem EventType.toText_of_some {type : EventType} {s : Text}
    (h : T.eventTypeGetName type.value.toUInt32 = some s) : type.toText T = s := by
  simp [EventType.toText, h]

theorem codeToString_of_some {type : EventType} {code : Code} {n : Text}
    (h : T.eventCodeGetName type.value.toUInt32 code.value.toUInt32 = some n) :
    codeToString T type code = n := by
  simp [codeToString, h]

theorem codeToString_of_none {type : EventType} {code : Code}
    (h : T.eventCodeGetName type.value.toUInt32 code.value.toUInt32 = none) :
    codeToString T type code = Detail.toHex code.value.toUInt32 3 := by
  simp [codeToString, h]

/-- A number in the range of a machine word is stored in it unchanged. -/
theorem ofInt_toNat16 (v : UInt16) : UInt16.ofInt (v.toNat : Int) = v := by
  have hrange := v.toNat_lt
  have hmod : ((v.toNat : Int) % 2 ^ 16).toNat = v.toNat := by omega
  rw [UInt16.ofInt, hmod, UInt16.ofNat_toNat]

theorem ofInt_toNat32 (v : UInt32) : UInt32.ofInt (v.toNat : Int) = v := by
  have hrange := v.toNat_lt
  have hmod : ((v.toNat : Int) % 2 ^ 32).toNat = v.toNat := by omega
  rw [UInt32.ofInt, hmod, UInt32.ofNat_toNat]

end Evdevxx
