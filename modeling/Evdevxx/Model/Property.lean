import Evdevxx.Model.Names

/-!
# Property — the text of a property, written and read

* `Property` — the type-safe number, with `Property::parse` and `to_string(Property)`;
* `Property.insert` — `operator <<`, on the text written so far;
* `Property.extract` — `operator >>`, on the stream and the variable it reads into.
-/

namespace Evdevxx

/-- `evdev::Property` -/
structure Property extends NumberBase UInt32
  deriving DecidableEq, Repr

/-- `INPUT_PROP_MAX` -/
def inputPropMax : UInt32 := 0x1f

namespace Property

/-- `Property::Property(unsigned)` -/
def ofNumber (val : UInt32) : Except StdError Property :=
  if val > inputPropMax then
    .error (.invalidArgument "invalid property number")
  else
    .ok ⟨⟨val⟩⟩

variable (T : NameTables)

/-- `to_string(Property)` -/
def toText (prop : Property) : Text :=
  match T.propertyGetName prop.value with
  | some s => s
  | none => Detail.toHex prop.value 2

/-- `Property::parse`, on the state of the memory that `pos` points to. -/
def parse (name : Text) : Prog StdError (Option Nat) Property := do
  let val := T.propertyFromNameN name
  if val = -1 then
    Prog.throw (.invalidArgument ("bad property name: " ++ String.ofList name))
  else do
    let prop ← Prog.ofExcept (ofNumber (UInt32.ofInt val))
    storePos (prop.toText T).length
    pure prop

/-- `operator <<(std::ostream&, Property)` -/
def insert (out : Text) (prop : Property) : Text :=
  out ++ prop.toText T

/-- The characters that `operator >>` takes for a part of a name. -/
def isValid (c : Char) : Bool :=
  isUpper c ∨ c = '_'

/-- `operator >>(std::istream&, Property&)` -/
def extract : Prog StdError (IStream × Property) Unit := fun (input, prop) =>
  match input.sentry false with
  | (false, input) => .returned () (input, prop)
  | (true, input) =>
      let (c, input) := input.peek
      -- The `int` that `peek` returns is converted to `char`, `EOF` to `'\xff'`.
      if ¬ isValid (c.getD '\xff') then
        .returned () (input.setFail, prop)
      else
        let (input, token) := Detail.getline input [] isValid
        if input.fail then
          .returned () (input, prop)
        else
          match parse T token (some 0) with
          | .returned prop sz =>
              if sz ≠ some token.length then
                .returned () (input.setFail, prop)
              else
                .returned () (input, prop)
          -- `catch (std::exception&)`; the variable has not been assigned.
          | .threw _ _ => .returned () (input.setFail, prop)
          | .terminated => .terminated
          | .undefined => .undefined
          | .exhausted => .exhausted

/-! ## How they end -/

variable {T} {name : Text} {pos : Option Nat} {v : UInt32}

theorem ofNumber_of_le (h : v ≤ inputPropMax) : ofNumber v = .ok ⟨⟨v⟩⟩ := by
  have hv : ¬ v > inputPropMax := by simpa using h
  simp [ofNumber, hv]

theorem le_of_ofNumber {prop : Property} (h : ofNumber v = .ok prop) : prop.value ≤ inputPropMax := by
  by_cases hv : v ≤ inputPropMax
  · rw [ofNumber_of_le hv] at h
    cases h
    exact hv
  · rw [ofNumber, if_pos (by simpa using hv)] at h
    cases h

theorem toText_of_some {prop : Property} {s : Text}
    (h : T.propertyGetName prop.value = some s) : prop.toText T = s := by
  simp [toText, h]

theorem toText_of_none {prop : Property} (h : T.propertyGetName prop.value = none) :
    prop.toText T = Detail.toHex prop.value 2 := by
  simp [toText, h]

theorem parse_of_unknown (h : T.propertyFromNameN name = -1) (pos : Option Nat) :
    parse T name pos =
      .threw (.invalidArgument ("bad property name: " ++ String.ofList name)) pos := by
  simp [parse, h]

theorem parse_of_known (h : T.propertyFromNameN name = v.toNat) (hv : v ≤ inputPropMax)
    (pos : Option Nat) :
    parse T name pos =
      .returned ⟨⟨v⟩⟩ (pos.map fun _ => (toText T ⟨⟨v⟩⟩).length) := by
  have hne : ¬ (v.toNat : Int) = -1 := by omega
  simp [parse, h, hne, ofInt_toNat32, ofNumber_of_le hv]

end Property

end Evdevxx
