import Evdevxx.Model.Capabilities
import Evdevxx.Model.Sample

/-!
# Enabling — the member functions that enable a code

`libevdev_enable_event_code` is not part of the repository; `Enabling σ` is any function with its
type, and `Enabling.Documented` says when it succeeds and what the queries answer afterwards.

`Device::enable(Type, Code)` gives it no data, and so it refuses the types that need some; the other
member functions are for these types, or call `enable`.
-/

namespace Evdevxx

/-! ## Types and data -/

namespace EventType

/-- `Type::syn` -/
def syn : EventType := ⟨⟨0⟩⟩
/-- `Type::key` -/
def key : EventType := ⟨⟨1⟩⟩
/-- `Type::rel` -/
def rel : EventType := ⟨⟨2⟩⟩
/-- `Type::abs` -/
def abs : EventType := ⟨⟨3⟩⟩
/-- `Type::rep` -/
def rep : EventType := ⟨⟨0x14⟩⟩

end EventType

/-- `evdev::TypeCode` -/
structure TypeCode where
  type : EventType
  code : Code
  deriving DecidableEq, Repr

/-- The kernel's `::input_absinfo`. -/
structure InputAbsinfo where
  value : Int32
  minimum : Int32
  maximum : Int32
  fuzz : Int32
  flat : Int32
  resolution : Int32
  deriving DecidableEq, Repr

/-- `evdev::AbsInfo` -/
structure AbsInfo where
  val : Int32 := 0
  min : Int32 := 0
  max : Int32 := 0
  fuzz : Int32 := 0
  flat : Int32 := 0
  res : Int32 := 0
  deriving DecidableEq, Repr

/-- `AbsInfo::operator ::input_absinfo()` -/
def AbsInfo.toInput (a : AbsInfo) : InputAbsinfo where
  value := a.val
  minimum := a.min
  maximum := a.max
  fuzz := a.fuzz
  flat := a.flat
  resolution := a.res

/-- What the `const void* data` of a call points to. -/
inductive EventData where
  | absinfo (info : InputAbsinfo)
  | value (arg : Int32)
  deriving DecidableEq, Repr

/-! ## libevdev -/

/-- `libevdev_enable_event_code`; the data pointer may be null. -/
structure Enabling (σ : Type) where
  libevdevEnableEventCode : Handle → UInt32 → UInt32 → Option EventData → σ → Int × σ

/-- The code is in the range of its type, and there is data for `EV_ABS` and `EV_REP` and for no
other type. -/
def Enabling.Accepts (T : NameTables) (type : EventType) (code : Code) (data : Option EventData) :
    Prop :=
  (code.value.toNat : Int) ≤ T.eventTypeGetMax type.value.toUInt32 ∧
    (data ≠ none ↔ type = .abs ∨ type = .rep)

/-- The documented behaviour: a call that is not accepted fails, and one that is succeeds.  Then the
device has the type and the code, and nothing has changed for other types. -/
structure Enabling.Documented {σ : Type} (E : Enabling σ) (Q : Capabilities σ) (T : NameTables) :
    Prop where
  accepted : ∀ h (type : EventType) (code : Code) data s, Accepts T type code data →
    ∃ s', E.libevdevEnableEventCode h type.value.toUInt32 code.value.toUInt32 data s = (0, s') ∧
      Q.libevdevHasEventType h type.value.toUInt32 s' = true ∧
      Q.libevdevHasEventCode h type.value.toUInt32 code.value.toUInt32 s' = true ∧
      ∀ (type' : EventType) (code' : Code), type' ≠ type →
        Q.libevdevHasEventCode h type'.value.toUInt32 code'.value.toUInt32 s' =
          Q.libevdevHasEventCode h type'.value.toUInt32 code'.value.toUInt32 s
  refused : ∀ h (type : EventType) (code : Code) data s, ¬ Accepts T type code data →
    (E.libevdevEnableEventCode h type.value.toUInt32 code.value.toUInt32 data s).1 ≠ 0

/-! ## Device -/

def Op.libevdevEnableEventCode {σ : Type} (E : Enabling σ) (h : Handle) (type : EventType)
    (code : Code) (data : Option EventData) : Op σ Int := fun w =>
  let r := E.libevdevEnableEventCode h type.value.toUInt32 code.value.toUInt32 data w.env
  .returned r.1 (w.withEnv r.2)

namespace Device

variable {σ : Type} (E : Enabling σ) (T : NameTables)

open Op

/-- `if (libevdev_enable_event_code(raw, type, code, data)) throw ..` -/
def enableEventCode (this : DeviceId) (type : EventType) (code : Code) (data : Option EventData) :
    Op σ Unit := do
  let D ← load this
  let raw ← deref D.raw
  let ret ← libevdevEnableEventCode E raw type code data
  if ret ≠ 0 then
    throwRuntimeError "libevdev_enable_event_code() failed."
  else
    pure ()

/-- `enable(Type, Code)` -/
def enableCode (this : DeviceId) (type : EventType) (code : Code) : Op σ Unit :=
  if type = .abs ∨ type = .rep then
    throwLogicError ("Wrong overload for type \"" ++ String.ofList (type.toText T) ++ "\".")
  else
    enableEventCode E this type code none

/-- `enable(const TypeCode&)` -/
def enableTypeCode (this : DeviceId) (tc : TypeCode) : Op σ Unit :=
  enableCode E T this tc.type tc.code

/-- `enable_abs(Code, const AbsInfo&)` -/
def enableAbsInfo (this : DeviceId) (code : Code) (info : AbsInfo) : Op σ Unit :=
  enableEventCode E this .abs code (some (.absinfo info.toInput))

/-- `enable_rep(Code, int)` -/
def enableRep (this : DeviceId) (code : Code) (arg : Int32) : Op σ Unit :=
  enableEventCode E this .rep code (some (.value arg))

/-- `enable_key(Code)` -/
def enableKey (this : DeviceId) (code : Code) : Op σ Unit :=
  enableCode E T this .key code

/-- `enable_rel(Code)` -/
def enableRel (this : DeviceId) (code : Code) : Op σ Unit :=
  enableCode E T this .rel code

/-- `enable_abs(Code)` -/
def enableAbs (this : DeviceId) (code : Code) : Op σ Unit :=
  enableCode E T this .abs code

end Device

/-- A call of one of the typed enable functions. -/
inductive EnableOp where
  | enable (type : EventType) (code : Code)
  | enableTypeCode (tc : TypeCode)
  | enableKey (code : Code)
  | enableRel (code : Code)
  | enableAbs (code : Code)
  | enableAbsInfo (code : Code) (info : AbsInfo)
  | enableRep (code : Code) (arg : Int32)
  deriving DecidableEq, Repr

namespace EnableOp

/-- The type whose code the call enables. -/
def type : EnableOp → EventType
  | .enable type _ => type
  | .enableTypeCode tc => tc.type
  | .enableKey _ => .key
  | .enableRel _ => .rel
  | .enableAbs _ => .abs
  | .enableAbsInfo _ _ => .abs
  | .enableRep _ _ => .rep

/-- The code that the call enables. -/
def code : EnableOp → Code
  | .enable _ code => code
  | .enableTypeCode tc => tc.code
  | .enableKey code => code
  | .enableRel code => code
  | .enableAbs code => code
  | .enableAbsInfo code _ => code
  | .enableRep code _ => code

def exec {σ : Type} (E : Enabling σ) (T : NameTables) (this : DeviceId) : EnableOp → Op σ Unit
  | .enable type code => Device.enableCode E T this type code
  | .enableTypeCode tc => Device.enableTypeCode E T this tc
  | .enableKey code => Device.enableKey E T this code
  | .enableRel code => Device.enableRel E T this code
  | .enableAbs code => Device.enableAbs E T this code
  | .enableAbsInfo code info => Device.enableAbsInfo E this code info
  | .enableRep code arg => Device.enableRep E this code arg

/-- The generic functions are called for types other than `abs` and `rep`, which need data. -/
def Generic : EnableOp → Prop
  | .enable type _ => type ≠ .abs ∧ type ≠ .rep
  | .enableTypeCode tc => tc.type ≠ .abs ∧ tc.type ≠ .rep
  | _ => True

/-- The code is not above the largest one of the type, which has a range of codes. -/
def InRange (op : EnableOp) (T : NameTables) : Prop :=
  (op.code.value.toNat : Int) ≤ T.eventTypeGetMax op.type.value.toUInt32

instance (op : EnableOp) (T : NameTables) : Decidable (op.InRange T) :=
  inferInstanceAs (Decidable (_ ≤ _))

end EnableOp

/-! ## A device of bits -/

namespace EnabledBits

/-- The types and codes that were enabled. -/
abbrev Bits := List UInt32 × List (UInt32 × UInt32)

/-- An excerpt of libevdev's tables, with the absolute axes. -/
def tables : NameTables :=
  NameTables.ofEntries (⟨"EV_ABS".toList, 3, 0x3f⟩ :: Sample.types) Sample.codes Sample.properties

/-- `EV_SYN` is there without being enabled. -/
def capabilities : Capabilities Bits where
  libevdevHasEventType := fun _ t s => t = 0 ∨ t ∈ s.1
  libevdevHasEventCode := fun _ t c s => t = 0 ∨ (t, c) ∈ s.2

def enabling : Enabling Bits where
  libevdevEnableEventCode := fun _ t c data s =>
    if (c.toNat : Int) ≤ tables.eventTypeGetMax t ∧ (data ≠ none ↔ t = 3 ∨ t = 0x14) then
      (0, (t :: s.1, (t, c) :: s.2))
    else
      (-1, s)

/-- The world with a device at the address 0 that has nothing enabled. -/
def device : World Bits :=
  (World.init ([], [])).setDevice 0 (some { raw := some 0 })

/-- The numbers of types are not changed by the conversion to `unsigned`. -/
theorem toUInt32_eq_iff (type type' : EventType) :
    type.value.toUInt32 = type'.value.toUInt32 ↔ type = type' := by
  rcases type with ⟨⟨v⟩⟩
  rcases type' with ⟨⟨v'⟩⟩
  simp [UInt16.toUInt32_inj]

theorem accepts_iff (type : EventType) (code : Code) (data : Option EventData) :
    Enabling.Accepts tables type code data ↔
      ((code.value.toUInt32.toNat : Int) ≤ tables.eventTypeGetMax type.value.toUInt32 ∧
        (data ≠ none ↔ type.value.toUInt32 = 3 ∨ type.value.toUInt32 = 0x14)) := by
  have habs : type.value.toUInt32 = 3 ↔ type = .abs := toUInt32_eq_iff type .abs
  have hrep : type.value.toUInt32 = 0x14 ↔ type = .rep := toUInt32_eq_iff type .rep
  simp only [Enabling.Accepts, habs, hrep, UInt16.toNat_toUInt32]

theorem documented : enabling.Documented capabilities tables where
  accepted := by
    intro h type code data s haccepts
    refine ⟨_, if_pos ((accepts_iff type code data).1 haccepts), by simp [capabilities],
      by simp [capabilities], fun type' code' hne => ?_⟩
    have hvalue : type'.value.toUInt32 ≠ type.value.toUInt32 :=
      fun heq => hne ((toUInt32_eq_iff type' type).1 heq)
    simp [capabilities, hvalue]
  refused := by
    intro h type code data s hnot
    have hcall : enabling.libevdevEnableEventCode h type.value.toUInt32 code.value.toUInt32 data s =
        (-1, s) := if_neg fun hacc => hnot ((accepts_iff type code data).2 hacc)
    rw [hcall]
    exact show (-1 : Int) ≠ 0 by decide

end EnabledBits

end Evdevxx
