import Evdevxx.Model.Property

/-!
# Sample — name tables from lists of entries

`NameTables.ofEntries` looks names and values up in lists, as libevdev does; for a value with
several names the first entry has the canonical one and the others are aliases.  `Sample.tables` is
an excerpt of libevdev's tables.
-/

namespace Evdevxx

/-- A name, the value it stands for, and the largest code of the type (`-1` if it has none). -/
structure TypeEntry where
  name : Text
  type : UInt16
  max : Int

structure CodeEntry where
  name : Text
  type : UInt16
  code : UInt16

structure PropertyEntry where
  name : Text
  property : UInt32

/-- A value that was looked up, `-1` if it was not found. -/
def foundOr {α : Type} (value : α → Int) (entry : Option α) : Int :=
  match entry with
  | some e => value e
  | none => -1

def NameTables.ofEntries (types : List TypeEntry) (codes : List CodeEntry)
    (properties : List PropertyEntry) : NameTables where
  eventTypeGetName := fun t => (types.find? (·.type.toUInt32 = t)).map (·.name)
  eventTypeFromNameN := fun n => foundOr (fun e => (e.type.toNat : Int)) (types.find? (·.name = n))
  eventTypeGetMax := fun t => foundOr (·.max) (types.find? (·.type.toUInt32 = t))
  eventCodeGetName := fun t c =>
    (codes.find? fun e => e.type.toUInt32 = t ∧ e.code.toUInt32 = c).map (·.name)
  eventCodeFromCodeNameN := fun n =>
    foundOr (fun e => (e.code.toNat : Int)) (codes.find? (·.name = n))
  eventTypeFromCodeNameN := fun n =>
    foundOr (fun e => (e.type.toNat : Int)) (codes.find? (·.name = n))
  propertyGetName := fun v => (properties.find? (·.property = v)).map (·.name)
  propertyFromNameN := fun n =>
    foundOr (fun e => (e.property.toNat : Int)) (properties.find? (·.name = n))

namespace Sample

def types : List TypeEntry :=
  [⟨"EV_SYN".toList, 0, 0xf⟩, ⟨"EV_KEY".toList, 1, 0x2ff⟩, ⟨"EV_REL".toList, 2, 0xf⟩,
    ⟨"EV_PWR".toList, 0x16, -1⟩]

def codes : List CodeEntry :=
  [⟨"SYN_REPORT".toList, 0, 0⟩, ⟨"KEY_A".toList, 1, 30⟩, ⟨"BTN_SOUTH".toList, 1, 0x130⟩,
    ⟨"BTN_A".toList, 1, 0x130⟩, ⟨"REL_X".toList, 2, 0⟩]

def properties : List PropertyEntry :=
  [⟨"INPUT_PROP_POINTER".toList, 0⟩, ⟨"INPUT_PROP_DIRECT".toList, 1⟩]

def tables : NameTables :=
  NameTables.ofEntries types codes properties

end Sample

/-- What was found is an entry of the list, under the name that was looked up. -/
theorem mem_of_foundOr {α : Type} {value : α → Int} {name : α → Text} {entries : List α} {n : Text}
    (h : foundOr value (entries.find? (name · = n)) ≠ -1) :
    ∃ e ∈ entries, name e = n ∧ entries.find? (name · = n) = some e := by
  cases hfind : entries.find? (name · = n) with
  | none => simp [foundOr, hfind] at h
  | some e =>
      exact ⟨e, List.mem_of_find?_eq_some hfind, by simpa using List.find?_some hfind, rfl⟩

end Evdevxx
