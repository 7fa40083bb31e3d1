import Evdevxx.Model.Sample

/-!
# Parsing — what the named constructors return and store

* `parse_position_iff` — `pos` gets the length of the name that is printed for the result, so it is
  the number of characters parsed exactly if the argument is as long as the canonical name;
* `code_names_unambiguous` — the texts of the codes of a type are different, and those that are
  names parse back.
-/

namespace Evdevxx

/-! ## The position -/

/-- Every name stands for a value, and every such value has one canonical name; there may be other
names for it. -/
structure NameTables.Canonical (T : NameTables) : Prop where
  type : ∀ name, T.eventTypeFromNameN name ≠ -1 → ∃ (t : UInt16) (canon : Text),
    T.eventTypeFromNameN name = t.toNat ∧ T.eventTypeGetName t.toUInt32 = some canon ∧
      T.eventTypeFromNameN canon = t.toNat
  code : ∀ name, T.eventCodeFromCodeNameN name ≠ -1 → ∃ (t c : UInt16) (canon : Text),
    T.eventTypeFromCodeNameN name = t.toNat ∧ T.eventCodeFromCodeNameN name = c.toNat ∧
      T.eventCodeGetName t.toUInt32 c.toUInt32 = some canon ∧
      T.eventTypeFromCodeNameN canon = t.toNat ∧ T.eventCodeFromCodeNameN canon = c.toNat
  property : ∀ name, T.propertyFromNameN name ≠ -1 → ∃ (v : UInt32) (canon : Text),
    T.propertyFromNameN name = v.toNat ∧ T.propertyGetName v = some canon ∧
      T.propertyFromNameN canon = v.toNat

/-- The canonical name of the type that `name` stands for. -/
def NameTables.canonicalTypeName (T : NameTables) (name : Text) : Option Text :=
  T.eventTypeGetName (UInt16.ofInt (T.eventTypeFromNameN name)).toUInt32

/-- The canonical name of the code that `name` stands for. -/
def NameTables.canonicalCodeName (T : NameTables) (name : Text) : Option Text :=
  T.eventCodeGetName (UInt16.ofInt (T.eventTypeFromCodeNameN name)).toUInt32
    (UInt16.ofInt (T.eventCodeFromCodeNameN name)).toUInt32

/-- The canonical name of the property that `name` stands for. -/
def NameTables.canonicalPropertyName (T : NameTables) (name : Text) : Option Text :=
  T.propertyGetName (UInt32.ofInt (T.propertyFromNameN name))

/-- What was stored through `pos` is the number of characters of `name`, all of which were
parsed. -/
def PositionRight (name : Text) (pos : Option Nat) : Prop :=
  ∃ n, pos = some n ∧ n ≤ name.length ∧ n = name.length

/-- The name is as long as the canonical one. -/
def AsLongAs (canon : Option Text) (name : Text) : Prop :=
  ∃ c, canon = some c ∧ c.length = name.length

theorem positionRight_iff {canon name : Text} :
    PositionRight name (some canon.length) ↔ AsLongAs (some canon) name := by
  constructor
  · rintro ⟨n, hpos, _, hn⟩
    cases hpos
    exact ⟨canon, rfl, hn⟩
  · rintro ⟨c, hcanon, hlen⟩
    cases hcanon
    exact ⟨canon.length, rfl, Nat.le_of_eq hlen, hlen⟩

section Position

variable {T : NameTables} {name : Text} {pos pos' : Option Nat}

theorem EventType.parse_returned {type : EventType}
    (h : EventType.parse T name pos = .returned type pos') :
    T.eventTypeFromNameN name ≠ -1 ∧ type = ⟨⟨UInt16.ofInt (T.eventTypeFromNameN name)⟩⟩ ∧
      pos' = pos.map fun _ => (type.toText T).length := by
  by_cases hnum : T.eventTypeFromNameN name = -1
  · simp [EventType.parse, hnum] at h
  · by_cases htype : UInt16.ofInt (T.eventTypeFromNameN name) ≤ evMax
    · simp [EventType.parse, hnum, EventType.ofNumber_of_le htype] at h
      rcases h with ⟨rfl, rfl⟩
      exact ⟨hnum, rfl, rfl⟩
    · simp [EventType.parse, hnum, EventType.ofNumber_of_gt htype] at h

theorem Code.parse_returned {type : EventType} {code : Code}
    (h : Code.parse T name pos = .returned (type, code) pos') :
    T.eventCodeFromCodeNameN name ≠ -1 ∧
      type = ⟨⟨UInt16.ofInt (T.eventTypeFromCodeNameN name)⟩⟩ ∧
      code = ⟨⟨UInt16.ofInt (T.eventCodeFromCodeNameN name)⟩⟩ ∧
      pos' = pos.map fun _ => (codeToString T type code).length := by
  by_cases hcode : T.eventCodeFromCodeNameN name = -1
  · simp [Code.parse, hcode] at h
  · by_cases hnum : T.eventTypeFromCodeNameN name = -1
    · simp [Code.parse, hcode, hnum] at h
    · by_cases htype : UInt16.ofInt (T.eventTypeFromCodeNameN name) ≤ evMax
      · simp [Code.parse, hcode, hnum, EventType.ofNumber_of_le htype, Code.ofNumber] at h
        rcases h with ⟨⟨rfl, rfl⟩, rfl⟩
        exact ⟨hcode, rfl, rfl, rfl⟩
      · simp [Code.parse, hcode, hnum, EventType.ofNumber_of_gt htype] at h

theorem Property.parse_returned {prop : Property}
    (h : Property.parse T name pos = .returned prop pos') :
    T.propertyFromNameN name ≠ -1 ∧ prop = ⟨⟨UInt32.ofInt (T.propertyFromNameN name)⟩⟩ ∧
      pos' = pos.map fun _ => (prop.toText T).length := by
  by_cases hval : T.propertyFromNameN name = -1
  · simp [Property.parse, hval] at h
  · by_cases hv : UInt32.ofInt (T.propertyFromNameN name) ≤ inputPropMax
    · simp [Property.parse, hval, Property.ofNumber_of_le hv] at h
      rcases h with ⟨rfl, rfl⟩
      exact ⟨hval, rfl, rfl⟩
    · have hgt : UInt32.ofInt (T.propertyFromNameN name) > inputPropMax := by simpa using hv
      simp [Property.parse, hval, Property.ofNumber, hgt] at h

/-- Wherever a parse function returns, the position is the number of characters of its argument
exactly if the argument is as long as the canonical name. -/
theorem parse_position_iff (hT : T.Canonical) (name : Text) (n₀ : Nat) :
    (∀ type pos, EventType.parse T name (some n₀) = .returned type pos →
      (PositionRight name pos ↔ AsLongAs (T.canonicalTypeName name) name)) ∧
    (∀ result pos, Code.parse T name (some n₀) = .returned result pos →
      (PositionRight name pos ↔ AsLongAs (T.canonicalCodeName name) name)) ∧
    (∀ prop pos, Property.parse T name (some n₀) = .returned prop pos →
      (PositionRight name pos ↔ AsLongAs (T.canonicalPropertyName name) name)) := by
  refine ⟨fun type pos hret => ?_, fun result pos hret => ?_, fun prop pos hret => ?_⟩
  · rcases EventType.parse_returned hret with ⟨hknown, rfl, rfl⟩
    rcases hT.type name hknown with ⟨t, canon, ht, hcanon, _⟩
    have hprinted : EventType.toText T ⟨⟨t⟩⟩ = canon := EventType.toText_of_some hcanon
    simp only [NameTables.canonicalTypeName, ht, ofInt_toNat16, hcanon, hprinted, Option.map_some]
    exact positionRight_iff
  · rcases result with ⟨type, code⟩
    rcases Code.parse_returned hret with ⟨hknown, rfl, rfl, rfl⟩
    rcases hT.code name hknown with ⟨t, c, canon, ht, hc, hcanon, _⟩
    have hprinted : codeToString T ⟨⟨t⟩⟩ ⟨⟨c⟩⟩ = canon := codeToString_of_some hcanon
    simp only [NameTables.canonicalCodeName, ht, hc, ofInt_toNat16, hcanon, hprinted,
      Option.map_some]
    exact positionRight_iff
  · rcases Property.parse_returned hret with ⟨hknown, rfl, rfl⟩
    rcases hT.property name hknown with ⟨v, canon, hv, hcanon, _⟩
    have hprinted : Property.toText T ⟨⟨v⟩⟩ = canon := Property.toText_of_some hcanon
    simp only [NameTables.canonicalPropertyName, hv, ofInt_toNat32, hcanon, hprinted,
      Option.map_some]
    exact positionRight_iff

end Position

theorem Sample.canonical : Sample.tables.Canonical where
  type := by
    intro name hknown
    rcases mem_of_foundOr hknown with ⟨e, hmem, rfl, hfind⟩
    have hentries : ∀ e ∈ Sample.types, Sample.tables.eventTypeFromNameN e.name = e.type.toNat ∧
        Sample.tables.eventTypeGetName e.type.toUInt32 = some e.name := by decide
    exact ⟨e.type, e.name, (hentries e hmem).1, (hentries e hmem).2, (hentries e hmem).1⟩
  code := by
    intro name hknown
    rcases mem_of_foundOr hknown with ⟨e, hmem, rfl, hfind⟩
    have hentries : ∀ e ∈ Sample.codes, ∃ canon ∈ Sample.codes.map (·.name),
        Sample.tables.eventTypeFromCodeNameN e.name = e.type.toNat ∧
        Sample.tables.eventCodeFromCodeNameN e.name = e.code.toNat ∧
        Sample.tables.eventCodeGetName e.type.toUInt32 e.code.toUInt32 = some canon ∧
        Sample.tables.eventTypeFromCodeNameN canon = e.type.toNat ∧
        Sample.tables.eventCodeFromCodeNameN canon = e.code.toNat := by decide
    rcases hentries e hmem with ⟨canon, _, hcanon⟩
    exact ⟨e.type, e.code, canon, hcanon⟩
  property := by
    intro name hknown
    rcases mem_of_foundOr hknown with ⟨e, hmem, rfl, hfind⟩
    have hentries : ∀ e ∈ Sample.properties,
        Sample.tables.propertyFromNameN e.name = e.property.toNat ∧
        Sample.tables.propertyGetName e.property = some e.name := by decide
    exact ⟨e.property, e.name, (hentries e hmem).1, (hentries e hmem).2, (hentries e hmem).1⟩

/-- A type, a code and a property under their canonical names. -/
theorem parse_position_iff_canonical :
    (PositionRight "EV_KEY".toList (some 6) ↔
      AsLongAs (Sample.tables.canonicalTypeName "EV_KEY".toList) "EV_KEY".toList) ∧
    (PositionRight "BTN_SOUTH".toList (some 9) ↔
      AsLongAs (Sample.tables.canonicalCodeName "BTN_SOUTH".toList) "BTN_SOUTH".toList) ∧
    (PositionRight "INPUT_PROP_DIRECT".toList (some 17) ↔
      AsLongAs (Sample.tables.canonicalPropertyName "INPUT_PROP_DIRECT".toList)
        "INPUT_PROP_DIRECT".toList) := by
  refine ⟨?_, ?_, ?_⟩
  · exact (parse_position_iff Sample.canonical "EV_KEY".toList 0).1 ⟨⟨1⟩⟩ (some 6) (by decide)
  · exact (parse_position_iff Sample.canonical "BTN_SOUTH".toList 0).2.1 (⟨⟨1⟩⟩, ⟨⟨0x130⟩⟩) (some 9)
      (by decide)
  · exact (parse_position_iff Sample.canonical "INPUT_PROP_DIRECT".toList 0).2.2 ⟨⟨1⟩⟩ (some 17)
      (by decide)

/-- `BTN_A` is another name for `BTN_SOUTH`, which is longer. -/
theorem alias_position_wrong :
    Code.parse Sample.tables "BTN_A".toList (some 0) =
        .returned (⟨⟨1⟩⟩, ⟨⟨0x130⟩⟩) (some 9) ∧
      ¬ PositionRight "BTN_A".toList (some 9) := by
  refine ⟨by decide, ?_⟩
  rintro ⟨n, hpos, hle, _⟩
  cases hpos
  exact absurd hle (by decide)

/-! ## The names of codes -/

/-- The canonical names of the codes of a type are different, do not start with a digit, and are
mapped back to the type and the code. -/
structure NameTables.NamesCodes (T : NameTables) : Prop where
  injective : ∀ {t c c' : UInt16} {name : Text},
    T.eventCodeGetName t.toUInt32 c.toUInt32 = some name →
      T.eventCodeGetName t.toUInt32 c'.toUInt32 = some name → c = c'
  head : ∀ {t c : UInt16} {d : Char} {rest : Text},
    T.eventCodeGetName t.toUInt32 c.toUInt32 = some (d :: rest) → d.isDigit = false
  code : ∀ {t c : UInt16} {name : Text},
    T.eventCodeGetName t.toUInt32 c.toUInt32 = some name →
      T.eventCodeFromCodeNameN name = c.toNat
  type : ∀ {t c : UInt16} {name : Text},
    T.eventCodeGetName t.toUInt32 c.toUInt32 = some name →
      T.eventTypeFromCodeNameN name = t.toNat

section Codes

variable {T : NameTables} {type : EventType} {code : Code} {name : Text}

/-- The numbers of different codes are written differently. -/
theorem toHex_injective {c c' : UInt16}
    (h : Detail.toHex c.toUInt32 3 = Detail.toHex c'.toUInt32 3) : c = c' := by
  have hnat : c.toUInt32.toNat = c'.toUInt32.toNat := formatHex_injective (by decide) h
  exact UInt16.toUInt32_inj.1 (UInt32.toNat_inj.1 hnat)

/-- A name is not taken for a number. -/
theorem toHex_ne_name (hT : T.NamesCodes) {t c c' : UInt16}
    (hname : T.eventCodeGetName t.toUInt32 c.toUInt32 = some name) :
    Detail.toHex c'.toUInt32 3 ≠ name := by
  rcases formatHex_head (3 : UInt32).toNat c'.toUInt32.toNat with ⟨rest, hrest⟩
  have hhex : Detail.toHex c'.toUInt32 3 = '0' :: rest := hrest
  intro heq
  rw [← heq, hhex] at hname
  exact absurd (hT.head hname) (by decide)

theorem codeToString_injective (hT : T.NamesCodes) {c c' : Code}
    (h : codeToString T type c = codeToString T type c') : c = c' := by
  have hvalue : c.value = c'.value := by
    cases hc : T.eventCodeGetName type.value.toUInt32 c.value.toUInt32 with
    | some n =>
        rw [codeToString_of_some hc] at h
        cases hc' : T.eventCodeGetName type.value.toUInt32 c'.value.toUInt32 with
        | some n' =>
            rw [codeToString_of_some hc'] at h
            exact hT.injective hc (h ▸ hc')
        | none =>
            rw [codeToString_of_none hc'] at h
            exact absurd h.symm (toHex_ne_name hT hc)
    | none =>
        rw [codeToString_of_none hc] at h
        cases hc' : T.eventCodeGetName type.value.toUInt32 c'.value.toUInt32 with
        | some n' =>
            rw [codeToString_of_some hc'] at h
            exact absurd h (toHex_ne_name hT hc')
        | none =>
            rw [codeToString_of_none hc'] at h
            exact toHex_injective h
  rcases c with ⟨⟨v⟩⟩
  rcases c' with ⟨⟨v'⟩⟩
  cases hvalue
  rfl

/-- The name of a code of an existing type is parsed to this type and code. -/
theorem parse_codeToString (hT : T.NamesCodes) (htype : type.value ≤ evMax)
    (hname : T.eventCodeGetName type.value.toUInt32 code.value.toUInt32 = some name)
    (pos : Option Nat) :
    Code.parse T (codeToString T type code) pos =
      .returned (type, code) (pos.map fun _ => (codeToString T type code).length) := by
  have hcode : ¬ (code.value.toNat : Int) = -1 := by omega
  have hnum : ¬ (type.value.toNat : Int) = -1 := by omega
  have hprinted := codeToString_of_some hname
  rw [hprinted]
  simp [Code.parse, hT.code hname, hT.type hname, hcode, hnum, ofInt_toNat16, Code.ofNumber,
    EventType.ofNumber_of_le htype, hprinted]

/-- The texts of different codes of a type are different, and where libevdev has a name for a code
this name is parsed to the type and the code, with its whole length; the assertion holds. -/
theorem code_names_unambiguous (hT : T.NamesCodes) (type : EventType) :
    (∀ c c' : Code, c ≠ c' → codeToString T type c ≠ codeToString T type c') ∧
    (type.value ≤ evMax → ∀ (c : Code) (name : Text),
      T.eventCodeGetName type.value.toUInt32 c.value.toUInt32 = some name → ∀ n₀,
        Code.parse T (codeToString T type c) (some n₀) =
          .returned (type, c) (some (codeToString T type c).length)) := by
  refine ⟨fun c c' hne heq => hne (codeToString_injective hT heq), fun htype c name hname n₀ => ?_⟩
  exact parse_codeToString hT htype hname (some n₀)

end Codes

theorem Sample.namesCodes : Sample.tables.NamesCodes := by
  have hmem : ∀ {t c : UInt16} {name : Text},
      Sample.tables.eventCodeGetName t.toUInt32 c.toUInt32 = some name →
        ∃ e ∈ Sample.codes, e.type = t ∧ e.code = c ∧ e.name = name := by
    intro t c name hname
    rcases Option.map_eq_some_iff.1 hname with ⟨e, hfind, rfl⟩
    have hpred := List.find?_some hfind
    simp only [Bool.decide_and, Bool.and_eq_true, decide_eq_true_eq] at hpred
    exact ⟨e, List.mem_of_find?_eq_some hfind, UInt16.toUInt32_inj.1 hpred.1,
      UInt16.toUInt32_inj.1 hpred.2, rfl⟩
  have hentries : ∀ e ∈ Sample.codes,
      e.name.head?.all (fun d => !d.isDigit) = true ∧
        Sample.tables.eventCodeFromCodeNameN e.name = e.code.toNat ∧
        Sample.tables.eventTypeFromCodeNameN e.name = e.type.toNat := by decide
  refine ⟨fun hc hc' => ?_, fun hname => ?_, fun hname => ?_, fun hname => ?_⟩
  · rcases hmem hc with ⟨e, he, rfl, rfl, rfl⟩
    rcases hmem hc' with ⟨e', he', _, rfl, hsame⟩
    -- Both codes are what the name is mapped to.
    have hcode := (hentries e he).2.1
    rw [← hsame, (hentries e' he').2.1] at hcode
    exact UInt16.toNat_inj.1 (Int.ofNat_inj.1 hcode.symm)
  · rcases hmem hname with ⟨e, he, rfl, rfl, hhead⟩
    simpa [hhead] using (hentries e he).1
  · rcases hmem hname with ⟨e, he, rfl, rfl, rfl⟩
    exact (hentries e he).2.1
  · rcases hmem hname with ⟨e, he, rfl, rfl, rfl⟩
    exact (hentries e he).2.2

/-- The codes of `EV_KEY`. -/
theorem code_names_unambiguous_key :
    (∀ c c' : Code, c ≠ c' →
      codeToString Sample.tables ⟨⟨1⟩⟩ c ≠ codeToString Sample.tables ⟨⟨1⟩⟩ c') ∧
    ∀ (c : Code) (name : Text),
      Sample.tables.eventCodeGetName (1 : UInt16).toUInt32 c.value.toUInt32 = some name → ∀ n₀,
        Code.parse Sample.tables (codeToString Sample.tables ⟨⟨1⟩⟩ c) (some n₀) =
          .returned (⟨⟨1⟩⟩, c) (some (codeToString Sample.tables ⟨⟨1⟩⟩ c).length) := by
  rcases code_names_unambiguous Sample.namesCodes ⟨⟨1⟩⟩ with ⟨hdistinct, hparsed⟩
  exact ⟨hdistinct, hparsed (by decide)⟩

end Evdevxx
