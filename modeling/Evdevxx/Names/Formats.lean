import Evdevxx.Model.Formats
import Evdevxx.Names.Parsing

/-!
# Formats — what the texts of events, axes and flags determine

A reader of the texts can take them apart again: the names of types and codes are words, so no
delimiter occurs in them, and what is printed for a value without a name is not a name.
-/

namespace Evdevxx

/-- The characters of libevdev's names. -/
def isNameChar (c : Char) : Bool :=
  isUpper c || c.isDigit || c = '_'

/-- The names are words of these characters, different types have different names, and no name
starts with a digit. -/
structure NameTables.Words (T : NameTables) : Prop extends T.NamesCodes where
  typeInjective : ∀ {t t' : UInt16} {name : Text}, T.eventTypeGetName t.toUInt32 = some name →
    T.eventTypeGetName t'.toUInt32 = some name → t = t'
  typeHead : ∀ {t : UInt16} {d : Char} {rest : Text},
    T.eventTypeGetName t.toUInt32 = some (d :: rest) → d.isDigit = false
  typeChars : ∀ {t : UInt16} {name : Text}, T.eventTypeGetName t.toUInt32 = some name →
    ∀ c ∈ name, isNameChar c = true
  codeChars : ∀ {t c : UInt16} {name : Text},
    T.eventCodeGetName t.toUInt32 c.toUInt32 = some name → ∀ d ∈ name, isNameChar d = true

/-! ## Events -/

/-- A number is written with digits and the prefix. -/
theorem not_mem_toHex {d : Char} (hhex : isHexDigit d = false) (hx : d ≠ 'x') (val width : UInt32) :
    d ∉ Detail.toHex val width := by
  have hzero : d ≠ '0' := by
    rintro rfl
    cases hhex
  have hdigits : d ∉ Nat.toDigits 16 val.toNat := by
    intro hmem
    rw [isHexDigit_of_mem_toDigits _ d hmem] at hhex
    cases hhex
  simp only [Detail.toHex, formatHex, hexBase, List.leftpad, List.mem_append, List.mem_replicate]
  rintro (⟨_, hpad⟩ | hprefix | hmem)
  · exact hzero hpad
  · split at hprefix
    · simp only [List.mem_cons, List.not_mem_nil, or_false] at hprefix
      exact hprefix.elim hzero hx
    · cases hprefix
  · exact hdigits hmem

section

variable {T : NameTables} {type type' : EventType} {code code' : Code} {d : Char}

theorem EventType.not_mem_toText (hT : T.Words) (hname : isNameChar d = false)
    (hhex : isHexDigit d = false) (hx : d ≠ 'x') : d ∉ type.toText T := by
  unfold EventType.toText
  cases h : T.eventTypeGetName type.value.toUInt32 with
  | none => exact not_mem_toHex hhex hx _ _
  | some name =>
      intro hmem
      rw [hT.typeChars h d hmem] at hname
      cases hname

theorem not_mem_codeToString (hT : T.Words) (hname : isNameChar d = false)
    (hhex : isHexDigit d = false) (hx : d ≠ 'x') : d ∉ codeToString T type code := by
  unfold codeToString
  cases h : T.eventCodeGetName type.value.toUInt32 code.value.toUInt32 with
  | none => exact not_mem_toHex hhex hx _ _
  | some name =>
      intro hmem
      rw [hT.codeChars h d hmem] at hname
      cases hname

/-- A number does not look like a name. -/
theorem toHex_ne_typeName (hT : T.Words) {t : UInt16} {name : Text}
    (h : T.eventTypeGetName t.toUInt32 = some name) (val width : UInt32) :
    Detail.toHex val width ≠ name := by
  rcases formatHex_head width.toInt32.toInt.toNat val.toNat with ⟨rest, hrest⟩
  intro heq
  have hname : name = '0' :: rest := heq.symm.trans hrest
  rw [hname] at h
  exact absurd (hT.typeHead h) (by decide)

/-- The texts of different types are different. -/
theorem EventType.toText_injective (hT : T.Words) (h : type.toText T = type'.toText T) :
    type = type' := by
  rcases type with ⟨⟨v⟩⟩
  rcases type' with ⟨⟨v'⟩⟩
  suffices hvalue : v = v' by rw [hvalue]
  simp only [EventType.toText] at h
  cases hv : T.eventTypeGetName v.toUInt32 with
  | some name =>
      cases hv' : T.eventTypeGetName v'.toUInt32 with
      | some name' =>
          rw [hv, hv'] at h
          exact hT.typeInjective hv (hv'.trans (congrArg some h.symm))
      | none =>
          rw [hv, hv'] at h
          exact absurd h.symm (toHex_ne_typeName hT hv _ _)
  | none =>
      cases hv' : T.eventTypeGetName v'.toUInt32 with
      | some name' =>
          rw [hv, hv'] at h
          exact absurd h (toHex_ne_typeName hT hv' _ _)
      | none =>
          rw [hv, hv'] at h
          have hnat : v.toUInt32.toNat = v'.toUInt32.toNat := formatHex_injective (by decide) h
          exact UInt16.toUInt32_inj.1 (UInt32.toNat_inj.1 hnat)

theorem Event.eq_of_toText_eq (hT : T.Words) {e e' : Event} (h : e.toText T = e'.toText T) :
    e.type = e'.type ∧ e.code = e'.code ∧ e.value = e'.value := by
  have hcomma : ∀ t : EventType, ',' ∉ t.toText T :=
    fun t => EventType.not_mem_toText hT (by decide) (by decide) (by decide)
  have hspace : ∀ (t : EventType) (c : Code), ' ' ∉ codeToString T t c :=
    fun t c => not_mem_codeToString hT (by decide) (by decide) (by decide)
  -- `", "` ends the name of the type, and `" = "` the name of the code.
  simp only [Event.toText, List.append_assoc] at h
  rcases append_cons_inj (hcomma _) (hcomma _) h with ⟨htype, hrest⟩
  have htype := EventType.toText_injective hT htype
  rcases append_cons_inj (hspace _ _) (hspace _ _) (List.cons.inj hrest).2 with ⟨hcode, hrest⟩
  rw [htype] at hcode
  have hvalue := decimal_injective (List.cons.inj (List.cons.inj hrest).2).2
  exact ⟨htype, codeToString_injective hT.toNamesCodes hcode, Int32.toInt_inj.1 hvalue⟩

/-- The text of an event determines its type, its code and its value. -/
theorem Event.toText_eq_iff (hT : T.Words) (e e' : Event) :
    e.toText T = e'.toText T ↔ e.type = e'.type ∧ e.code = e'.code ∧ e.value = e'.value := by
  constructor
  · exact Event.eq_of_toText_eq hT
  · rintro ⟨htype, hcode, hvalue⟩
    rw [Event.toText, Event.toText, htype, hcode, hvalue]

end

theorem Sample.words : Sample.tables.Words := by
  have htypes : ∀ {t : UInt16} {name : Text}, Sample.tables.eventTypeGetName t.toUInt32 = some name →
      ∃ e ∈ Sample.types, e.type = t ∧ e.name = name := by
    intro t name hname
    rcases Option.map_eq_some_iff.1 hname with ⟨e, hfind, rfl⟩
    have hpred := List.find?_some hfind
    exact ⟨e, List.mem_of_find?_eq_some hfind, UInt16.toUInt32_inj.1 (by simpa using hpred), rfl⟩
  have hentries : ∀ e ∈ Sample.types, e.name.head?.all (fun d => !d.isDigit) = true ∧
      e.name.all isNameChar = true ∧ Sample.tables.eventTypeFromNameN e.name = e.type.toNat := by
    decide
  have hcodes : ∀ e ∈ Sample.codes, e.name.all isNameChar = true := by decide
  refine { Sample.namesCodes with
    typeInjective := fun h h' => ?_, typeHead := fun h => ?_, typeChars := fun h => ?_,
    codeChars := fun h => ?_ }
  · rcases htypes h with ⟨e, he, rfl, rfl⟩
    rcases htypes h' with ⟨e', he', rfl, hsame⟩
    have hnumber := (hentries e he).2.2
    rw [← hsame, (hentries e' he').2.2] at hnumber
    exact UInt16.toNat_inj.1 (Int.ofNat_inj.1 hnumber.symm)
  · rcases htypes h with ⟨e, he, rfl, hhead⟩
    simpa [hhead] using (hentries e he).1
  · rcases htypes h with ⟨e, he, rfl, rfl⟩
    exact List.all_eq_true.1 (hentries e he).2.1
  · rcases Option.map_eq_some_iff.1 h with ⟨e, hfind, rfl⟩
    exact List.all_eq_true.1 (hcodes e (List.mem_of_find?_eq_some hfind))

/-- A key that is pressed and one that is released. -/
theorem Event.toText_eq_iff_released :
    Event.toText Sample.tables ⟨1, 2, ⟨⟨1⟩⟩, ⟨⟨30⟩⟩, 1⟩ =
        Event.toText Sample.tables ⟨1, 3, ⟨⟨1⟩⟩, ⟨⟨30⟩⟩, 0⟩ ↔
      (⟨⟨1⟩⟩ : EventType) = ⟨⟨1⟩⟩ ∧ (⟨⟨30⟩⟩ : Code) = ⟨⟨30⟩⟩ ∧ (1 : Int32) = 0 :=
  Event.toText_eq_iff Sample.words _ _

/-! ## Axes -/

namespace AbsInfo

/-- The text of the information on an axis determines all of it. -/
theorem toText_injective {a b : AbsInfo} (h : a.toText = b.toText) : a = b := by
  unfold toText at h
  simp only [List.append_assoc] at h
  have h := List.append_cancel_left h
  rcases decimal_append_inj ',' (by decide) (by decide) (by decide) h with ⟨hval, h⟩
  rcases decimal_append_inj ',' (by decide) (by decide) (by decide) h with ⟨hmin, h⟩
  rcases decimal_append_inj ',' (by decide) (by decide) (by decide) h with ⟨hmax, h⟩
  rcases decimal_append_inj ',' (by decide) (by decide) (by decide) h with ⟨hfuzz, h⟩
  rcases decimal_append_inj ',' (by decide) (by decide) (by decide) h with ⟨hflat, h⟩
  have hres := decimal_injective (List.append_cancel_right h)
  rcases a with ⟨val, min, max, fuzz, flat, res⟩
  rcases b with ⟨val', min', max', fuzz', flat', res'⟩
  simp only [Int32.toInt_inj] at hval hmin hmax hfuzz hflat hres
  rw [hval, hmin, hmax, hfuzz, hflat, hres]

/-- What is printed for an axis determines what the kernel says about it. -/
theorem toText_ofInput_eq_iff (a b : InputAbsinfo) :
    (ofInput a).toText = (ofInput b).toText ↔ a = b := by
  constructor
  · intro h
    rw [← toInput_ofInput a, toText_injective h, toInput_ofInput]
  · rintro rfl
    rfl

end AbsInfo

/-! ## Read flags -/

namespace ReadFlag

/-- The names of the flags that are set, with a bar between them. -/
def names (normal resync forceSync blocking : Bool) : List Text :=
  (if normal then ["normal".toList] else []) ++ (if resync then ["resync".toList] else []) ++
    (if forceSync then ["force_sync".toList] else []) ++
    (if blocking then ["blocking".toList] else [])

/-- Whether a bit is set. -/
def has (flag bit : ReadFlag) : Bool :=
  decide (flag &&& bit ≠ 0)

theorem append_eq (flag bit : ReadFlag) (name : Text) (s : Text × Text) :
    append flag bit name s = if flag.has bit then (s.1 ++ s.2 ++ name, ['|']) else s := by
  simp [append, has]

/-- The text is the list of the flags that are set. -/
theorem toText_eq (flag : ReadFlag) :
    flag.toText = ['|'].intercalate
      (names (flag.has normal) (flag.has resync) (flag.has forceSync) (flag.has blocking)) := by
  simp only [toText, append_eq]
  cases flag.has normal with
  | _ => cases flag.has resync with
    | _ => cases flag.has forceSync with
      | _ => cases flag.has blocking with
        | _ => decide

/-- Different sets of flags are written differently. -/
theorem names_injective : ∀ a b c d a' b' c' d' : Bool,
    ['|'].intercalate (names a b c d) = ['|'].intercalate (names a' b' c' d') →
      a = a' ∧ b = b' ∧ c = c' ∧ d = d' := by
  decide

/-- A set of bits that has one bit at most. -/
theorem and_twoPow_eq (flag : ReadFlag) (i : Nat) :
    flag &&& BitVec.twoPow 32 i = if flag.has (BitVec.twoPow 32 i) then BitVec.twoPow 32 i else 0 := by
  unfold has
  rw [BitVec.and_twoPow]
  cases flag.getLsbD i with
  | false => simp
  | true =>
      by_cases hzero : BitVec.twoPow 32 i = 0
      · simp [hzero]
      · simp

theorem and_flags_eq (flag : ReadFlag) :
    flag &&& 0xf = (if flag.has resync then resync else 0) ||| (if flag.has normal then normal else 0) |||
      (if flag.has forceSync then forceSync else 0) ||| (if flag.has blocking then blocking else 0) := by
  have hall : (0xf : ReadFlag) = BitVec.twoPow 32 0 ||| BitVec.twoPow 32 1 ||| BitVec.twoPow 32 2 |||
      BitVec.twoPow 32 3 := by decide
  rw [hall, BitVec.and_or_distrib_left, BitVec.and_or_distrib_left, BitVec.and_or_distrib_left,
    and_twoPow_eq, and_twoPow_eq, and_twoPow_eq, and_twoPow_eq]
  rfl

/-- The text of a set of flags determines which of the four it has; the other bits are not written. -/
theorem toText_eq_iff_and_flags (flag flag' : ReadFlag) :
    flag.toText = flag'.toText ↔ flag &&& 0xf = flag' &&& 0xf := by
  constructor
  · intro h
    rw [toText_eq, toText_eq] at h
    rcases names_injective _ _ _ _ _ _ _ _ h with ⟨hnormal, hresync, hforce, hblocking⟩
    rw [and_flags_eq, and_flags_eq, hnormal, hresync, hforce, hblocking]
  · intro h
    have hhas : ∀ bit : ReadFlag, 0xf &&& bit = bit → flag.has bit = flag'.has bit := by
      intro bit hbit
      rw [has, has, ← hbit, ← BitVec.and_assoc, h, BitVec.and_assoc]
    rw [toText_eq, toText_eq, hhas normal (by decide), hhas resync (by decide),
      hhas forceSync (by decide), hhas blocking (by decide)]

end ReadFlag

end Evdevxx
