import Evdevxx.Model.Capabilities
import Evdevxx.Model.Sample
import Evdevxx.Model.Scripted
import Evdevxx.Device.Evaluation

/-!
# Capabilities — what `get_types` and `get_codes` list

* `get_codes_iff` — the loop over the codes ends for every bound but the largest 16-bit number;
* `capabilities_listed_iff` — every listed type can have its codes listed exactly if all types the
  device advertises have a code range.
-/

namespace Evdevxx

namespace Device

variable {σ : Type} {Q : Capabilities σ} {T : NameTables} {w : World σ} {d : DeviceId}

/-- An object lives at `d`, and it has a handle. -/
def Valid (w : World σ) (d : DeviceId) : Prop :=
  ∃ D h, w.devices d = some D ∧ D.raw = some h

/-- `has(type)` returns true. -/
def HasType (Q : Capabilities σ) (w : World σ) (d : DeviceId) (type : EventType) : Prop :=
  hasType Q d type w = .returned true w

/-- `has(type, code)` returns true. -/
def HasCode (Q : Capabilities σ) (w : World σ) (d : DeviceId) (type : EventType) (code : Code) :
    Prop :=
  hasCode Q d type code w = .returned true w

/-- The loop `list` ends within some budget, and with every larger one, without changing anything.
It returns, in increasing order and each once, the elements that meet `p`. -/
def Lists {κ : Type} (list : Nat → Op σ (List κ)) (w : World σ) (value : κ → UInt16)
    (p : κ → Prop) : Prop :=
  ∃ enough result, (∀ budget, enough ≤ budget → list budget w = .returned result w) ∧
    (result.Pairwise fun c c' => value c < value c') ∧ ∀ c, c ∈ result ↔ p c

/-! ## The queries -/

section Queries

variable {D : Device} {h : Handle} (type : EventType) (code : Code)

theorem hasType_apply (hD : w.devices d = some D) (hraw : D.raw = some h) :
    hasType Q d type w =
      .returned (Q.libevdevHasEventType h type.value.toUInt32 w.env) w := by
  apply Prog.noexcept_of_returned
  simp [hD, hraw]

theorem hasCode_apply (hD : w.devices d = some D) (hraw : D.raw = some h) :
    hasCode Q d type code w =
      .returned (Q.libevdevHasEventCode h type.value.toUInt32 code.value.toUInt32 w.env) w := by
  apply Prog.noexcept_of_returned
  simp [hD, hraw]

theorem hasType_iff (hD : w.devices d = some D) (hraw : D.raw = some h) :
    HasType Q w d type ↔ Q.libevdevHasEventType h type.value.toUInt32 w.env = true := by
  simp [HasType, hasType_apply type hD hraw]

theorem hasCode_iff (hD : w.devices d = some D) (hraw : D.raw = some h) :
    HasCode Q w d type code ↔
      Q.libevdevHasEventCode h type.value.toUInt32 code.value.toUInt32 w.env = true := by
  simp [HasCode, hasCode_apply type code hD hraw]

/-- Every query on something that is not a valid device is undefined. -/
theorem undefined_of_not_valid (hnot : ¬ Valid w d) :
    hasType Q d type w = .undefined ∧ hasCode Q d type code w = .undefined := by
  cases hD : w.devices d with
  | none => simp [hasType, hasCode, Prog.noexcept, hD]
  | some D =>
      cases hraw : D.raw with
      | none => simp [hasType, hasCode, Prog.noexcept, hD, hraw]
      | some h => exact absurd ⟨D, h, hD, hraw⟩ hnot

end Queries

/-! ## Loops over 16-bit numbers -/

section Loops

variable {κ : Type} {max : UInt16} {p : κ → Op σ Bool} {q : κ → Bool}

/-- A loop up to any bound but the largest number lists what meets the condition. -/
theorem lists_of_loop (word : UInt16 → κ) (value : κ → UInt16)
    (hvalue : ∀ v, value (word v) = v) (hword : ∀ c, word (value c) = c)
    (hmax : max ≠ 0xffff) (hp : ∀ c, p c w = .returned (q c) w) :
    Lists (fun budget => Prog.forLoop (fun c => decide (value c ≤ max))
        (fun c => word (value c + 1)) (Prog.pushIf p) budget (word 0) []) w value
      (fun c => value c ≤ max ∧ q c = true) := by
  let words := wordsUpTo (fun n => word (UInt16.ofNat n)) max.toNat
  refine ⟨words.length + 1, words.filter q, fun budget hbudget => ?_, ?_, fun c => ?_⟩
  · have hrun := forLoop_counts (counts_uint16 word hvalue hmax) (fun c x => pushIf_apply hp c x)
      (Nat.lt_of_succ_le hbudget) []
    rw [foldl_pushIf, List.nil_append] at hrun
    exact hrun
  · exact pairwise_wordsUpTo (fun c => (value c).toNat)
      (fun n hn => value_word_uint16 hvalue hn) q
  · have hmem : c ∈ words ↔ (value c).toNat ≤ max.toNat :=
      mem_wordsUpTo (fun c => (value c).toNat) (fun n hn => value_word_uint16 hvalue hn)
        (fun c => by simp [hword]) c
    rw [List.mem_filter, hmem]
    exact and_congr_left fun _ => UInt16.le_iff_toNat_le.symm

/-- A loop that lists something can make its first query. -/
theorem Lists.first_defined {cond : κ → Bool} {next : κ → κ} {start : κ} {value : κ → UInt16}
    {r : κ → Prop}
    (hlists : Lists (fun budget => Prog.forLoop cond next (Prog.pushIf p) budget start []) w value r)
    (hcond : cond start = true) : p start w ≠ .undefined := by
  rcases hlists with ⟨enough, result, hret, _⟩
  intro hp
  exact forLoop_undefined hcond (fun x => pushIf_undefined hp x) enough [] result w
    (hret enough (Nat.le_refl _))

end Loops

/-! ## `get_codes(type, max)` -/

/-- `get_codes(type, max)` ends and lists the codes up to `max` that the device has. -/
def ListsCodesUpTo (Q : Capabilities σ) (w : World σ) (d : DeviceId) (type : EventType)
    (max : Code) : Prop :=
  Lists (getCodesUpTo Q d type max) w (·.value)
    fun c => c.value ≤ max.value ∧ HasCode Q w d type c

section Codes

variable {type : EventType} {max : Code}

theorem lists_codes_of_valid (hvalid : Valid w d) (hmax : max.value ≠ 0xffff) :
    ListsCodesUpTo Q w d type max := by
  rcases hvalid with ⟨D, h, hD, hraw⟩
  have hlists := lists_of_loop Code.ofNumber (fun c : Code => c.value) (fun _ => rfl)
    (fun _ => rfl) hmax (fun c => hasCode_apply (Q := Q) type c hD hraw)
  simp only [ListsCodesUpTo, hasCode_iff type _ hD hraw]
  exact hlists

/-- Up to the largest code the counter wraps around, and the loop does not end. -/
theorem getCodesUpTo_endless (hvalid : Valid w d) (budget : Nat) :
    getCodesUpTo Q d type ⟨⟨0xffff⟩⟩ budget w = .exhausted := by
  rcases hvalid with ⟨D, h, hD, hraw⟩
  exact forLoop_endless (fun c => decide_eq_true (le_of_max_uint16 c.value))
    (fun c x => pushIf_apply (fun c => hasCode_apply (Q := Q) type c hD hraw) c x) budget _ _

/-- `get_codes(type, max)` lists the codes up to `max` exactly if the device is valid and `max` is
not the largest 16-bit number. -/
theorem get_codes_iff (Q : Capabilities σ) (w : World σ) (d : DeviceId) (type : EventType)
    (max : Code) : ListsCodesUpTo Q w d type max ↔ Valid w d ∧ max.value ≠ 0xffff := by
  constructor
  · intro hlists
    have hvalid : Valid w d := by
      by_contra hnot
      have hzero : (Code.ofNumber 0).value ≤ max.value := UInt16.zero_le
      exact Lists.first_defined hlists (decide_eq_true hzero)
        (undefined_of_not_valid type (Code.ofNumber 0) hnot).2
    refine ⟨hvalid, fun hmax => ?_⟩
    have hsame : max = ⟨⟨0xffff⟩⟩ := by
      rcases max with ⟨⟨v⟩⟩
      cases hmax
      rfl
    rcases hlists with ⟨enough, result, hret, _⟩
    have hend := hret enough (Nat.le_refl _)
    rw [hsame, getCodesUpTo_endless hvalid] at hend
    cases hend
  · intro hcond
    exact lists_codes_of_valid hcond.1 hcond.2

/-- A keyboard, asked for all codes. -/
theorem get_codes_endless :
    ¬ ListsCodesUpTo (Capabilities.ofBits [0, 1] [(1, 30)]) (Script.withDevice {}) 0 ⟨⟨1⟩⟩
        ⟨⟨0xffff⟩⟩ := by
  rintro ⟨enough, result, hret, _⟩
  have hvalid : Valid (Script.withDevice {}) 0 := ⟨{ raw := some 0 }, 0, rfl, rfl⟩
  have hend := hret enough (Nat.le_refl _)
  rw [getCodesUpTo_endless hvalid] at hend
  cases hend

end Codes

/-! ## `get_types()` and `get_codes(type)` -/

/-- `get_types()` lists the types that the device has, and `get_codes(type)` lists, for each of
them, the codes that it has. -/
structure ListsCapabilities (Q : Capabilities σ) (T : NameTables) (w : World σ) (d : DeviceId) :
    Prop where
  types : Lists (getTypes Q d) w (·.value) fun t => t.value ≤ evMax ∧ HasType Q w d t
  codes : ∀ t : EventType, t.value ≤ evMax → HasType Q w d t →
    Lists (getCodes Q T d t) w (·.value) fun c => HasCode Q w d t c

end Device

/-- A device has no code above the maximum of its type, and none of a type without a range, whose
maximum is `-1`; every other maximum is a 16-bit number, and not the largest. -/
structure Capabilities.Ranged {σ : Type} (Q : Capabilities σ) (T : NameTables) : Prop where
  codes : ∀ h t c s, Q.libevdevHasEventCode h t c s = true → (c.toNat : Int) ≤ T.eventTypeGetMax t
  maxima : ∀ t, T.eventTypeGetMax t ≠ -1 → 0 ≤ T.eventTypeGetMax t ∧ T.eventTypeGetMax t < 0xffff

namespace Device

section Listing

variable {σ : Type} {Q : Capabilities σ} {T : NameTables} {w : World σ} {d : DeviceId}
variable {type : EventType}

theorem Lists.congr {κ : Type} {list : Nat → Op σ (List κ)} {value : κ → UInt16} {p q : κ → Prop}
    (hlists : Lists list w value p) (h : ∀ c, p c ↔ q c) : Lists list w value q := by
  rcases hlists with ⟨enough, result, hret, hsorted, hmem⟩
  exact ⟨enough, result, hret, hsorted, fun c => (hmem c).trans (h c)⟩

theorem lists_types_of_valid (hvalid : Valid w d) :
    Lists (getTypes Q d) w (·.value) fun t => t.value ≤ evMax ∧ HasType Q w d t := by
  rcases hvalid with ⟨D, h, hD, hraw⟩
  have hlists := lists_of_loop (fun v => (⟨⟨v⟩⟩ : EventType)) (fun t : EventType => t.value)
    (fun _ => rfl) (fun _ => rfl) (show evMax ≠ 0xffff by decide)
    (fun t => hasType_apply (Q := Q) t hD hraw)
  simp only [hasType_iff _ hD hraw]
  exact hlists

/-- A type without a range has no maximum, and its codes cannot be listed. -/
theorem getCodes_of_no_range (hrange : T.eventTypeGetMax type.value.toUInt32 = -1) (budget : Nat) :
    getCodes Q T d type budget w =
      .threw (.std (.invalidArgument
        ("bad event type: " ++ String.ofList (type.toText T)))) w := by
  simp [getCodes, Code.max, hrange]

/-- The codes of a type with a range are all listed. -/
theorem lists_codes_of_range (hQ : Q.Ranged T) (hvalid : Valid w d)
    (hrange : T.eventTypeGetMax type.value.toUInt32 ≠ -1) :
    Lists (getCodes Q T d type) w (·.value) fun c => HasCode Q w d type c := by
  rcases hQ.maxima _ hrange with ⟨hpos, hlt⟩
  rcases Int.eq_ofNat_of_zero_le hpos with ⟨m, hm⟩
  have hsmall : m < 0xffff := by omega
  have hword : UInt16.ofInt (T.eventTypeGetMax type.value.toUInt32) = UInt16.ofNat m := by
    have hmod : ((m : Int) % 2 ^ 16).toNat = m := by omega
    rw [hm, UInt16.ofInt, hmod]
  have htoNat : (UInt16.ofNat m).toNat = m :=
    UInt16.toNat_ofNat_of_lt' (Nat.lt_trans hsmall (by decide))
  have hmax : (Code.ofNumber (UInt16.ofNat m)).value ≠ 0xffff := by
    intro heq
    have hnat := congrArg UInt16.toNat heq
    simp only [Code.ofNumber, htoNat] at hnat
    exact absurd hnat (Nat.ne_of_lt hsmall)
  have hsame : getCodes Q T d type = getCodesUpTo Q d type (Code.ofNumber (UInt16.ofNat m)) := by
    funext budget
    simp [getCodes, Code.max, hrange, hword]
  rw [hsame]
  refine Lists.congr (lists_codes_of_valid hvalid hmax) fun c => ?_
  refine ⟨fun hc => hc.2, fun hc => ⟨?_, hc⟩⟩
  -- A code that the device has is not above the maximum.
  rcases hvalid with ⟨D, h, hD, hraw⟩
  have hle := hQ.codes _ _ _ _ ((hasCode_iff type c hD hraw).1 hc)
  rw [hm] at hle
  rw [UInt16.le_iff_toNat_le]
  simp only [Code.ofNumber, htoNat]
  simpa using hle

/-- The listing is complete exactly if the device is valid and every type it advertises has a code
range. -/
theorem capabilities_listed_iff (hQ : Q.Ranged T) (w : World σ) (d : DeviceId) :
    ListsCapabilities Q T w d ↔
      Valid w d ∧ ∀ t : EventType, t.value ≤ evMax → HasType Q w d t →
        T.eventTypeGetMax t.value.toUInt32 ≠ -1 := by
  constructor
  · intro hlists
    have hvalid : Valid w d := by
      by_contra hnot
      have hzero : (⟨⟨0⟩⟩ : EventType).value ≤ evMax := by decide
      exact Lists.first_defined hlists.types (decide_eq_true hzero)
        (undefined_of_not_valid ⟨⟨0⟩⟩ ⟨⟨0⟩⟩ hnot).1
    refine ⟨hvalid, fun t ht hhas hrange => ?_⟩
    rcases hlists.codes t ht hhas with ⟨enough, result, hret, _⟩
    have hend := hret enough (Nat.le_refl _)
    rw [getCodes_of_no_range hrange] at hend
    cases hend
  · rintro ⟨hvalid, hranges⟩
    exact ⟨lists_types_of_valid hvalid,
      fun t ht hhas => lists_codes_of_range hQ hvalid (hranges t ht hhas)⟩

theorem ranged_of_bits {types : List UInt32} {codes : List (UInt32 × UInt32)}
    (hcodes : ∀ e ∈ codes, (e.2.toNat : Int) ≤ Sample.tables.eventTypeGetMax e.1) :
    (Capabilities.ofBits types codes : Capabilities Script).Ranged Sample.tables where
  codes := by
    intro h t c s hhas
    exact hcodes (t, c) (List.contains_iff_mem.1 hhas)
  maxima := by
    intro t hrange
    have hentries : ∀ e ∈ Sample.types, e.max ≠ -1 → 0 ≤ e.max ∧ e.max < 0xffff := by decide
    simp only [Sample.tables, NameTables.ofEntries] at hrange ⊢
    cases hfind : Sample.types.find? (·.type.toUInt32 = t) with
    | none => simp [foundOr, hfind] at hrange
    | some e =>
        simp only [foundOr, hfind] at hrange ⊢
        exact hentries e (List.mem_of_find?_eq_some hfind) hrange

/-- A keyboard. -/
theorem capabilities_listed_iff_keyboard :
    ListsCapabilities (Capabilities.ofBits [0, 1] [(1, 30)]) Sample.tables
        (Script.withDevice {}) 0 ↔
      Valid (Script.withDevice {}) 0 ∧ ∀ t : EventType, t.value ≤ evMax →
        HasType (Capabilities.ofBits [0, 1] [(1, 30)]) (Script.withDevice {}) 0 t →
          Sample.tables.eventTypeGetMax t.value.toUInt32 ≠ -1 :=
  capabilities_listed_iff (ranged_of_bits (List.forall_mem_singleton.2 (by decide))) _ _

/-- A device that advertises `EV_PWR`, which has no codes. -/
theorem power_button_not_listed :
    ¬ ListsCapabilities (Capabilities.ofBits [0, 1, 0x16] [(1, 30)]) Sample.tables
        (Script.withDevice {}) 0 := by
  intro hlists
  have hhas : HasType (Capabilities.ofBits [0, 1, 0x16] [(1, 30)]) (Script.withDevice {}) 0
      ⟨⟨0x16⟩⟩ := by
    rfl
  rcases hlists.codes ⟨⟨0x16⟩⟩ (by decide) hhas with ⟨enough, result, hret, _⟩
  have hend := hret enough (Nat.le_refl _)
  rw [getCodes_of_no_range (by decide)] at hend
  cases hend

end Listing

end Device

end Evdevxx
