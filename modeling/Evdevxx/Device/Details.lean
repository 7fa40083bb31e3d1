import Evdevxx.Device.Capabilities
import Evdevxx.Model.Details

/-!
# Details — what the queries and the loops over them return

The loops of `get_properties`, `get_types` and `get_codes` return what the device has among all the
numbers there are, in increasing order.
-/

namespace Evdevxx

section Lists

variable {σ : Type} (Q : Capabilities σ) (A : Details σ) (T : NameTables) (h : Handle) (s : σ)

/-- The properties of the device. -/
def Details.properties : List Property :=
  (wordsUpTo (fun n => (⟨⟨UInt32.ofNat n⟩⟩ : Property)) inputPropMax.toNat).filter fun p =>
    A.libevdevHasProperty h p.value s

/-- The types that the device has. -/
def Capabilities.types : List EventType :=
  (wordsUpTo (fun n => (⟨⟨UInt16.ofNat n⟩⟩ : EventType)) evMax.toNat).filter fun t =>
    Q.libevdevHasEventType h t.value.toUInt32 s

/-- The codes of a type that the device has, up to a largest one. -/
def Capabilities.codes (t : EventType) (max : Code) : List Code :=
  (wordsUpTo (fun n => Code.ofNumber (UInt16.ofNat n)) max.value.toNat).filter fun c =>
    Q.libevdevHasEventCode h t.value.toUInt32 c.value.toUInt32 s

variable {Q A T h s}

/-- The words up to a 16-bit number that meet a condition. -/
theorem mem_filter_words {κ : Type} (word : UInt16 → κ) (value : κ → UInt16)
    (hvalue : ∀ v, value (word v) = v) (hword : ∀ c, word (value c) = c) (max : UInt16) (q : κ → Bool)
    (c : κ) : c ∈ (wordsUpTo (fun n => word (UInt16.ofNat n)) max.toNat).filter q ↔
      value c ≤ max ∧ q c = true := by
  have hmem : c ∈ wordsUpTo (fun n => word (UInt16.ofNat n)) max.toNat ↔
      (value c).toNat ≤ max.toNat :=
    mem_wordsUpTo (fun c => (value c).toNat) (fun n hn => value_word_uint16 hvalue hn)
      (fun c => by simp [hword]) c
  rw [List.mem_filter, hmem, UInt16.le_iff_toNat_le]

theorem Capabilities.mem_types (t : EventType) :
    t ∈ Q.types h s ↔ t.value ≤ evMax ∧ Q.libevdevHasEventType h t.value.toUInt32 s = true :=
  mem_filter_words (fun v => (⟨⟨v⟩⟩ : EventType)) (fun t : EventType => t.value) (fun _ => rfl)
    (fun _ => rfl) evMax _ t

theorem Capabilities.mem_codes (t : EventType) (max c : Code) :
    c ∈ Q.codes h s t max ↔ c.value ≤ max.value ∧
      Q.libevdevHasEventCode h t.value.toUInt32 c.value.toUInt32 s = true :=
  mem_filter_words Code.ofNumber (fun c : Code => c.value) (fun _ => rfl) (fun _ => rfl) max.value _ c

end Lists

namespace Device

variable {σ : Type} {Q : Capabilities σ} {A : Details σ} {T : NameTables} {w : World σ}
variable {d : DeviceId} {D : Device} {h : Handle} {type : EventType} {max : Code} {budget : Nat}

theorem query_apply {α : Type} (hD : w.devices d = some D) (hraw : D.raw = some h)
    (ask : Handle → σ → α) : query d ask w = .returned (ask h w.env) w := by
  simp [query, hD, hraw]

theorem noexcept_query_apply {α : Type} (hD : w.devices d = some D) (hraw : D.raw = some h)
    (ask : Handle → σ → α) : Prog.noexcept (query d ask) w = .returned (ask h w.env) w :=
  Prog.noexcept_of_returned (query_apply hD hraw ask)

/-- `get_properties()` does not throw, as no number it asks for is too large. -/
theorem getProperties_apply (hD : w.devices d = some D) (hraw : D.raw = some h)
    (hbudget : inputPropMax.toNat + 1 < budget) :
    getProperties A d budget w = .returned (A.properties h w.env) w := by
  have hcounts : Counts (fun p : UInt32 => decide (p < inputPropCnt)) (· + 1) 0
      (wordsUpTo UInt32.ofNat inputPropMax.toNat) := by
    refine Counts.upTo UInt32.ofNat ?_ ?_
    · intro n _
      rw [UInt32.ofNat_add]
      rfl
    · intro n hn
      have hsmall : n < 2 ^ 32 := Nat.lt_of_le_of_lt hn (by decide)
      refine decide_eq_decide.2 ?_
      rw [UInt32.lt_iff_toNat_lt, UInt32.toNat_ofNat_of_lt' hsmall]
      exact Nat.lt_succ_iff
  have hbody : ∀ p ∈ wordsUpTo UInt32.ofNat inputPropMax.toNat, ∀ result : List Property,
      pushProperty A d p result w = .returned
        (if A.libevdevHasProperty h p w.env then result ++ [⟨⟨p⟩⟩] else result) w := by
    intro p hp result
    have hle : p ≤ inputPropMax := by
      rcases List.mem_map.1 hp with ⟨n, hn, rfl⟩
      have hn : n ≤ 31 := Nat.lt_succ_iff.1 (List.mem_range.1 hn)
      rw [UInt32.le_iff_toNat_le, UInt32.toNat_ofNat_of_lt' (Nat.lt_of_le_of_lt hn (by decide))]
      exact hn
    have hpush := pushIf_apply (p := hasProperty A d) (w := w)
      (fun prop => noexcept_query_apply hD hraw _) ⟨⟨p⟩⟩ result
    simpa [pushProperty, Property.ofNumber_of_le hle, Except.mapError] using hpush
  have hrun := forLoop_counts_of_mem hcounts hbody
    (show (wordsUpTo UInt32.ofNat inputPropMax.toNat).length < budget by
      simpa [wordsUpTo] using hbudget) []
  refine hrun.trans ?_
  have hfold := foldl_pushIf (fun p : Property => A.libevdevHasProperty h p.value w.env)
    ((wordsUpTo UInt32.ofNat inputPropMax.toNat).map fun v => ⟨⟨v⟩⟩) []
  rw [List.foldl_map, List.nil_append] at hfold
  rw [hfold, wordsUpTo, List.map_map]
  rfl

/-- A counting loop over 16-bit numbers returns those that meet the condition. -/
theorem forLoop_words {κ : Type} {p : κ → Op σ Bool} {q : κ → Bool} {max : UInt16}
    (word : UInt16 → κ) (value : κ → UInt16) (hvalue : ∀ v, value (word v) = v)
    (hmax : max ≠ 0xffff) (hp : ∀ c, p c w = .returned (q c) w) (hbudget : max.toNat + 1 < budget) :
    Prog.forLoop (fun c => decide (value c ≤ max)) (fun c => word (value c + 1)) (Prog.pushIf p)
        budget (word 0) [] w =
      .returned ((wordsUpTo (fun n => word (UInt16.ofNat n)) max.toNat).filter q) w := by
  have hlength : (wordsUpTo (fun n => word (UInt16.ofNat n)) max.toNat).length < budget := by
    simpa [wordsUpTo] using hbudget
  have hrun := forLoop_counts (counts_uint16 word hvalue hmax) (fun c x => pushIf_apply hp c x)
    hlength []
  rwa [foldl_pushIf, List.nil_append] at hrun

theorem getTypes_apply (hD : w.devices d = some D) (hraw : D.raw = some h)
    (hbudget : evMax.toNat + 1 < budget) :
    getTypes Q d budget w = .returned (Q.types h w.env) w :=
  forLoop_words (fun v => (⟨⟨v⟩⟩ : EventType)) (fun t : EventType => t.value) (fun _ => rfl)
    (show evMax ≠ 0xffff by decide) (fun t => hasType_apply (Q := Q) t hD hraw) hbudget

theorem getCodesUpTo_apply (hD : w.devices d = some D) (hraw : D.raw = some h)
    (hmax : max.value ≠ 0xffff) (hbudget : max.value.toNat + 1 < budget) :
    getCodesUpTo Q d type max budget w = .returned (Q.codes h w.env type max) w :=
  forLoop_words Code.ofNumber (fun c : Code => c.value) (fun _ => rfl) hmax
    (fun c => hasCode_apply (Q := Q) type c hD hraw) hbudget

/-- The largest code of a type that has a range is the one of the table. -/
theorem max_of_ranged (hQ : Q.Ranged T) (hmax : Code.max T type = .ok max) :
    (max.value.toNat : Int) = T.eventTypeGetMax type.value.toUInt32 ∧ max.value.toNat < 0xffff := by
  unfold Code.max at hmax
  by_cases hrange : T.eventTypeGetMax type.value.toUInt32 = -1
  · simp [hrange] at hmax
  · rcases hQ.maxima _ hrange with ⟨hpos, hlt⟩
    rcases Int.eq_ofNat_of_zero_le hpos with ⟨m, hm⟩
    have hsmall : m < 0xffff := by omega
    have hmod : ((m : Int) % 2 ^ 16).toNat = m := by omega
    have htoNat : (UInt16.ofNat m).toNat = m :=
      UInt16.toNat_ofNat_of_lt' (Nat.lt_trans hsmall (by decide))
    simp only [hm, UInt16.ofInt, hmod] at hmax
    rw [if_neg (by omega)] at hmax
    cases hmax
    exact ⟨(congrArg Nat.cast htoNat).trans hm.symm, htoNat.symm ▸ hsmall⟩

/-- A device has no code above the largest one of the type. -/
theorem mem_codes_of_ranged (hQ : Q.Ranged T) (hmax : Code.max T type = .ok max) {s : σ} (c : Code) :
    c ∈ Q.codes h s type max ↔
      Q.libevdevHasEventCode h type.value.toUInt32 c.value.toUInt32 s = true := by
  rw [Capabilities.mem_codes]
  refine ⟨fun hc => hc.2, fun hhas => ⟨?_, hhas⟩⟩
  have hle := hQ.codes _ _ _ _ hhas
  rw [← (max_of_ranged hQ hmax).1, UInt16.toNat_toUInt32] at hle
  exact UInt16.le_iff_toNat_le.2 (Int.ofNat_le.1 hle)

/-- `get_codes(type)` returns what the type has up to its largest code, or throws what `Code::max`
throws. -/
theorem getCodes_apply (type : EventType) (hQ : Q.Ranged T) (hD : w.devices d = some D)
    (hraw : D.raw = some h) (hbudget : 0x10000 ≤ budget) :
    getCodes Q T d type budget w =
      match Code.max T type with
      | .error e => .threw (.std e) w
      | .ok max => .returned (Q.codes h w.env type max) w := by
  unfold getCodes
  cases hmax : Code.max T type with
  | error e => rfl
  | ok max =>
      have hlt := (max_of_ranged hQ hmax).2
      have hne : max.value ≠ 0xffff := fun heq => absurd (heq ▸ hlt) (by decide)
      exact getCodesUpTo_apply hD hraw hne (by omega)

/-- `get_abs_info(code)` returns the range of the axis, or throws if there is none. -/
theorem getAbsInfo_apply (hD : w.devices d = some D) (hraw : D.raw = some h) (code : Code) :
    getAbsInfo A d code w =
      match A.libevdevGetAbsInfo h code.value.toUInt32 w.env with
      | none => .threw (.std (.runtimeError "libevdev_get_abs_info() failed.")) w
      | some info => .returned (AbsInfo.ofInput info) w := by
  rw [getAbsInfo, Prog.bind_apply, query_apply hD hraw, Outcome.returned_andThen]
  cases A.libevdevGetAbsInfo h code.value.toUInt32 w.env with
  | none => rfl
  | some info => rfl

end Device

end Evdevxx
