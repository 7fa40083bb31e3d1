import Evdevxx.Logic.Hex
import Evdevxx.Logic.Stream

/-!
# Utils — the text functions of `evdev::detail`

* `Detail.toHex` — an unsigned integer in base 16;
* `Detail.getline` — the characters up to the first one that a predicate rejects.
-/

namespace Evdevxx

namespace Detail

/-- `detail::to_hex`; `setw` takes an `int`, and a negative width does not pad. -/
def toHex (val : UInt32) (width : UInt32 := 0) (base : Bool := true) : List Char :=
  formatHex base width.toInt32.toInt.toNat '0' val.toNat

/-- `while (input.get(c)) ..`, with what was read so far in `line`. -/
def getlineLoop (pred : Char → Bool) (line : List Char) (input : IStream) :
    IStream × List Char :=
  match _hget : input.get with
  -- No character was stored, so the stream has failed.
  | (none, input) => (input, line)
  | (some c, input) =>
      if ¬ pred c then (input.unget, line) else getlineLoop pred (line ++ [c]) input
termination_by input.unread.length
decreasing_by exact IStream.length_unread_get _hget

/-- `detail::getline`: the stream afterwards, and the new content of `line`. -/
def getline (input : IStream) (_line : List Char) (pred : Char → Bool) : IStream × List Char :=
  -- `line.clear();`
  getlineLoop pred [] input

/-! ## How long the texts of `to_hex` are -/

/-- An `unsigned` has at most eight digits. -/
theorem length_toDigits_le (val : UInt32) : (Nat.toDigits 16 val.toNat).length ≤ 8 :=
  (Nat.length_toDigits_le_iff (by decide) (by decide)).2 val.toNat_lt

/-- The text has the prefix and at most eight digits, or else it is as long as the width says. -/
theorem length_toHex_le (val width : UInt32) (base : Bool) :
    (toHex val width base).length ≤ max width.toInt32.toInt.toNat 10 := by
  have hfew : (Nat.toDigits 16 val.toNat).length ≤ 8 := length_toDigits_le val
  have hbase : (hexBase base val.toNat).length ≤ 2 := by
    unfold hexBase
    split
    · exact Nat.le_refl 2
    · exact Nat.zero_le 2
  simp only [toHex, formatHex, List.leftpad, List.length_append, List.length_replicate]
  omega

/-! ## What `getline` reads -/

variable {pred : Char → Bool} {s : IStream}

theorem getlineLoop_of_nil (h : s.good = true) (hunread : s.unread = []) (line : List Char) :
    getlineLoop pred line s = (s.atEnd, line) := by
  rw [getlineLoop]
  split
  · next s' hget =>
    rw [IStream.get_of_nil h hunread] at hget
    cases hget
    rfl
  · next c s' hget =>
    rw [IStream.get_of_nil h hunread] at hget
    cases hget

theorem getlineLoop_of_cons {c : Char} {rest : List Char} (h : s.good = true)
    (hunread : s.unread = c :: rest) (line : List Char) :
    getlineLoop pred line s =
      if pred c then
        getlineLoop pred (line ++ [c]) { s with consumed := c :: s.consumed, unread := rest }
      else
        (s, line) := by
  rw [getlineLoop]
  split
  · next s' hget =>
    rw [IStream.get_of_cons h hunread] at hget
    cases hget
  · next d s' hget =>
    rw [IStream.get_of_cons h hunread] at hget
    cases hget
    -- The character that is given back is the one that was just read.
    cases hpred : pred c with
    | true => simp
    | false => simp [IStream.unget_of_cons h hunread]

/-- The loop stops before the first rejected character, or fails at the end of the input.  The
induction is on what is unread. -/
theorem getlineLoop_of_good (h : s.good = true) (line : List Char) :
    getlineLoop pred line s =
      (if s.unread.dropWhile pred = [] then s.atEnd
        else s.advance (s.unread.takeWhile pred).length,
        line ++ s.unread.takeWhile pred) := by
  generalize hunread : s.unread = unread
  induction unread generalizing s line with
  | nil => simp [getlineLoop_of_nil h hunread]
  | cons c rest ih =>
      rw [getlineLoop_of_cons h hunread]
      cases hpred : pred c with
      | false => simp [hpred]
      | true =>
          have hrest := ih (s := { s with consumed := c :: s.consumed, unread := rest }) h
            (line ++ [c]) rfl
          simp only [if_true, hrest, List.dropWhile_cons, List.takeWhile_cons, hpred,
            List.length_cons, List.append_assoc, List.singleton_append,
            IStream.atEnd_cons hunread, IStream.advance_cons hunread]

/-- `getline` reads the longest prefix without a rejected character. -/
theorem getline_of_good (h : s.good = true) (line : List Char) :
    getline s line pred =
      (if s.unread.dropWhile pred = [] then s.atEnd
        else s.advance (s.unread.takeWhile pred).length,
        s.unread.takeWhile pred) := by
  have hloop : getlineLoop pred [] s = _ := getlineLoop_of_good h []
  rw [List.nil_append] at hloop
  exact hloop

end Detail

end Evdevxx
