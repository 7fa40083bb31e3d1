import Mathlib.Algebra.Group.Nat.Defs
import Mathlib.Data.List.TakeWhile
import Evdevxx.Model.Utils

/-!
# Utilities — what `to_hex` writes and what `getline` reads

* `to_hex_iff` — the text is the prefix and the padded digits exactly where no padding is needed:
  the width counts the prefix, and the padding goes to the left of it;
* `getline_splits` — the line and what can still be read are the content that was unread.
-/

namespace Evdevxx

namespace Detail

/-! ## `to_hex` -/

/-- `0x`, if `base` is set, and then at least `width` digits of `val`. -/
def HexText (val width : UInt32) (base : Bool) (text : List Char) : Prop :=
  ∃ digits, text = (if base then ['0', 'x'] else []) ++ digits ∧
    PaddedHex width.toNat val.toNat digits

section Hex

variable {val width : UInt32}

/-- An `unsigned` that fits an `int` is the same number as one. -/
theorem setw_of_lt (h : width.toNat < 2 ^ 31) : width.toInt32.toInt.toNat = width.toNat := by
  have hbits : width.toInt32.toInt = if 2 * width.toNat < 2 ^ 32 then (width.toNat : Int)
      else (width.toNat : Int) - (2 ^ 32 : Nat) := BitVec.toInt_eq_toNat_cond width.toBitVec
  rw [hbits, if_pos (by omega)]
  exact Int.toNat_natCast _

/-- Any other one is a negative `int`. -/
theorem setw_of_le (h : 2 ^ 31 ≤ width.toNat) : width.toInt32.toInt.toNat = 0 := by
  have hbits : width.toInt32.toInt = if 2 * width.toNat < 2 ^ 32 then (width.toNat : Int)
      else (width.toNat : Int) - (2 ^ 32 : Nat) := BitVec.toInt_eq_toNat_cond width.toBitVec
  have hlt := width.toNat_lt
  rw [hbits, if_neg (by omega)]
  omega

theorem setw_le (width : UInt32) : width.toInt32.toInt.toNat ≤ width.toNat := by
  by_cases h : width.toNat < 2 ^ 31
  · exact Nat.le_of_eq (setw_of_lt h)
  · rw [setw_of_le (Nat.le_of_not_lt h)]
    exact Nat.zero_le _

/-- Zero is written without a prefix. -/
theorem not_hexText_zero (width : UInt32) : ¬ HexText 0 width true (toHex 0 width true) := by
  rintro ⟨digits, htext, _⟩
  have hbase : fromBase (toHex 0 width true) = [] := fromBase_formatHex_zero (by decide)
  rw [htext] at hbase
  cases hbase

/-- With a prefix the digits are never padded, so there have to be enough of them. -/
theorem hexText_prefixed_iff (hval : val ≠ 0) :
    HexText val width true (toHex val width true) ↔
      width.toNat ≤ (Nat.toDigits 16 val.toNat).length := by
  have hne : val.toNat ≠ 0 := fun h => hval (UInt32.toNat_inj.1 h)
  constructor
  · rintro ⟨digits, htext, hdigits⟩
    have hbase : fromBase (toHex val width true) = 'x' :: Nat.toDigits 16 val.toNat :=
      fromBase_formatHex (by decide) hne
    rw [htext] at hbase
    have hsame : digits = Nat.toDigits 16 val.toNat := (List.cons.inj hbase).2
    exact hsame ▸ hdigits.enough
  · intro henough
    have hsetw := setw_le width
    have hpad : width.toInt32.toInt.toNat - (Nat.toDigits 16 val.toNat).length - 2 = 0 := by omega
    refine ⟨Nat.toDigits 16 val.toNat, ?_, paddedHex_iff.2 ?_⟩
    · rw [toHex, formatHex_of_ne _ _ hne, hpad]
      rfl
    · exact (leftpad_of_le henough '0').symm

/-- Without a prefix the digits are padded to every width that is an `int`. -/
theorem hexText_plain_iff :
    HexText val width false (toHex val width false) ↔ width.toNat < 2 ^ 31 := by
  constructor
  · rintro ⟨digits, htext, hdigits⟩
    by_cases hlt : width.toNat < 2 ^ 31
    · exact hlt
    · have hunpadded : toHex val width false = Nat.toDigits 16 val.toNat := by
        rw [toHex, formatHex_false, setw_of_le (Nat.le_of_not_lt hlt)]
        exact leftpad_of_le (Nat.zero_le _) '0'
      have hsame : Nat.toDigits 16 val.toNat = digits := hunpadded.symm.trans htext
      have henough := hdigits.enough
      have hfew := length_toDigits_le val
      rw [hsame] at hfew
      omega
  · intro hlt
    refine ⟨(Nat.toDigits 16 val.toNat).leftpad width.toNat '0', ?_, paddedHex_leftpad _ _⟩
    rw [toHex, formatHex_false, setw_of_lt hlt]
    rfl

/-- `to_hex` writes the prefix and the padded digits exactly if no padding is needed: with a prefix,
if `val` is not zero and has `width` digits; without one, if the width is an `int`. -/
theorem to_hex_iff (val width : UInt32) (base : Bool) :
    HexText val width base (toHex val width base) ↔
      (base = true → val ≠ 0 ∧ 16 ^ (width.toNat - 1) ≤ val.toNat) ∧
        (base = false → width.toNat < 2 ^ 31) := by
  cases base with
  | false => simp [hexText_plain_iff]
  | true =>
      by_cases hval : val = 0
      · simp [hval, not_hexText_zero]
      · have hne : val.toNat ≠ 0 := fun h => hval (UInt32.toNat_inj.1 h)
        simp [hval, hexText_prefixed_iff hval, le_length_toDigits_iff hne]

/-- The padding of `5` to the width 4 is written before the prefix: `00x5`. -/
theorem to_hex_pads_before_prefix : ¬ HexText 5 4 true (toHex 5 4 true) := by
  rintro ⟨digits, htext, _⟩
  have hwritten : toHex 5 4 true = ['0', '0', 'x', '5'] := by decide
  rw [hwritten] at htext
  cases htext

end Hex

/-! ## `getline` -/

/-- The line is the longest prefix of `content` without a rejected character, and the stream `s`
still has the rest of it. -/
structure Splits (pred : Char → Bool) (content line : List Char) (s : IStream) : Prop where
  accepted : ∀ c ∈ line, pred c = true
  longest : ∀ p, p <+: content → (∀ c ∈ p, pred c = true) → p <+: line
  lossless : line ++ s.clear.readAll = content
  good : (∃ c ∈ content, pred c = false) → s.good = true

section Getline

variable {pred : Char → Bool} {s : IStream}

/-- A prefix without a rejected character is a prefix of the longest one. -/
theorem prefix_takeWhile {p content : List Char} (hp : p <+: content)
    (hall : ∀ c ∈ p, pred c = true) : p <+: content.takeWhile pred := by
  rcases hp with ⟨rest, rfl⟩
  rw [List.takeWhile_append_of_pos hall]
  exact List.prefix_append _ _

/-- What is unread after `getline` starts with the first rejected character. -/
theorem unread_getline (h : s.good = true) (line : List Char) :
    (getline s line pred).1.unread = s.unread.dropWhile pred := by
  rw [getline_of_good h]
  by_cases hend : s.unread.dropWhile pred = []
  · simp [hend, IStream.atEnd]
  · have hsplit : s.unread.takeWhile pred ++ s.unread.dropWhile pred = s.unread :=
      List.takeWhile_append_dropWhile
    have hdrop : s.unread.drop (s.unread.takeWhile pred).length = s.unread.dropWhile pred :=
      calc s.unread.drop (s.unread.takeWhile pred).length
        _ = (s.unread.takeWhile pred ++ s.unread.dropWhile pred).drop
              (s.unread.takeWhile pred).length := by rw [hsplit]
        _ = s.unread.dropWhile pred := List.drop_left
    simp [hend, IStream.advance, hdrop]

theorem getline_splits (hgood : s.good = true) (line : List Char) (pred : Char → Bool) :
    Splits pred s.unread (getline s line pred).2 (getline s line pred).1 where
  accepted := by
    rw [getline_of_good hgood]
    exact fun c hc => List.mem_takeWhile_imp hc
  longest := by
    rw [getline_of_good hgood]
    exact fun p hp hall => prefix_takeWhile hp hall
  lossless := by
    rw [IStream.readAll_clear, unread_getline hgood, getline_of_good hgood]
    exact List.takeWhile_append_dropWhile
  good := by
    rintro ⟨c, hc, hrejected⟩
    have hmore : s.unread.dropWhile pred ≠ [] := by
      intro hend
      have hcontra : pred c = true := List.dropWhile_eq_nil_iff.1 hend c hc
      rw [hrejected] at hcontra
      cases hcontra
    rw [getline_of_good hgood, if_neg hmore]
    exact IStream.good_advance hgood _

/-- The name of a key, the number after it, and something in `line` before. -/
theorem getline_splits_name :
    Splits Char.isAlpha "KEY 30".toList
      (getline { unread := "KEY 30".toList } ['?'] Char.isAlpha).2
      (getline { unread := "KEY 30".toList } ['?'] Char.isAlpha).1 :=
  getline_splits (s := { unread := "KEY 30".toList }) rfl ['?'] Char.isAlpha

end Getline

end Detail

end Evdevxx
