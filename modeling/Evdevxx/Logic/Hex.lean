import Mathlib.Algebra.Group.Nat.Defs
import Mathlib.Data.List.Basic

/-!
# Hex — how an output stream formats an unsigned integer in base 16

`formatHex` is what `<<` writes for an unsigned integer under `std::hex`, in the classic locale and
with the default adjustment: the lowercase digits, the prefix `0x` under `showbase` (none for zero,
as `%#x` does), and the fill character on the left of both up to the width.

* `hexValue` reads digits back, so that the digits determine the number;
* `paddedHex_leftpad` — digits padded with zeros are lowercase digits of the same number;
* `formatHex_injective` — the texts with a prefix are different for different numbers, at any width;
* `formatHex_head` — padded with zeros, they all start with the digit `0`.
-/

namespace Evdevxx

/-! ## Digits -/

/-- The value of a lowercase hexadecimal digit. -/
def digitValue (c : Char) : Nat :=
  if c.isDigit then c.toNat - '0'.toNat else c.toNat - 'a'.toNat + 10

/-- The number that hexadecimal digits denote. -/
def hexValue (digits : List Char) : Nat :=
  digits.foldl (fun n c => 16 * n + digitValue c) 0

theorem digitValue_digitChar {d : Nat} (hd : d < 16) : digitValue d.digitChar = d := by
  have hall : ∀ d : Fin 16, digitValue d.val.digitChar = d.val := by decide
  exact hall ⟨d, hd⟩

theorem hexValue_append_singleton (digits : List Char) (c : Char) :
    hexValue (digits ++ [c]) = 16 * hexValue digits + digitValue c := by
  simp [hexValue]

/-- The digits of a number denote it. -/
theorem hexValue_toDigits (n : Nat) : hexValue (Nat.toDigits 16 n) = n := by
  induction n using Nat.strongRecOn with
  | ind n ih =>
      by_cases hn : n < 16
      · rw [Nat.toDigits_of_lt_base hn]
        simp [hexValue, digitValue_digitChar hn]
      · -- The last digit is the remainder, and those before it are the digits of the quotient.
        have hle : 16 ≤ n := Nat.le_of_not_lt hn
        have hquot : n / 16 < n := Nat.div_lt_self (by omega) (by decide)
        rw [Nat.toDigits_of_base_le (by decide) hle, hexValue_append_singleton, ih _ hquot,
          digitValue_digitChar (Nat.mod_lt n (by decide))]
        exact Nat.div_add_mod n 16

theorem toDigits_injective {m n : Nat} (h : Nat.toDigits 16 m = Nat.toDigits 16 n) : m = n := by
  calc m = hexValue (Nat.toDigits 16 m) := (hexValue_toDigits m).symm
    _ = hexValue (Nat.toDigits 16 n) := by rw [h]
    _ = n := hexValue_toDigits n

/-- `0` to `9`, or `a` to `f`. -/
def isHexDigit (c : Char) : Bool :=
  c.isDigit ∨ ('a' ≤ c ∧ c ≤ 'f')

theorem isHexDigit_digitChar {d : Nat} (hd : d < 16) : isHexDigit d.digitChar = true := by
  have hall : ∀ d : Fin 16, isHexDigit d.val.digitChar = true := by decide
  exact hall ⟨d, hd⟩

theorem isHexDigit_of_mem_toDigits (n : Nat) :
    ∀ c ∈ Nat.toDigits 16 n, isHexDigit c = true := by
  induction n using Nat.strongRecOn with
  | ind n ih =>
      intro c hc
      by_cases hn : n < 16
      · rw [Nat.toDigits_of_lt_base hn, List.mem_singleton] at hc
        exact hc ▸ isHexDigit_digitChar hn
      · have hle : 16 ≤ n := Nat.le_of_not_lt hn
        rw [Nat.toDigits_of_base_le (by decide) hle, List.mem_append, List.mem_singleton] at hc
        rcases hc with hc | rfl
        · exact ih _ (Nat.div_lt_self (by omega) (by decide)) c hc
        · exact isHexDigit_digitChar (Nat.mod_lt n (by decide))

/-- A positive number has at least `w` digits from `16 ^ (w - 1)` on. -/
theorem le_length_toDigits_iff {n : Nat} (hn : n ≠ 0) (w : Nat) :
    w ≤ (Nat.toDigits 16 n).length ↔ 16 ^ (w - 1) ≤ n := by
  rcases w with _ | _ | w
  · exact iff_of_true (Nat.zero_le _) (Nat.pos_of_ne_zero hn)
  · exact iff_of_true Nat.length_toDigits_pos (Nat.pos_of_ne_zero hn)
  · have hfewer : (Nat.toDigits 16 n).length ≤ w + 1 ↔ n < 16 ^ (w + 1) :=
      Nat.length_toDigits_le_iff (by decide) (Nat.succ_pos w)
    rw [Nat.add_sub_cancel, Nat.succ_le_iff, ← Nat.not_le, hfewer, Nat.not_lt]

theorem hexValue_replicate_append (k : Nat) (digits : List Char) :
    hexValue (List.replicate k '0' ++ digits) = hexValue digits := by
  induction k with
  | zero => rfl
  | succ k ih => exact ih

/-- A text that is long enough is not padded. -/
theorem leftpad_of_le {width : Nat} {text : List Char} (h : width ≤ text.length) (fill : Char) :
    text.leftpad width fill = text := by
  rw [List.leftpad, Nat.sub_eq_zero_of_le h]
  rfl

/-- At least `width` lowercase digits of `n`, with zeros on the left where `n` needs fewer. -/
structure PaddedHex (width n : Nat) (digits : List Char) : Prop where
  enough : width ≤ digits.length
  lowercase : ∀ c ∈ digits, isHexDigit c = true
  denotes : hexValue digits = n
  padded : digits = (Nat.toDigits 16 n).leftpad width '0'

theorem paddedHex_leftpad (width n : Nat) :
    PaddedHex width n ((Nat.toDigits 16 n).leftpad width '0') where
  enough := by
    simp only [List.leftpad, List.length_append, List.length_replicate]
    omega
  lowercase := by
    intro c hc
    rcases List.mem_append.1 hc with hzero | hdigit
    · rw [List.eq_of_mem_replicate hzero]
      rfl
    · exact isHexDigit_of_mem_toDigits n c hdigit
  denotes := by
    rw [List.leftpad, hexValue_replicate_append, hexValue_toDigits]
  padded := rfl

theorem paddedHex_iff {width n : Nat} {digits : List Char} :
    PaddedHex width n digits ↔ digits = (Nat.toDigits 16 n).leftpad width '0' := by
  constructor
  · exact fun h => h.padded
  · rintro rfl
    exact paddedHex_leftpad width n

/-! ## Formatting -/

/-- The prefix that `showbase` writes. -/
def hexBase (showbase : Bool) (n : Nat) : List Char :=
  if showbase ∧ n ≠ 0 then ['0', 'x'] else []

/-- `out << n` under `std::hex`, with the given flag, width and fill character. -/
def formatHex (showbase : Bool) (width : Nat) (fill : Char) (n : Nat) : List Char :=
  (hexBase showbase n ++ Nat.toDigits 16 n).leftpad width fill

section

variable {width : Nat} {fill : Char} {n : Nat}

theorem formatHex_zero (showbase : Bool) (width : Nat) (fill : Char) :
    formatHex showbase width fill 0 = List.replicate (width - 1) fill ++ ['0'] := by
  simp [formatHex, hexBase, List.leftpad]

theorem formatHex_of_ne (width : Nat) (fill : Char) (hn : n ≠ 0) :
    formatHex true width fill n =
      List.replicate (width - (Nat.toDigits 16 n).length - 2) fill ++
        '0' :: 'x' :: Nat.toDigits 16 n := by
  simp [formatHex, hexBase, List.leftpad, hn, Nat.sub_sub]

theorem formatHex_false (width : Nat) (fill : Char) (n : Nat) :
    formatHex false width fill n = (Nat.toDigits 16 n).leftpad width fill := by
  simp [formatHex, hexBase]

/-- What follows the padding and the `0` of the prefix. -/
def fromBase (text : List Char) : List Char :=
  text.dropWhile (· ≠ 'x')

theorem fromBase_replicate_append (hfill : fill ≠ 'x') (k : Nat) (text : List Char) :
    fromBase (List.replicate k fill ++ text) = fromBase text := by
  refine List.dropWhile_append_of_pos fun c hc => ?_
  rw [List.eq_of_mem_replicate hc]
  exact decide_eq_true hfill

theorem fromBase_formatHex_zero (hfill : fill ≠ 'x') :
    fromBase (formatHex true width fill 0) = [] := by
  rw [formatHex_zero, fromBase_replicate_append hfill]
  rfl

theorem fromBase_formatHex (hfill : fill ≠ 'x') (hn : n ≠ 0) :
    fromBase (formatHex true width fill n) = 'x' :: Nat.toDigits 16 n := by
  rw [formatHex_of_ne width fill hn, fromBase_replicate_append hfill]
  rfl

/-- Only zero has no prefix, and the digits after the prefix determine the number. -/
theorem formatHex_injective (hfill : fill ≠ 'x') {m n : Nat}
    (h : formatHex true width fill m = formatHex true width fill n) : m = n := by
  have hbase : fromBase (formatHex true width fill m) = fromBase (formatHex true width fill n) := by
    rw [h]
  by_cases hm : m = 0
  · by_cases hn : n = 0
    · rw [hm, hn]
    · rw [hm, fromBase_formatHex_zero hfill, fromBase_formatHex hfill hn] at hbase
      cases hbase
  · by_cases hn : n = 0
    · rw [hn, fromBase_formatHex_zero hfill, fromBase_formatHex hfill hm] at hbase
      cases hbase
    · rw [fromBase_formatHex hfill hm, fromBase_formatHex hfill hn] at hbase
      exact toDigits_injective (List.cons.inj hbase).2

/-- The first character is a `0`: of the padding, of the prefix, or the only digit of zero. -/
theorem formatHex_head (width n : Nat) : ∃ rest, formatHex true width '0' n = '0' :: rest := by
  have hpad : ∀ k tail, ∃ rest, List.replicate k '0' ++ '0' :: tail = '0' :: rest := by
    intro k tail
    cases k with
    | zero => exact ⟨tail, rfl⟩
    | succ k => exact ⟨List.replicate k '0' ++ '0' :: tail, rfl⟩
  by_cases hn : n = 0
  · rw [hn, formatHex_zero]
    exact hpad _ []
  · rw [formatHex_of_ne width '0' hn]
    exact hpad _ _

end

end Evdevxx
