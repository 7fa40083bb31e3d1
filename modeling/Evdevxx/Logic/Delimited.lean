import Mathlib.Data.List.Basic

/-!
# Delimited — texts that can be taken apart again

A text made of parts and delimiters determines its parts if no delimiter occurs in the part before
it.

* `append_cons_inj` — the part before the first delimiter, and what follows it;
* `terminated` — parts with a delimiter behind each;
* `decimal` — integers in base 10.
-/

namespace Evdevxx

universe u

section

variable {α : Type u} {c : α} {xs ys : List (List α)}

/-- The first delimiter is where the parts before it end. -/
theorem append_cons_inj {a b r s : List α} (ha : c ∉ a) (hb : c ∉ b)
    (h : a ++ c :: r = b ++ c :: s) : a = b ∧ r = s := by
  induction a generalizing b with
  | nil =>
      cases b with
      | nil => exact ⟨rfl, (List.cons.inj h).2⟩
      | cons y b => exact absurd (List.cons.inj h).1 (fun heq => hb (heq ▸ List.mem_cons_self))
  | cons x a ih =>
      cases b with
      | nil => exact absurd (List.cons.inj h).1 (fun heq => ha (heq ▸ List.mem_cons_self))
      | cons y b =>
          rcases List.cons.inj h with ⟨rfl, htail⟩
          rcases ih (fun hc => ha (List.mem_cons_of_mem _ hc))
            (fun hc => hb (List.mem_cons_of_mem _ hc)) htail with ⟨rfl, hrest⟩
          exact ⟨rfl, hrest⟩

/-- Parts with a delimiter behind each of them. -/
def terminated (c : α) (xs : List (List α)) : List α :=
  xs.flatMap fun x => x ++ [c]

theorem terminated_cons (x : List α) (xs : List (List α)) :
    terminated c (x :: xs) = x ++ c :: terminated c xs := by
  simp [terminated]

/-- Parts without the delimiter are determined. -/
theorem terminated_injective (hx : ∀ x ∈ xs, c ∉ x) (hy : ∀ y ∈ ys, c ∉ y)
    (h : terminated c xs = terminated c ys) : xs = ys := by
  induction xs generalizing ys with
  | nil =>
      cases ys with
      | nil => rfl
      | cons y ys => simp [terminated] at h
  | cons x xs ih =>
      cases ys with
      | nil => simp [terminated] at h
      | cons y ys =>
          rw [terminated_cons, terminated_cons] at h
          rcases append_cons_inj (hx x List.mem_cons_self) (hy y List.mem_cons_self) h with
            ⟨rfl, hrest⟩
          rw [ih (fun z hz => hx z (List.mem_cons_of_mem _ hz))
            (fun z hz => hy z (List.mem_cons_of_mem _ hz)) hrest]

end

/-! ## Numbers -/

/-- An integer in base 10, as `std::to_string` writes it. -/
def decimal : Int → List Char
  | .ofNat n => Nat.toDigits 10 n
  | .negSucc n => '-' :: Nat.toDigits 10 (n + 1)

theorem isDigit_or_minus_of_mem_decimal {n : Int} {c : Char} (h : c ∈ decimal n) :
    c.isDigit = true ∨ c = '-' := by
  cases n with
  | ofNat n => exact Or.inl (Nat.isDigit_of_mem_toDigits (by decide) (by decide) h)
  | negSucc n =>
      rcases List.mem_cons.1 h with hminus | hdigit
      · exact Or.inr hminus
      · exact Or.inl (Nat.isDigit_of_mem_toDigits (by decide) (by decide) hdigit)

theorem not_mem_decimal {n : Int} {c : Char} (hdigit : c.isDigit = false) (hminus : c ≠ '-') :
    c ∉ decimal n := by
  intro h
  rcases isDigit_or_minus_of_mem_decimal h with hbad | hbad
  · rw [hdigit] at hbad
    cases hbad
  · exact hminus hbad

theorem toDigits_ten_injective {m n : Nat} (h : Nat.toDigits 10 m = Nat.toDigits 10 n) : m = n := by
  rw [← @Nat.ofDigitChars_ten_toDigits m, h, Nat.ofDigitChars_ten_toDigits]

/-- No number that is not negative has a sign. -/
theorem toDigits_ten_ne_minus (m n : Nat) : Nat.toDigits 10 m ≠ '-' :: Nat.toDigits 10 n := by
  intro h
  have hminus : '-' ∈ Nat.toDigits 10 m := by
    rw [h]
    exact List.mem_cons_self
  exact absurd (Nat.isDigit_of_mem_toDigits (by decide) (by decide) hminus) (by decide)

theorem decimal_injective {m n : Int} (h : decimal m = decimal n) : m = n := by
  cases m with
  | ofNat m =>
      cases n with
      | ofNat n => rw [toDigits_ten_injective h]
      | negSucc n => exact absurd h (toDigits_ten_ne_minus m (n + 1))
  | negSucc m =>
      cases n with
      | ofNat n => exact absurd h.symm (toDigits_ten_ne_minus n (m + 1))
      | negSucc n =>
          have hsucc := toDigits_ten_injective (List.cons.inj h).2
          rw [Nat.succ.inj hsucc]

/-- A number ends where a delimiter begins that is neither a digit nor a sign. -/
theorem decimal_append_inj {m n : Int} {sep r s : List Char} (c : Char) (hsep : sep.head? = some c)
    (hdigit : c.isDigit = false) (hminus : c ≠ '-')
    (h : decimal m ++ (sep ++ r) = decimal n ++ (sep ++ s)) : m = n ∧ r = s := by
  rcases List.head?_eq_some_iff.1 hsep with ⟨tail, rfl⟩
  rcases append_cons_inj (not_mem_decimal hdigit hminus) (not_mem_decimal hdigit hminus) h with
    ⟨hnumber, hrest⟩
  exact ⟨decimal_injective hnumber, List.append_cancel_left hrest⟩

end Evdevxx
