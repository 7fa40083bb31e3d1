import Mathlib.Data.List.Basic
import Evdevxx.Logic.Outcome

/-!
# Loop — counting loops over machine words

`for (c = c₀; cond(c); c = next(c)) x = body(c, x);` with a budget on the number of iterations;
`Prog.exhausted` is what happens when it is used up.  The counter is whatever type the program has,
with the program's own comparison and successor, so that a counter that wraps around is one.

* `Counts` — the values the counter takes until the condition fails;
* `forLoop_counts`, `forLoop_counts_of_mem` — a loop whose counter stops is a fold over these values;
* `forLoop_endless` — a loop whose condition never fails uses up every budget;
* `Counts.upTo` — a machine word that does not wrap counts as a number does;
* `counts_uint16` — which bounds a 16-bit counter reaches.
-/

namespace Evdevxx

universe u

variable {ε ω κ α : Type u}

namespace Prog

def forLoop (cond : κ → Bool) (next : κ → κ) (body : κ → α → Prog ε ω α) :
    Nat → κ → α → Prog ε ω α
  | 0, _, _ => exhausted
  | budget + 1, c, x =>
      if cond c then do
        let x ← body c x
        forLoop cond next body budget (next c) x
      else
        pure x

/-- `if (p(c)) result.push_back(c);` -/
def pushIf {ε ω κ : Type} (p : κ → Prog ε ω Bool) (c : κ) (result : List κ) :
    Prog ε ω (List κ) := do
  if ← p c then pure (result ++ [c]) else pure result

end Prog

/-- Starting at `c`, the counter takes the values `cs` until the condition fails. -/
inductive Counts (cond : κ → Bool) (next : κ → κ) : κ → List κ → Prop where
  | stop {c : κ} : cond c = false → Counts cond next c []
  | more {c : κ} {cs : List κ} :
      cond c = true → Counts cond next (next c) cs → Counts cond next c (c :: cs)

/-- The numbers up to `m`, as machine words. -/
def wordsUpTo (word : Nat → κ) (m : Nat) : List κ :=
  (List.range (m + 1)).map word

section

variable {cond : κ → Bool} {next : κ → κ} {body : κ → α → Prog ε ω α} {f : α → κ → α} {w : ω}

/-- A loop over `cs` is a fold over `cs` if its body does nothing else for any of them, and any budget
above their number suffices. -/
theorem forLoop_counts_of_mem {c : κ} {cs : List κ} (hcounts : Counts cond next c cs)
    (hbody : ∀ c ∈ cs, ∀ x, body c x w = .returned (f x c) w) {budget : Nat}
    (hbudget : cs.length < budget) (x : α) :
    Prog.forLoop cond next body budget c x w = .returned (cs.foldl f x) w := by
  induction hcounts generalizing budget x with
  | stop hcond =>
      cases budget with
      | zero => exact absurd hbudget (Nat.not_lt_zero _)
      | succ budget => simp [Prog.forLoop, hcond]
  | @more c cs hcond _ ih =>
      cases budget with
      | zero => exact absurd hbudget (Nat.not_lt_zero _)
      | succ budget =>
          rcases List.forall_mem_cons.1 hbody with ⟨hfirst, hothers⟩
          have hrest := ih hothers (Nat.lt_of_succ_lt_succ hbudget) (f x c)
          simpa [Prog.forLoop, hcond, hfirst] using hrest

/-- A loop over `cs` is a fold over `cs`, and any budget above their number suffices. -/
theorem forLoop_counts {c : κ} {cs : List κ} (hcounts : Counts cond next c cs)
    (hbody : ∀ c x, body c x w = .returned (f x c) w) {budget : Nat} (hbudget : cs.length < budget)
    (x : α) : Prog.forLoop cond next body budget c x w = .returned (cs.foldl f x) w :=
  forLoop_counts_of_mem hcounts (fun c _ => hbody c) hbudget x

/-- A condition that never fails uses up every budget. -/
theorem forLoop_endless (hcond : ∀ c, cond c = true)
    (hbody : ∀ c x, body c x w = .returned (f x c) w) (budget : Nat) (c : κ) (x : α) :
    Prog.forLoop cond next body budget c x w = .exhausted := by
  induction budget generalizing c x with
  | zero => rfl
  | succ budget ih =>
      simpa [Prog.forLoop, hcond, hbody] using ih (next c) (f x c)

/-- A loop whose body cannot run does not return, unless its condition fails at once. -/
theorem forLoop_undefined {c : κ} (hcond : cond c = true)
    (hbody : ∀ x, body c x w = .undefined) (budget : Nat) (x y : α) (w' : ω) :
    Prog.forLoop cond next body budget c x w ≠ .returned y w' := by
  cases budget with
  | zero => simp [Prog.forLoop]
  | succ budget => simp [Prog.forLoop, hcond, hbody]

/-- As long as it does not wrap, a machine word counts as a number does. -/
theorem Counts.upTo (word : Nat → κ) {m : Nat}
    (hnext : ∀ n, n ≤ m → next (word n) = word (n + 1))
    (hcond : ∀ n, n ≤ m + 1 → cond (word n) = decide (n ≤ m)) :
    Counts cond next (word 0) (wordsUpTo word m) := by
  -- The induction is on how many numbers are left, for the loop started at any `k`.
  have hfrom : ∀ left k, k + left = m + 1 →
      Counts cond next (word k) ((List.range' k left).map word) := by
    intro left
    induction left with
    | zero =>
        intro k hk
        refine Counts.stop ?_
        rw [hcond k (Nat.le_of_eq hk)]
        exact decide_eq_false (by omega)
    | succ left ih =>
        intro k hk
        have hle : k ≤ m := by omega
        refine Counts.more ?_ ?_
        · rw [hcond k (Nat.le_succ_of_le hle)]
          exact decide_eq_true hle
        · rw [hnext k hle]
          exact ih (k + 1) (by omega)
  have hall := hfrom (m + 1) 0 (Nat.zero_add _)
  rwa [← List.range_eq_range'] at hall

end

section

variable {ε ω κ : Type} {p : κ → Prog ε ω Bool} {q : κ → Bool} {w : ω} {word : Nat → κ} {m : Nat}

theorem pushIf_apply (hp : ∀ c, p c w = .returned (q c) w) (c : κ) (result : List κ) :
    Prog.pushIf p c result w = .returned (if q c then result ++ [c] else result) w := by
  cases hq : q c with
  | true => simp [Prog.pushIf, hp, hq]
  | false => simp [Prog.pushIf, hp, hq]

theorem pushIf_undefined {c : κ} (hp : p c w = .undefined) (result : List κ) :
    Prog.pushIf p c result w = .undefined := by
  simp [Prog.pushIf, hp]

/-- Pushing the values that meet a condition filters them. -/
theorem foldl_pushIf (q : κ → Bool) (cs result : List κ) :
    cs.foldl (fun result c => if q c then result ++ [c] else result) result =
      result ++ cs.filter q := by
  induction cs generalizing result with
  | nil => simp
  | cons c cs ih =>
      cases hq : q c with
      | true => simp [ih, hq]
      | false => simp [ih, hq]

/-- The words up to `m` that meet a condition, in increasing order of their values. -/
theorem pairwise_wordsUpTo (value : κ → Nat) (hword : ∀ n, n ≤ m → value (word n) = n)
    (q : κ → Bool) : ((wordsUpTo word m).filter q).Pairwise fun c c' => value c < value c' := by
  refine List.Pairwise.filter q (List.pairwise_map.2 ?_)
  refine List.Pairwise.imp_of_mem ?_ List.pairwise_lt_range
  intro a b ha hb hab
  rw [hword a (Nat.lt_succ_iff.1 (List.mem_range.1 ha)),
    hword b (Nat.lt_succ_iff.1 (List.mem_range.1 hb))]
  exact hab

/-- Every word whose value is at most `m` is among the words up to `m`, and no other is. -/
theorem mem_wordsUpTo (value : κ → Nat) (hword : ∀ n, n ≤ m → value (word n) = n)
    (hvalue : ∀ c, word (value c) = c) (c : κ) : c ∈ wordsUpTo word m ↔ value c ≤ m := by
  constructor
  · intro hmem
    rcases List.mem_map.1 hmem with ⟨n, hn, rfl⟩
    have hle : n ≤ m := Nat.lt_succ_iff.1 (List.mem_range.1 hn)
    rw [hword n hle]
    exact hle
  · intro hle
    exact List.mem_map.2 ⟨value c, List.mem_range.2 (Nat.lt_succ_iff.2 hle), hvalue c⟩

end

/-! ## 16-bit counters -/

section

variable {κ : Type} {word : UInt16 → κ} {value : κ → UInt16} {max : UInt16}

/-- A 16-bit counter reaches every bound but the largest number without wrapping. -/
theorem counts_uint16 (word : UInt16 → κ) (hvalue : ∀ v, value (word v) = v) (hmax : max ≠ 0xffff) :
    Counts (fun c => decide (value c ≤ max)) (fun c => word (value c + 1)) (word 0)
      (wordsUpTo (fun n => word (UInt16.ofNat n)) max.toNat) := by
  have hlt : max.toNat < 0xffff := by
    have hne : max.toNat ≠ 0xffff := fun heq => hmax (UInt16.toNat_inj.1 heq)
    have hrange := max.toNat_lt
    omega
  refine Counts.upTo (fun n => word (UInt16.ofNat n)) ?_ ?_
  · intro n _
    simp only [hvalue]
    rw [UInt16.ofNat_add]
    rfl
  · intro n hn
    have hsmall : n < 2 ^ 16 := by omega
    simp only [hvalue, UInt16.le_iff_toNat_le, UInt16.toNat_ofNat_of_lt' hsmall]

/-- The values up to `max` have the numbers up to `max`. -/
theorem value_word_uint16 (hvalue : ∀ v, value (word v) = v) {n : Nat} (hn : n ≤ max.toNat) :
    (value (word (UInt16.ofNat n))).toNat = n := by
  have hrange := max.toNat_lt
  have hsmall : n < 2 ^ 16 := by omega
  rw [hvalue, UInt16.toNat_ofNat_of_lt' hsmall]

/-- No 16-bit number is above the largest one. -/
theorem le_of_max_uint16 (v : UInt16) : v ≤ 0xffff := by
  have hrange := v.toNat_lt
  rw [UInt16.le_iff_toNat_le]
  show v.toNat ≤ 65535
  omega

end

end Evdevxx
