import Mathlib.Logic.Function.Basic
import Mathlib.Logic.Relation

/-!
# Ledger — who holds which resource, and how often each was released

A program acquires resources from an allocator (descriptors from the kernel, memory from a
library) and has to release each one exactly once.  The resources are named by values that the
allocator reuses: a name that was released can be handed out again.

* `Entry`, `Outstanding`, `releasesOf` — the ledger of acquisitions and releases, newest entry
  first; `releasesOf r post` counts the releases of one particular acquisition of `r`, where
  `post` is what was entered after it.
* `Books`, `Move` — an ownership machine: each owner holds at most one resource; it can gain one
  the allocator hands out, drop the one it holds, give it to another owner, or adopt one that
  exists but was never acquired here.
* `Balanced` — the invariant of the machine, and what it says about every acquisition.
-/

namespace Evdevxx

namespace Ledger

universe u v

/-- One entry of a ledger. -/
inductive Entry (ρ : Type u) where
  | acquired (r : ρ)
  | released (r : ρ)
  deriving DecidableEq, Repr

section Entries

variable {ρ : Type u}

/-- `r` was acquired and not released since. -/
def Outstanding : List (Entry ρ) → ρ → Prop
  | [], _ => False
  | .acquired r' :: l, r => r = r' ∨ Outstanding l r
  | .released r' :: l, r => r ≠ r' ∧ Outstanding l r

/-- A ledger in which nothing is acquired while it is outstanding and nothing that was ever
acquired is released while it is not. -/
def Proper : List (Entry ρ) → Prop
  | [] => True
  | .acquired r :: l => ¬ Outstanding l r ∧ Proper l
  | .released r :: l => (Outstanding l r ∨ Entry.acquired r ∉ l) ∧ Proper l

theorem mem_of_outstanding {l : List (Entry ρ)} {r : ρ} (h : Outstanding l r) :
    Entry.acquired r ∈ l := by
  induction l with
  | nil => exact h.elim
  | cons e l ih =>
      cases e with
      | acquired r' =>
          rcases h with rfl | h
          · exact List.mem_cons_self
          · exact List.mem_cons_of_mem _ (ih h)
      | released r' => exact List.mem_cons_of_mem _ (ih h.2)

variable [DecidableEq ρ]

theorem outstanding_acquired (r : ρ) (l : List (Entry ρ)) :
    Outstanding (.acquired r :: l) = Function.update (Outstanding l) r True := by
  funext r'
  by_cases hr : r' = r
  · simp [Outstanding, hr]
  · simp [Outstanding, hr]

theorem outstanding_released (r : ρ) (l : List (Entry ρ)) :
    Outstanding (.released r :: l) = Function.update (Outstanding l) r False := by
  funext r'
  by_cases hr : r' = r
  · simp [Outstanding, hr]
  · simp [Outstanding, hr]

/-- How often an acquisition of `r` was released, `l` being the entries made after it.  A release
of `r` that comes after `r` was acquired anew belongs to the later acquisition. -/
def releasesOf (r : ρ) : List (Entry ρ) → Nat
  | [] => 0
  | .acquired _ :: l => releasesOf r l
  | .released r' :: l =>
      if r' = r ∧ Entry.acquired r ∉ l then releasesOf r l + 1 else releasesOf r l

/-- An acquisition in a proper ledger is either unreleased and then `r` is still outstanding and
was not acquired again, or released once and then `r` is outstanding only if it was acquired
again. -/
theorem Proper.acquisition {post pre : List (Entry ρ)} {r : ρ}
    (h : Proper (post ++ Entry.acquired r :: pre)) :
    (releasesOf r post = 0 ∧ Entry.acquired r ∉ post ∧
        Outstanding (post ++ Entry.acquired r :: pre) r) ∨
      (releasesOf r post = 1 ∧
        (Entry.acquired r ∉ post → ¬ Outstanding (post ++ Entry.acquired r :: pre) r)) := by
  induction post with
  | nil => exact Or.inl ⟨rfl, List.not_mem_nil, Or.inl rfl⟩
  | cons e post ih =>
      cases e with
      | acquired r' =>
          by_cases hr : r = r'
          · -- The name is handed out again, so this acquisition has been released.
            subst hr
            rcases ih h.2 with ⟨_, _, hout⟩ | ⟨hone, _⟩
            · exact absurd hout h.1
            · exact Or.inr ⟨hone, fun hmem => absurd List.mem_cons_self hmem⟩
          · rcases ih h.2 with ⟨hzero, hmem, hout⟩ | ⟨hone, hnot⟩
            · exact Or.inl ⟨hzero, by simp [hr, hmem], Or.inr hout⟩
            · refine Or.inr ⟨hone, fun hmem hout => ?_⟩
              have hmem' : Entry.acquired r ∉ post := fun hm => hmem (List.mem_cons_of_mem _ hm)
              rcases hout with heq | hout
              · exact hr heq
              · exact hnot hmem' hout
      | released r' =>
          by_cases hr : r' = r
          · subst hr
            have hacq : Entry.acquired r' ∈ post ++ Entry.acquired r' :: pre := by simp
            have hout : Outstanding (post ++ Entry.acquired r' :: pre) r' := by
              rcases h.1 with hout | hnever
              · exact hout
              · exact absurd hacq hnever
            -- This release is the first one, or `r` was acquired again and it is not counted.
            rcases ih h.2 with ⟨hzero, hmem, _⟩ | ⟨hone, hnot⟩
            · exact Or.inr ⟨by simp [releasesOf, hmem, hzero], fun _ hbad => hbad.1 rfl⟩
            · have hmem : Entry.acquired r' ∈ post := by
                by_contra hmem
                exact hnot hmem hout
              exact Or.inr ⟨by simp [releasesOf, hmem, hone], fun _ hbad => hbad.1 rfl⟩
          · rcases ih h.2 with ⟨hzero, hmem, hout⟩ | ⟨hone, hnot⟩
            · exact Or.inl ⟨by simp [releasesOf, hr, hzero], by simp [hmem], Ne.symm hr, hout⟩
            · refine Or.inr ⟨by simp [releasesOf, hr, hone], fun hmem hout => ?_⟩
              exact hnot (fun hm => hmem (List.mem_cons_of_mem _ hm)) hout.2

/-- In a proper ledger no acquisition is released twice. -/
theorem Proper.releasesOf_le_one {post pre : List (Entry ρ)} {r : ρ}
    (h : Proper (post ++ Entry.acquired r :: pre)) : releasesOf r post ≤ 1 := by
  rcases h.acquisition with ⟨h0, _⟩ | ⟨h1, _⟩ <;> omega

end Entries

/-! ## The ownership machine -/

/-- The state of the machine: the ledger, what each owner holds, and which resources exist. -/
structure Books (ι : Type u) (ρ : Type v) where
  log : List (Entry ρ)
  holder : ι → Option ρ
  inUse : ρ → Prop

section Machine

variable {ι : Type u} {ρ : Type v} [DecidableEq ι] [DecidableEq ρ]

/-- The moves of the machine. -/
inductive Move : Books ι ρ → Books ι ρ → Prop where
  /-- The allocator hands out a resource that is not in use. -/
  | gain {b : Books ι ρ} {i : ι} {r : ρ} (hfree : b.holder i = none) (hnew : ¬ b.inUse r) :
      Move b ⟨.acquired r :: b.log, Function.update b.holder i (some r),
        Function.update b.inUse r True⟩
  /-- An owner releases what it holds. -/
  | drop {b : Books ι ρ} {i : ι} {r : ρ} (hheld : b.holder i = some r) :
      Move b ⟨.released r :: b.log, Function.update b.holder i none,
        Function.update b.inUse r False⟩
  /-- An owner hands what it holds to another one. -/
  | give {b : Books ι ρ} {i j : ι} {r : ρ} (hheld : b.holder i = some r)
      (hfree : b.holder j = none) :
      Move b ⟨b.log, Function.update (Function.update b.holder i none) j (some r), b.inUse⟩
  /-- An owner takes over an existing resource that nobody here holds. -/
  | adopt {b : Books ι ρ} {i : ι} {r : ρ} (hfree : b.holder i = none) (hused : b.inUse r)
      (hunheld : ∀ j, b.holder j ≠ some r) :
      Move b ⟨b.log, Function.update b.holder i (some r), b.inUse⟩

/-- Any number of moves. -/
def Moves : Books ι ρ → Books ι ρ → Prop :=
  Relation.ReflTransGen Move

/-- The invariant of the machine. -/
structure Balanced (b : Books ι ρ) : Prop where
  /-- The ledger is in order. -/
  proper : Proper b.log
  /-- What is held is outstanding, or was never acquired here. -/
  backed : ∀ {i r}, b.holder i = some r → Outstanding b.log r ∨ Entry.acquired r ∉ b.log
  /-- What is held exists. -/
  used : ∀ {i r}, b.holder i = some r → b.inUse r
  /-- No two owners hold the same resource. -/
  unique : ∀ {i j r}, b.holder i = some r → b.holder j = some r → i = j
  /-- What is outstanding is held: nothing leaks. -/
  kept : ∀ {r}, Outstanding b.log r → ∃ i, b.holder i = some r
  /-- A name that was acquired here at some time and exists now is held. -/
  covered : ∀ {r}, Entry.acquired r ∈ b.log → b.inUse r → ∃ i, b.holder i = some r

omit [DecidableEq ι] [DecidableEq ρ] in
/-- Nothing acquired and nothing held. -/
theorem Balanced.initial (inUse : ρ → Prop) :
    Balanced (⟨[], fun _ => none, inUse⟩ : Books ι ρ) where
  proper := trivial
  backed := by intro i r h; cases h
  used := by intro i r h; cases h
  unique := by intro i j r h; cases h
  kept := by intro r h; exact h.elim
  covered := by intro r h; cases h

theorem Balanced.gain {b : Books ι ρ} (hb : Balanced b) {i : ι} {r : ρ}
    (hfree : b.holder i = none) (hnew : ¬ b.inUse r) :
    Balanced (⟨.acquired r :: b.log, Function.update b.holder i (some r),
      Function.update b.inUse r True⟩ : Books ι ρ) := by
  -- What is outstanding is held, and what is held exists.
  have hout : ¬ Outstanding b.log r := fun h => by
    obtain ⟨j, hj⟩ := hb.kept h
    exact hnew (hb.used hj)
  have hother : ∀ {j r'}, b.holder j = some r' → r' ≠ r := fun hj hr => hnew (hr ▸ hb.used hj)
  have hkeep : ∀ {j r'}, b.holder j = some r' →
      Function.update b.holder i (some r) j = some r' := by
    intro j r' hj
    have hji : j ≠ i := by rintro rfl; simp [hfree] at hj
    simpa [hji] using hj
  refine ⟨⟨hout, hb.proper⟩, ?_, ?_, ?_, ?_, ?_⟩
  · intro j r' hj
    by_cases hji : j = i
    · subst hji
      simp only [Function.update_self, Option.some.injEq] at hj
      exact Or.inl (Or.inl hj.symm)
    · simp only [Function.update_of_ne hji] at hj
      rcases hb.backed hj with h | h
      · exact Or.inl (Or.inr h)
      · exact Or.inr (by simp [hother hj, h])
  · intro j r' hj
    by_cases hr : r' = r
    · subst hr; simp
    · by_cases hji : j = i
      · subst hji; simp [Ne.symm hr] at hj
      · simp only [Function.update_of_ne hji] at hj
        simpa [hr] using hb.used hj
  · intro j k r' hj hk
    by_cases hji : j = i <;> by_cases hki : k = i
    · rw [hji, hki]
    · subst hji
      simp only [Function.update_self, Option.some.injEq, Function.update_of_ne hki] at hj hk
      exact absurd hj.symm (hother hk)
    · subst hki
      simp only [Function.update_self, Option.some.injEq, Function.update_of_ne hji] at hj hk
      exact absurd hk.symm (hother hj)
    · simp only [Function.update_of_ne hji, Function.update_of_ne hki] at hj hk
      exact hb.unique hj hk
  · rintro r' (rfl | h)
    · exact ⟨i, by simp⟩
    · obtain ⟨j, hj⟩ := hb.kept h
      exact ⟨j, hkeep hj⟩
  · intro r' hmem huse
    by_cases hr : r' = r
    · subst hr; exact ⟨i, by simp⟩
    · simp only [ne_eq, hr, not_false_eq_true, Function.update_of_ne] at huse
      obtain ⟨j, hj⟩ := hb.covered (by simpa [hr] using hmem) huse
      exact ⟨j, hkeep hj⟩

theorem Balanced.drop {b : Books ι ρ} (hb : Balanced b) {i : ι} {r : ρ}
    (hheld : b.holder i = some r) :
    Balanced (⟨.released r :: b.log, Function.update b.holder i none,
      Function.update b.inUse r False⟩ : Books ι ρ) := by
  -- Whoever still holds something is not `i`, so it is not `r` either: `r` had one holder.
  have hold : ∀ {j r'}, Function.update b.holder i none j = some r' →
      b.holder j = some r' ∧ r' ≠ r := by
    intro j r' hj
    by_cases hji : j = i
    · subst hji; simp at hj
    · simp only [Function.update_of_ne hji] at hj
      exact ⟨hj, fun hr => hji (hb.unique (hr ▸ hj) hheld)⟩
  have hkeep : ∀ {j r'}, b.holder j = some r' → r' ≠ r →
      Function.update b.holder i none j = some r' := by
    intro j r' hj hr
    have hji : j ≠ i := by
      rintro rfl
      rw [hheld, Option.some.injEq] at hj
      exact hr hj.symm
    simpa [hji] using hj
  refine ⟨⟨hb.backed hheld, hb.proper⟩, ?_, ?_, ?_, ?_, ?_⟩
  · intro j r' hj
    obtain ⟨hj, hr⟩ := hold hj
    rcases hb.backed hj with h | h
    · exact Or.inl ⟨hr, h⟩
    · exact Or.inr (by simp [h])
  · intro j r' hj
    obtain ⟨hj, hr⟩ := hold hj
    simpa [hr] using hb.used hj
  · intro j k r' hj hk
    exact hb.unique (hold hj).1 (hold hk).1
  · rintro r' ⟨hr, h⟩
    obtain ⟨j, hj⟩ := hb.kept h
    exact ⟨j, hkeep hj hr⟩
  · intro r' hmem huse
    have hr : r' ≠ r := by rintro rfl; simp at huse
    simp only [ne_eq, hr, not_false_eq_true, Function.update_of_ne] at huse
    obtain ⟨j, hj⟩ := hb.covered (by simpa using hmem) huse
    exact ⟨j, hkeep hj hr⟩

omit [DecidableEq ρ] in
theorem Balanced.give {b : Books ι ρ} (hb : Balanced b) {i j : ι} {r : ρ}
    (hheld : b.holder i = some r) (hfree : b.holder j = none) :
    Balanced (⟨b.log, Function.update (Function.update b.holder i none) j (some r),
      b.inUse⟩ : Books ι ρ) := by
  have hij : i ≠ j := by rintro rfl; simp [hheld] at hfree
  -- Who holds `r'` afterwards: the same owner as before, but `j` in place of `i`.
  have hold : ∀ {k r'}, Function.update (Function.update b.holder i none) j (some r) k = some r' →
      (k = j ∧ r' = r) ∨ (k ≠ i ∧ k ≠ j ∧ b.holder k = some r') := by
    intro k r' hk
    by_cases hkj : k = j
    · subst hkj
      simp only [Function.update_self, Option.some.injEq] at hk
      exact Or.inl ⟨rfl, hk.symm⟩
    · by_cases hki : k = i
      · subst hki; simp [hkj] at hk
      · simp only [Function.update_of_ne hkj, Function.update_of_ne hki] at hk
        exact Or.inr ⟨hki, hkj, hk⟩
  have hkeep : ∀ {k r'}, b.holder k = some r' →
      ∃ k', Function.update (Function.update b.holder i none) j (some r) k' = some r' := by
    intro k r' hk
    by_cases hki : k = i
    · subst hki
      rw [hheld] at hk
      exact ⟨j, by simpa using hk⟩
    · have hkj : k ≠ j := by rintro rfl; simp [hfree] at hk
      exact ⟨k, by simpa [hki, hkj] using hk⟩
  refine ⟨hb.proper, ?_, ?_, ?_, ?_, ?_⟩
  · intro k r' hk
    rcases hold hk with ⟨_, rfl⟩ | ⟨_, _, hk⟩
    · exact hb.backed hheld
    · exact hb.backed hk
  · intro k r' hk
    rcases hold hk with ⟨_, rfl⟩ | ⟨_, _, hk⟩
    · exact hb.used hheld
    · exact hb.used hk
  · intro k l r' hk hl
    rcases hold hk with ⟨hkj, hkr⟩ | ⟨hki, _, hk'⟩ <;>
      rcases hold hl with ⟨hlj, hlr⟩ | ⟨hli, _, hl'⟩
    · rw [hkj, hlj]
    · exact absurd (hb.unique (hkr ▸ hl') hheld) hli
    · exact absurd (hb.unique (hlr ▸ hk') hheld) hki
    · exact hb.unique hk' hl'
  · intro r' h
    obtain ⟨k, hk⟩ := hb.kept h
    exact hkeep hk
  · intro r' hmem huse
    obtain ⟨k, hk⟩ := hb.covered hmem huse
    exact hkeep hk

omit [DecidableEq ρ] in
theorem Balanced.adopt {b : Books ι ρ} (hb : Balanced b) {i : ι} {r : ρ}
    (hfree : b.holder i = none) (hused : b.inUse r) (hunheld : ∀ j, b.holder j ≠ some r) :
    Balanced (⟨b.log, Function.update b.holder i (some r), b.inUse⟩ : Books ι ρ) := by
  -- A name that was acquired here and exists is held; this one is not held.
  have hnever : Entry.acquired r ∉ b.log := fun hmem => by
    obtain ⟨j, hj⟩ := hb.covered hmem hused
    exact hunheld j hj
  have hold : ∀ {j r'}, Function.update b.holder i (some r) j = some r' →
      (j = i ∧ r' = r) ∨ b.holder j = some r' := by
    intro j r' hj
    by_cases hji : j = i
    · subst hji
      simp only [Function.update_self, Option.some.injEq] at hj
      exact Or.inl ⟨rfl, hj.symm⟩
    · simp only [Function.update_of_ne hji] at hj
      exact Or.inr hj
  have hkeep : ∀ {j r'}, b.holder j = some r' →
      Function.update b.holder i (some r) j = some r' := by
    intro j r' hj
    have hji : j ≠ i := by rintro rfl; simp [hfree] at hj
    simpa [hji] using hj
  refine ⟨hb.proper, ?_, ?_, ?_, ?_, ?_⟩
  · intro j r' hj
    rcases hold hj with ⟨_, rfl⟩ | hj
    · exact Or.inr hnever
    · exact hb.backed hj
  · intro j r' hj
    rcases hold hj with ⟨_, rfl⟩ | hj
    · exact hused
    · exact hb.used hj
  · intro j k r' hj hk
    rcases hold hj with ⟨hji, hjr⟩ | hj' <;> rcases hold hk with ⟨hki, hkr⟩ | hk'
    · rw [hji, hki]
    · exact absurd (hjr ▸ hk') (hunheld k)
    · exact absurd (hkr ▸ hj') (hunheld j)
    · exact hb.unique hj' hk'
  · intro r' h
    obtain ⟨j, hj⟩ := hb.kept h
    exact ⟨j, hkeep hj⟩
  · intro r' hmem huse
    obtain ⟨j, hj⟩ := hb.covered hmem huse
    exact ⟨j, hkeep hj⟩

theorem Balanced.move {b b' : Books ι ρ} (hb : Balanced b) (h : Move b b') : Balanced b' := by
  cases h with
  | gain hfree hnew => exact hb.gain hfree hnew
  | drop hheld => exact hb.drop hheld
  | give hheld hfree => exact hb.give hheld hfree
  | adopt hfree hused hunheld => exact hb.adopt hfree hused hunheld

/-- The invariant holds along every run of the machine. -/
theorem Balanced.moves {b b' : Books ι ρ} (hb : Balanced b) (h : Moves b b') : Balanced b' := by
  induction h with
  | refl => exact hb
  | tail _ hm ih => exact ih.move hm

end Machine

/-! ## What balanced books say about one acquisition -/

section Acquisition

variable {ι : Type u} {ρ : Type v} [DecidableEq ρ]
variable {b : Books ι ρ} {post pre : List (Entry ρ)} {r : ρ}

theorem Balanced.released_at_most_once (hb : Balanced b)
    (hlog : b.log = post ++ Entry.acquired r :: pre) : releasesOf r post ≤ 1 :=
  Proper.releasesOf_le_one (hlog ▸ hb.proper)

/-- An acquisition that was not released is held by exactly one owner. -/
theorem Balanced.held_of_unreleased (hb : Balanced b)
    (hlog : b.log = post ++ Entry.acquired r :: pre) (hzero : releasesOf r post = 0) :
    ∃ i, b.holder i = some r ∧ ∀ j, b.holder j = some r → j = i := by
  have hout : Outstanding b.log r := by
    rw [hlog]
    rcases Proper.acquisition (hlog ▸ hb.proper) with ⟨_, _, hout⟩ | ⟨hone, _⟩
    · exact hout
    · omega
  obtain ⟨i, hi⟩ := hb.kept hout
  exact ⟨i, hi, fun j hj => hb.unique hj hi⟩

/-- While an owner holds `r`, its last acquisition has not been released. -/
theorem Balanced.unreleased_of_held (hb : Balanced b)
    (hlog : b.log = post ++ Entry.acquired r :: pre) (hlast : Entry.acquired r ∉ post)
    {i : ι} (hi : b.holder i = some r) : releasesOf r post = 0 := by
  have hmem : Entry.acquired r ∈ b.log := by simp [hlog]
  have hout : Outstanding b.log r := by
    rcases hb.backed hi with h | h
    · exact h
    · exact absurd hmem h
  rcases Proper.acquisition (hlog ▸ hb.proper) with ⟨hzero, _⟩ | ⟨_, hnot⟩
  · exact hzero
  · exact absurd (hlog ▸ hout) (hnot hlast)

/-- Once nobody holds `r`, every acquisition of it was released exactly once. -/
theorem Balanced.released_once_of_unheld (hb : Balanced b)
    (hlog : b.log = post ++ Entry.acquired r :: pre) (hnone : ∀ i, b.holder i ≠ some r) :
    releasesOf r post = 1 := by
  -- Zero releases would mean that somebody holds `r`.
  have hle := hb.released_at_most_once hlog
  have hne : releasesOf r post ≠ 0 := fun hzero => by
    obtain ⟨i, hi, _⟩ := hb.held_of_unreleased hlog hzero
    exact hnone i hi
  omega

end Acquisition

end Ledger

end Evdevxx
