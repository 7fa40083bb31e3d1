import Evdevxx.Logic.Ledger
import Evdevxx.Model.World

/-!
# Custody — the objects of a class as owners in the ownership machine

A `Custody` says how one kind of native resource is read off the world: which objects hold it,
which calls acquire and release it, and which names are in use on the platform.  `books` is the
state of the ownership machine that a world stands for; the owner `none` is the local variable in
which a member function keeps a resource between the call that returned it and `acquire`.

Each lemma below matches one thing a member function does (a call, a write to an object) with a
move of the machine, or with no move.
-/

namespace Evdevxx

open Ledger (Entry Books Move Moves Balanced releasesOf)

structure Custody (σ ι ρ τ : Type) where
  memory : Memory (World σ) ι τ
  held : τ → Option ρ
  /-- What a call enters in the ledger. -/
  entry : Call → Option (Entry ρ)
  /-- The names in use on the platform. -/
  inUse : σ → ρ → Prop

namespace Custody

variable {σ ι ρ τ : Type} [DecidableEq ι]

/-- The objects of the class have a memory of their own, apart from the platform and the log. -/
structure Lawful (C : Custody σ ι ρ τ) : Prop where
  get_set : ∀ w i X, C.memory.get (C.memory.set w i X) = Function.update (C.memory.get w) i X
  get_called : ∀ w c s, C.memory.get (World.called w c s) = C.memory.get w
  log_set : ∀ w i X, (C.memory.set w i X).log = w.log
  env_set : ∀ w i X, (C.memory.set w i X).env = w.env
  get_init : ∀ s, C.memory.get (World.init s) = fun _ => none

/-- What the object at `i` holds, if one lives there. -/
def heldAt (C : Custody σ ι ρ τ) (w : World σ) (i : ι) : Option ρ :=
  (C.memory.get w i).bind C.held

/-- The owners and what they hold, `loc` being in a local variable. -/
def holder (C : Custody σ ι ρ τ) (loc : Option ρ) (w : World σ) : Option ι → Option ρ
  | none => loc
  | some i => C.heldAt w i

def ledger (C : Custody σ ι ρ τ) (w : World σ) : List (Entry ρ) :=
  w.log.filterMap C.entry

/-- The state of the ownership machine. -/
def books (C : Custody σ ι ρ τ) (loc : Option ρ) (w : World σ) : Books (Option ι) ρ where
  log := C.ledger w
  holder := C.holder loc w
  inUse := C.inUse w.env

section Books

variable {C : Custody σ ι ρ τ} {w : World σ} {loc : Option ρ} {i j : ι} {r : ρ} {c : Call} {s : σ}
variable {X : Option τ}

theorem heldAt_set (hC : C.Lawful) (i : ι) (X : Option τ) (j : ι) :
    C.heldAt (C.memory.set w i X) j = if j = i then X.bind C.held else C.heldAt w j := by
  by_cases hji : j = i
  · simp [heldAt, hC.get_set, hji]
  · simp [heldAt, hC.get_set, hji]

theorem holder_set (hC : C.Lawful) (i : ι) (X : Option τ) :
    C.holder loc (C.memory.set w i X) =
      Function.update (C.holder loc w) (some i) (X.bind C.held) := by
  funext o
  cases o with
  | none => simp [holder]
  | some j =>
      by_cases hji : j = i
      · simp [holder, heldAt_set hC, hji]
      · simp [holder, heldAt_set hC, hji]

theorem holder_called (hC : C.Lawful) :
    C.holder loc (w.called c s) = C.holder loc w := by
  funext o
  cases o with
  | none => rfl
  | some j => simp [holder, heldAt, hC.get_called]

theorem holder_local (C : Custody σ ι ρ τ) (w : World σ) (loc loc' : Option ρ) :
    C.holder loc' w = Function.update (C.holder loc w) none loc' := by
  funext o
  cases o with
  | none => simp [holder]
  | some j => simp [holder]

theorem books_set (hC : C.Lawful) (i : ι) (X : Option τ) :
    C.books loc (C.memory.set w i X) =
      { C.books loc w with
        holder := Function.update (C.holder loc w) (some i) (X.bind C.held) } := by
  simp [books, ledger, hC.log_set, hC.env_set, holder_set hC]

/-- A write that does not change what the object holds. -/
theorem books_set_of_held (hC : C.Lawful) (hX : X.bind C.held = C.heldAt w i) :
    C.books loc (C.memory.set w i X) = C.books loc w := by
  rw [books_set hC, hX]
  have hself : Function.update (C.holder loc w) (some i) (C.heldAt w i) = C.holder loc w :=
    Function.update_eq_self (some i) (C.holder loc w)
  rw [hself]
  rfl

/-- A call that neither acquires nor releases anything. -/
theorem books_called_of_neutral (hC : C.Lawful) (hc : C.entry c = none)
    (hs : C.inUse s = C.inUse w.env) : C.books loc (w.called c s) = C.books loc w := by
  simp [books, ledger, holder_called hC, hc, hs]

theorem books_called (hC : C.Lawful) {e : Entry ρ} {U : ρ → Prop}
    (hc : C.entry c = some e) (hs : C.inUse s = U) :
    C.books loc (w.called c s) = ⟨e :: C.ledger w, C.holder loc w, U⟩ := by
  simp [books, ledger, holder_called hC, hc, hs]

end Books

/-! ## Moves -/

variable [DecidableEq ρ]

section Moves

variable {C : Custody σ ι ρ τ} {w : World σ} {loc : Option ρ} {i j : ι} {r : ρ} {c : Call} {s : σ}
variable {X : Option τ}

/-- A call returns a new resource. -/
theorem move_gain (hC : C.Lawful) (hc : C.entry c = some (.acquired r))
    (hnew : ¬ C.inUse w.env r) (hs : C.inUse s = Function.update (C.inUse w.env) r True) :
    Move (C.books none w) (C.books (some r) (w.called c s)) := by
  rw [books_called hC hc hs, holder_local C w none (some r)]
  exact Move.gain (b := C.books none w) (i := none) rfl hnew

/-- A call releases what a local variable holds. -/
theorem move_discard (hC : C.Lawful) (hc : C.entry c = some (.released r))
    (hs : C.inUse s = Function.update (C.inUse w.env) r False) :
    Move (C.books (some r) w) (C.books none (w.called c s)) := by
  rw [books_called hC hc hs, holder_local C w (some r) none]
  exact Move.drop (b := C.books (some r) w) (i := none) rfl

/-- A call releases what an object holds, and the object is empty afterwards. -/
theorem move_drop (hC : C.Lawful) (hheld : C.heldAt w i = some r)
    (hc : C.entry c = some (.released r))
    (hs : C.inUse s = Function.update (C.inUse w.env) r False) (hX : X.bind C.held = none) :
    Move (C.books loc w) (C.books loc (C.memory.set (w.called c s) i X)) := by
  rw [books_set hC, hX, books_called hC hc hs, holder_called hC]
  exact Move.drop (b := C.books loc w) (i := some i) hheld

/-- `acquire`: what a local variable holds goes to an object that holds nothing. -/
theorem move_install (hC : C.Lawful) (hfree : C.heldAt w i = none)
    (hX : X.bind C.held = some r) :
    Move (C.books (some r) w) (C.books none (C.memory.set w i X)) := by
  rw [books_set hC, hX, holder_local C w (some r) none]
  exact Move.give (b := C.books (some r) w) (i := none) (j := some i) rfl hfree

/-- What one object holds goes to another one that holds nothing. -/
theorem moves_transfer (hC : C.Lawful) (hij : i ≠ j) {E empty : τ} (hE : C.memory.get w i = some E)
    (hempty : C.held empty = none) (hfree : C.heldAt w j = none) :
    Moves (C.books loc w)
      (C.books loc (C.memory.set (C.memory.set w i (some empty)) j (some E))) := by
  have hheldE : C.heldAt w i = C.held E := by simp [heldAt, hE]
  cases hr : C.held E with
  | none =>
      -- Nothing changes hands.
      have hfirst : C.books loc (C.memory.set w i (some empty)) = C.books loc w :=
        books_set_of_held hC (by simp [hempty, hheldE, hr])
      have hsecond : C.books loc (C.memory.set (C.memory.set w i (some empty)) j (some E)) =
          C.books loc (C.memory.set w i (some empty)) :=
        books_set_of_held hC (by simp [heldAt_set hC, Ne.symm hij, hfree, hr])
      rw [hsecond, hfirst]
      exact Relation.ReflTransGen.refl
  | some r =>
      -- The two writes are one move: `i` gives what it holds to `j`.
      refine Relation.ReflTransGen.single ?_
      rw [books_set hC, holder_set hC, books_set hC, Option.bind_some, Option.bind_some, hempty, hr]
      exact Move.give (b := C.books loc w) (i := some i) (j := some j) (hheldE.trans hr) hfree

/-- An object takes over a resource that exists but that no owner holds. -/
theorem move_adopt (hC : C.Lawful) (hfree : C.heldAt w i = none) (hused : C.inUse w.env r)
    (hunheld : ∀ j, C.heldAt w j ≠ some r) (hX : X.bind C.held = some r) :
    Move (C.books none w) (C.books none (C.memory.set w i X)) := by
  have hnobody : ∀ o, (C.books none w).holder o ≠ some r := by
    intro o
    cases o with
    | none =>
        intro h
        cases h
    | some j => exact hunheld j
  rw [books_set hC, hX]
  exact Move.adopt (b := C.books none w) (i := some i) hfree hused hnobody

end Moves

/-! ## Runs that the machine can follow -/

/-- The machine has moves from the books of the initial world to those of `w`. -/
def Followed (C : Custody σ ι ρ τ) (s₀ : σ) (w : World σ) : Prop :=
  Moves (C.books none (World.init s₀)) (C.books none w)

section Followed

variable {C : Custody σ ι ρ τ} {w w' : World σ} {s₀ : σ} {loc : Option ρ}

theorem Followed.init (C : Custody σ ι ρ τ) (s₀ : σ) : C.Followed s₀ (World.init s₀) :=
  Relation.ReflTransGen.refl

theorem Followed.moves (h : C.Followed s₀ w) (hm : Moves (C.books none w) (C.books none w')) :
    C.Followed s₀ w' :=
  Relation.ReflTransGen.trans h hm

theorem Followed.same (h : C.Followed s₀ w) (hb : C.books none w' = C.books none w) :
    C.Followed s₀ w' := by
  unfold Followed
  rw [hb]
  exact h

theorem Followed.balanced (hC : C.Lawful) (h : C.Followed s₀ w) : Balanced (C.books none w) := by
  -- Before the first action no object exists, so nothing is held.
  have hholder : C.holder none (World.init s₀) = fun _ => none := by
    funext o
    cases o with
    | none => rfl
    | some i => simp [holder, heldAt, hC.get_init]
  have hstart : C.books none (World.init s₀) = ⟨[], fun _ => none, C.inUse s₀⟩ := by
    simp only [books, hholder]
    rfl
  have hinit : Balanced (C.books none (World.init s₀)) := hstart ▸ Balanced.initial _
  exact hinit.moves h

end Followed

/-! ## What balanced books say about the objects -/

/-- No two objects hold the same resource; every resource ever acquired is held by exactly one
object, or it was released exactly once (and is held again only if it was acquired again); and once
no object holds anything, everything was released exactly once. -/
structure ReleasedOnce (C : Custody σ ι ρ τ) (w : World σ) : Prop where
  unique : ∀ i j r, C.heldAt w i = some r → C.heldAt w j = some r → i = j
  heldOrReleased : ∀ r post pre, C.ledger w = post ++ Entry.acquired r :: pre →
    (releasesOf r post = 0 ∧ ∃ i, C.heldAt w i = some r ∧ ∀ j, C.heldAt w j = some r → j = i) ∨
      (releasesOf r post = 1 ∧ (Entry.acquired r ∉ post → ∀ i, C.heldAt w i ≠ some r))
  released : (∀ i, C.heldAt w i = none) →
    ∀ r post pre, C.ledger w = post ++ Entry.acquired r :: pre → releasesOf r post = 1

section ReleasedOnce

omit [DecidableEq ι]

variable {C : Custody σ ι ρ τ} {w : World σ} {r : ρ} {post pre : List (Entry ρ)}

/-- An acquisition that was not released is held by exactly one object. -/
theorem heldAt_of_unreleased (hb : Balanced (C.books none w))
    (hlog : C.ledger w = post ++ Entry.acquired r :: pre) (hzero : releasesOf r post = 0) :
    ∃ i, C.heldAt w i = some r ∧ ∀ j, C.heldAt w j = some r → j = i := by
  rcases hb.held_of_unreleased hlog hzero with ⟨o, ho, honly⟩
  cases o with
  | none => cases ho
  | some i =>
      refine ⟨i, ho, fun j hj => ?_⟩
      -- No local variable holds anything between two actions.
      have hji : some j = some i := honly (some j) hj
      exact Option.some.inj hji

theorem released_of_unheld (hb : Balanced (C.books none w))
    (hlog : C.ledger w = post ++ Entry.acquired r :: pre) (hnone : ∀ i, C.heldAt w i ≠ some r) :
    releasesOf r post = 1 := by
  apply hb.released_once_of_unheld hlog
  intro o
  cases o with
  | none =>
      intro h
      cases h
  | some i => exact hnone i

theorem releasedOnce_of_balanced (hb : Balanced (C.books none w)) : C.ReleasedOnce w where
  unique := by
    intro i j r hi hj
    have hij : some i = some j := hb.unique (i := some i) (j := some j) hi hj
    exact Option.some.inj hij
  heldOrReleased := by
    intro r post pre hlog
    have hle : releasesOf r post ≤ 1 := hb.released_at_most_once hlog
    by_cases hzero : releasesOf r post = 0
    · exact Or.inl ⟨hzero, heldAt_of_unreleased hb hlog hzero⟩
    · -- Somebody who still held it would make this acquisition unreleased.
      refine Or.inr ⟨by omega, fun hlast i hi => hzero ?_⟩
      exact hb.unreleased_of_held hlog hlast (i := some i) hi
  released := by
    intro hnone r post pre hlog
    apply released_of_unheld hb hlog
    intro i hi
    rw [hnone i] at hi
    cases hi

end ReleasedOnce

end Custody

end Evdevxx
