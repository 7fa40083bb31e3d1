import Evdevxx.Logic.Memory
import Mathlib.Logic.Function.Basic

/-!
# Boxes — objects that hold handles, read as values

An object may hold a handle into a heap.  `contents` reads each object together with what its handle
points to, so that handles are seen no more.  As long as every handle points to something and no two
objects hold the same one, a change of the heap reaches the contents of one object or of none.

* `contents_confined` — a change that spares the handles of the other objects;
* `contents_fill`, `contents_fresh` — what an object holds is written, or something new is stored.
-/

namespace Evdevxx

namespace Boxes

universe u

variable {ι ο η ν β : Type u}
variable {handle : ο → Option η} {value : ο → Option ν → β}
variable {heap heap' : η → Option ν} {objects objects' : ι → Option ο}

/-- Each object, with what its handle points to. -/
def contents (handle : ο → Option η) (value : ο → Option ν → β) (heap : η → Option ν)
    (objects : ι → Option ο) (i : ι) : Option β :=
  (objects i).map fun o => value o ((handle o).bind heap)

/-- Every handle points to something, and belongs to one object. -/
structure Separate (handle : ο → Option η) (heap : η → Option ν) (objects : ι → Option ο) : Prop where
  live : ∀ {i o h}, objects i = some o → handle o = some h → ∃ v, heap h = some v
  distinct : ∀ {i j o o' h}, i ≠ j → objects i = some o → objects j = some o' →
    handle o = some h → handle o' ≠ some h

theorem contents_of_some {i : ι} {o : ο} (ho : objects i = some o) :
    contents handle value heap objects i = some (value o ((handle o).bind heap)) := by
  rw [contents, ho, Option.map_some]

theorem contents_of_none {i : ι} (ho : objects i = none) :
    contents handle value heap objects i = none := by
  rw [contents, ho, Option.map_none]

theorem contents_eq_none_iff {i : ι} :
    contents handle value heap objects i = none ↔ objects i = none :=
  Option.map_eq_none_iff

/-- Something new is stored. -/
theorem contents_fresh [DecidableEq η] (hsep : Separate handle heap objects) {h : η}
    (hfresh : heap h = none) (x : Option ν) :
    contents handle value (Function.update heap h x) objects = contents handle value heap objects := by
  funext i
  cases ho : objects i with
  | none => rw [contents_of_none ho, contents_of_none ho]
  | some o =>
      rw [contents_of_some ho, contents_of_some ho]
      cases hh : handle o with
      | none => rfl
      | some h' =>
          rcases hsep.live ho hh with ⟨v, hv⟩
          have hne : h' ≠ h := ne_of_lives_of_free hv hfresh
          rw [Option.bind_some, Option.bind_some, Function.update_of_ne hne]

/-- Objects that hold nothing new. -/
theorem Separate.fresh [DecidableEq η] (hsep : Separate handle heap objects) {h : η}
    (hfresh : heap h = none) (x : Option ν) :
    Separate handle (Function.update heap h x) objects where
  live := by
    intro i o h' ho hh
    rcases hsep.live ho hh with ⟨v, hv⟩
    exact ⟨v, (Function.update_of_ne (ne_of_lives_of_free hv hfresh) _ _).trans hv⟩
  distinct := hsep.distinct

variable [DecidableEq ι]

/-- The objects are written. -/
theorem contents_update (i : ι) (o : Option ο) :
    contents handle value heap (Function.update objects i o) =
      Function.update (contents handle value heap objects) i
        (o.map fun o => value o ((handle o).bind heap)) := by
  funext j
  by_cases hji : j = i
  · subst hji
    rw [contents, Function.update_self, Function.update_self]
  · rw [contents, Function.update_of_ne hji, Function.update_of_ne hji, contents]

/-- A change of one object and its part of the heap. -/
theorem contents_confined {i : ι} (hobjects : ∀ j, j ≠ i → objects' j = objects j)
    (hheap : ∀ j o h, j ≠ i → objects j = some o → handle o = some h → heap' h = heap h) :
    contents handle value heap' objects' =
      Function.update (contents handle value heap objects) i
        (contents handle value heap' objects' i) := by
  funext j
  by_cases hji : j = i
  · subst hji
    rw [Function.update_self]
  · rw [Function.update_of_ne hji, contents, contents, hobjects j hji]
    cases ho : objects j with
    | none => rfl
    | some o =>
        cases hh : handle o with
        | none => rw [Option.map_some, Option.map_some, hh, Option.bind_none, Option.bind_none]
        | some h =>
            have hsame := hheap j o h hji ho hh
            rw [Option.map_some, Option.map_some, hh, Option.bind_some, Option.bind_some, hsame]

/-- What an object holds is written. -/
theorem contents_fill [DecidableEq η] (hsep : Separate handle heap objects) {i : ι} {o : ο} {h : η}
    (ho : objects i = some o) (hh : handle o = some h) (v : ν) :
    contents handle value (Function.update heap h (some v)) objects =
      Function.update (contents handle value heap objects) i (some (value o (some v))) := by
  have hself : contents handle value (Function.update heap h (some v)) objects i =
      some (value o (some v)) := by
    rw [contents_of_some ho, hh, Option.bind_some, Function.update_self]
  rw [← hself]
  refine contents_confined (fun _ _ => rfl) fun j o' h' hji ho' hh' => ?_
  -- No other object holds the handle.
  refine Function.update_of_ne (fun heq => ?_) _ _
  exact hsep.distinct (Ne.symm hji) ho ho' hh (heq ▸ hh')

end Boxes

end Evdevxx
