import Mathlib.Logic.Function.Basic

/-!
# Tables — tables that can be switched off

Nothing is found in a table that is off, and nothing in it can be modified; its entries are kept, and
found again when it is on.  To insert an entry switches the table on.

`Table.map` is the table seen by a client with other names for the keys and other entries.  It commutes
with every operation, if no two names are the same key.
-/

namespace Evdevxx

universe u

/-- A table from keys to entries. -/
structure Table (κ α : Type u) where
  on : Bool
  entries : κ → Option α

namespace Table

variable {κ κ' α β : Type u}

/-- Nothing is in the table. -/
def empty : Table κ α where
  on := false
  entries := fun _ => none

def switch (b : Bool) (t : Table κ α) : Table κ α :=
  { t with on := b }

/-- What is found at the key. -/
def get (t : Table κ α) (k : κ) : Option α :=
  if t.on then t.entries k else none

/-- The table as a client sees it that calls the key of `k'` by `k'`, and its entry `a` by `val a`. -/
def map (key : κ' → κ) (val : α → β) (t : Table κ α) : Table κ' β where
  on := t.on
  entries := fun k => (t.entries (key k)).map val

variable {key : κ' → κ} {val : α → β} {t : Table κ α}

@[simp] theorem map_on : (t.map key val).on = t.on := rfl

@[simp] theorem map_switch (b : Bool) : (t.switch b).map key val = (t.map key val).switch b := rfl

@[simp] theorem map_get (k : κ') : (t.map key val).get k = (t.get (key k)).map val := by
  rw [get, get, map_on]
  cases t.on with
  | false => rfl
  | true => rfl

section Write

variable [DecidableEq κ] [DecidableEq κ']

/-- Write what is at the key, found or not. -/
def put (k : κ) (x : Option α) (t : Table κ α) : Table κ α :=
  { t with entries := Function.update t.entries k x }

/-- Write an entry, and switch the table on. -/
def insert (k : κ) (a : α) (t : Table κ α) : Table κ α :=
  (t.put k (some a)).switch true

/-- Change an entry, if there is one to be found. -/
def modify (f : α → α) (k : κ) (t : Table κ α) : Table κ α :=
  if t.on then t.put k ((t.entries k).map f) else t

theorem map_put (hkey : Function.Injective key) (k : κ') (x : Option α) :
    (t.put (key k) x).map key val = (t.map key val).put k (x.map val) := by
  have hentries : (fun k' => (Function.update t.entries (key k) x (key k')).map val) =
      Function.update (fun k' => (t.entries (key k')).map val) k (x.map val) := by
    funext k'
    by_cases hk : k' = k
    · rw [hk, Function.update_self, Function.update_self]
    · rw [Function.update_of_ne (hkey.ne hk), Function.update_of_ne hk]
  rw [map, put, put, map, hentries]

theorem map_insert (hkey : Function.Injective key) (k : κ') (a : α) :
    (t.insert (key k) a).map key val = (t.map key val).insert k (val a) := by
  rw [insert, map_switch, map_put hkey, Option.map_some, insert]

/-- A change on one side is one on the other. -/
theorem map_modify (hkey : Function.Injective key) {f : α → α} {g : β → β}
    (hval : ∀ a, val (f a) = g (val a)) (k : κ') :
    (t.modify f (key k)).map key val = (t.map key val).modify g k := by
  rw [modify, modify, map_on]
  cases t.on with
  | false => rfl
  | true =>
      have hentry : ((t.entries (key k)).map f).map val = ((t.map key val).entries k).map g := by
        rw [map, Option.map_map, Option.map_map]
        exact congrArg (fun h => (t.entries (key k)).map h) (funext hval)
      rw [if_pos rfl, if_pos rfl, map_put hkey, hentry]

end Write

end Table

end Evdevxx
