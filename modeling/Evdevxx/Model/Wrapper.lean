import Evdevxx.Logic.Ledger
import Evdevxx.Model.World

/-!
# Wrapper — the template `basic_wrapper` at any handle type

The objects of one class derived from `basic_wrapper<T, InvalidValue>`, at their addresses, for any
type `T` and any `InvalidValue`.  The member functions work on the whole of the memory, so that two
objects can be the same one.  Every function of the template is `noexcept` and calls nothing that
throws, so there are no exceptions here.
-/

namespace Evdevxx

open Ledger (Entry)

/-- The objects of the class; the handles that were handed to them and given up by them; and what
`destroy()` has freed, newest first. -/
structure Wrappers (T : Type) (InvalidValue : T) where
  objects : Nat → Option (BasicWrapper T InvalidValue)
  log : List (Entry T)
  freed : List T

/-- What a client of the class can do with its objects. -/
inductive WrapperAction (T : Type) where
  | construct (i : Nat)
  | constructFrom (i : Nat) (src : T)
  | release (i : Nat)
  | acquire (i : Nat) (newState : T)
  | moveConstruct (i other : Nat)
  | moveAssign (i other : Nat)
  | destruct (i : Nat)
  deriving DecidableEq, Repr

namespace WrapperAction

variable {T : Type}

/-- The handle that an action hands to a wrapper. -/
def handed : WrapperAction T → Option T
  | .constructFrom _ src => some src
  | .acquire _ newState => some newState
  | _ => none

/-- The wrapper that an action releases, or moves something out of. -/
def emptied : WrapperAction T → Option Nat
  | .release i => some i
  | .moveConstruct _ other => some other
  | .moveAssign i other => if i = other then none else some other
  | _ => none

end WrapperAction

namespace Wrappers

variable {T : Type} {InvalidValue : T}

/-- No object exists, and no handle was handed to one. -/
def init : Wrappers T InvalidValue where
  objects := fun _ => none
  log := []
  freed := []

/-- Write an object; `none` where its lifetime is over. -/
def set (w : Wrappers T InvalidValue) (i : Nat) (B : Option (BasicWrapper T InvalidValue)) :
    Wrappers T InvalidValue :=
  { w with objects := Function.update w.objects i B }

/-- A handle is handed over, or given up. -/
def enter (w : Wrappers T InvalidValue) (e : Entry T) : Wrappers T InvalidValue :=
  { w with log := e :: w.log }

@[simp] theorem set_objects (w : Wrappers T InvalidValue) (i : Nat)
    (B : Option (BasicWrapper T InvalidValue)) :
    (w.set i B).objects = Function.update w.objects i B := rfl
@[simp] theorem set_log (w : Wrappers T InvalidValue) (i : Nat)
    (B : Option (BasicWrapper T InvalidValue)) : (w.set i B).log = w.log := rfl
@[simp] theorem set_freed (w : Wrappers T InvalidValue) (i : Nat)
    (B : Option (BasicWrapper T InvalidValue)) : (w.set i B).freed = w.freed := rfl
@[simp] theorem enter_objects (w : Wrappers T InvalidValue) (e : Entry T) :
    (w.enter e).objects = w.objects := rfl
@[simp] theorem enter_log (w : Wrappers T InvalidValue) (e : Entry T) :
    (w.enter e).log = e :: w.log := rfl
@[simp] theorem enter_freed (w : Wrappers T InvalidValue) (e : Entry T) :
    (w.enter e).freed = w.freed := rfl

/-- Only the last write to an object counts. -/
@[simp] theorem set_set (w : Wrappers T InvalidValue) (i : Nat)
    (B C : Option (BasicWrapper T InvalidValue)) : (w.set i B).set i C = w.set i C := by
  simp [set]

theorem set_comm (w : Wrappers T InvalidValue) {i j : Nat} (hij : i ≠ j)
    (B C : Option (BasicWrapper T InvalidValue)) :
    (w.set i B).set j C = (w.set j C).set i B := by
  simp [set, Function.update_comm hij]

variable [DecidableEq T]

/-- An object gives up what it held; `InvalidValue` is no handle. -/
def giveUp (w : Wrappers T InvalidValue) (old : T) : Wrappers T InvalidValue :=
  if old ≠ InvalidValue then w.enter (.released old) else w

/-- What an object held is freed, if it is not `InvalidValue`. -/
def discard (w : Wrappers T InvalidValue) (old : T) : Wrappers T InvalidValue :=
  if old ≠ InvalidValue then { w.enter (.released old) with freed := old :: w.freed } else w

@[simp] theorem giveUp_objects (w : Wrappers T InvalidValue) (old : T) :
    (w.giveUp old).objects = w.objects := by
  unfold giveUp
  split <;> rfl

@[simp] theorem discard_objects (w : Wrappers T InvalidValue) (old : T) :
    (w.discard old).objects = w.objects := by
  unfold discard
  split <;> rfl

theorem giveUp_set (w : Wrappers T InvalidValue) (old : T) (i : Nat)
    (B : Option (BasicWrapper T InvalidValue)) :
    (w.set i B).giveUp old = (w.giveUp old).set i B := by
  unfold giveUp
  split <;> rfl

theorem discard_set (w : Wrappers T InvalidValue) (old : T) (i : Nat)
    (B : Option (BasicWrapper T InvalidValue)) :
    (w.set i B).discard old = (w.discard old).set i B := by
  unfold discard
  split <;> rfl

end Wrappers

/-! ## Member functions -/

namespace BasicWrapper

open Wrappers

variable {T : Type} {InvalidValue : T}

/-- `data()` -/
def data (this : BasicWrapper T InvalidValue) : T :=
  this.raw

/-- A member function, or a piece of one. -/
abbrev Member (InvalidValue : T) (α : Type) := Prog Empty (Wrappers T InvalidValue) α

/-- Where the objects are kept. -/
def memory : Memory (Wrappers T InvalidValue) Nat (BasicWrapper T InvalidValue) where
  get := Wrappers.objects
  set := Wrappers.set

/-- `acquire(new_state)` -/
def doAcquire (this : Nat) (newState : T) : Member InvalidValue Unit := do
  let B ← memory.load this
  memory.store this (B.acquire newState)

variable [Inhabited T]

/-- `release()` -/
def doRelease (this : Nat) : Member InvalidValue T := do
  let B ← memory.load this
  memory.store this B.release.2
  pure B.release.1

variable [DecidableEq T]

/-- `destroy()`, as a derived class overrides it. -/
def destroy (this : Nat) : Member InvalidValue Unit := do
  let old ← doRelease this
  Prog.modify (Wrappers.discard · old)

/-- `basic_wrapper(basic_wrapper&& other)`; the object `other` exists before. -/
def moveConstruct (this other : Nat) : Member InvalidValue Unit := do
  let _ ← memory.load other
  memory.allocate this {}
  let old ← doRelease other
  doAcquire this old

/-- `operator =(basic_wrapper&& other)` -/
def moveAssign (this other : Nat) : Member InvalidValue Unit := do
  let _ ← memory.load this
  if this ≠ other then do
    destroy this
    let old ← doRelease other
    doAcquire this old
  else
    pure ()

/-- What the client does is entered in the log. -/
def exec : WrapperAction T → Member InvalidValue Unit
  | .construct i => memory.allocate i {}
  | .constructFrom i src => do
      memory.allocate i { raw := src }
      Prog.modify (Wrappers.enter · (.acquired src))
  | .release i => do
      let old ← doRelease i
      Prog.modify (Wrappers.giveUp · old)
  | .acquire i newState => do
      doAcquire i newState
      Prog.modify (Wrappers.enter · (.acquired newState))
  | .moveConstruct i other => moveConstruct i other
  | .moveAssign i other => moveAssign i other
  | .destruct i => do
      destroy i
      memory.deallocate i

/-- A client hands over handles other than `InvalidValue`, and only to invalid wrappers. -/
def Allowed (w : Wrappers T InvalidValue) : WrapperAction T → Prop
  | .constructFrom _ src => src ≠ InvalidValue
  | .acquire i newState =>
      newState ≠ InvalidValue ∧ ∀ B, w.objects i = some B → B.isValid = false
  | _ => True

/-- The steps of the client. -/
def Step (w : Wrappers T InvalidValue) (a : WrapperAction T) (w' : Wrappers T InvalidValue) :
    Prop :=
  Allowed w a ∧ exec a w = .returned () w'

/-! ## How they end -/

section Ends

variable {T : Type} {InvalidValue : T} {w : Wrappers T InvalidValue} {i : Nat}
variable {other : Nat} {B C : BasicWrapper T InvalidValue}

theorem load_apply (hB : w.objects i = some B) :
    (memory.load i : Member InvalidValue _) w = .returned B w :=
  Memory.load_apply hB

theorem load_apply_none (hB : w.objects i = none) :
    (memory.load i : Member InvalidValue _) w = .undefined :=
  Memory.load_apply_none hB

theorem allocate_apply (hB : w.objects i = none) (C : BasicWrapper T InvalidValue) :
    (memory.allocate i C : Member InvalidValue _) w = .returned () (w.set i (some C)) := by
  simp [Memory.allocate, memory, hB]

theorem allocate_apply_some (hB : w.objects i = some B) (C : BasicWrapper T InvalidValue) :
    (memory.allocate i C : Member InvalidValue _) w = .undefined := by
  simp [Memory.allocate, memory, hB]

theorem doAcquire_apply (hB : w.objects i = some B) (newState : T) :
    doAcquire i newState w = .returned () (w.set i (some { raw := newState })) := by
  simp only [doAcquire, Prog.bind_apply, load_apply hB, Outcome.returned_andThen]
  rfl

theorem doAcquire_apply_none (hB : w.objects i = none) (newState : T) :
    doAcquire i newState w = .undefined := by
  simp [doAcquire, load_apply_none hB]

variable [Inhabited T]

theorem doRelease_apply (hB : w.objects i = some B) :
    doRelease i w = .returned B.raw (w.set i (some { raw := default })) := by
  simp only [doRelease, Prog.bind_apply, load_apply hB, Outcome.returned_andThen]
  rfl

theorem doRelease_apply_none (hB : w.objects i = none) :
    (doRelease i : Member InvalidValue T) w = .undefined := by
  simp [doRelease, load_apply_none hB]

/-- `acquire(other.release())` -/
theorem transfer_apply (hne : i ≠ other) (hB : w.objects i = some B) (hC : w.objects other = some C) :
    (doRelease other >>= doAcquire i) w =
      .returned () ((w.set other (some { raw := default })).set i (some { raw := C.raw })) := by
  have hstill : (w.set other (some { raw := default })).objects i = some B := by simp [hne, hB]
  rw [Prog.bind_apply, doRelease_apply hC, Outcome.returned_andThen, doAcquire_apply hstill]

theorem moveConstruct_apply (hi : w.objects i = none) (hC : w.objects other = some C) :
    moveConstruct i other w =
      .returned () ((w.set other (some { raw := default })).set i (some { raw := C.raw })) := by
  have hne : i ≠ other := (ne_of_lives_of_free hC hi).symm
  have hB : (w.set i (some {})).objects i = some {} := by simp
  have hC' : (w.set i (some {})).objects other = some C := by simp [hne.symm, hC]
  have htransfer := transfer_apply hne hB hC'
  rw [Wrappers.set_comm w hne, Wrappers.set_set] at htransfer
  simp only [moveConstruct, Prog.bind_apply, load_apply hC, allocate_apply hi,
    Outcome.returned_andThen]
  exact htransfer

variable [DecidableEq T]

theorem destroy_apply (hB : w.objects i = some B) :
    destroy i w = .returned () ((w.discard B.raw).set i (some { raw := default })) := by
  simp only [destroy, Prog.bind_apply, doRelease_apply hB, Outcome.returned_andThen,
    Prog.modify_apply, discard_set]

theorem destroy_apply_none (hB : w.objects i = none) :
    (destroy i : Member InvalidValue Unit) w = .undefined := by
  simp [destroy, doRelease_apply_none hB]

theorem moveAssign_apply (hne : i ≠ other) (hB : w.objects i = some B)
    (hC : w.objects other = some C) :
    moveAssign i other w = .returned ()
      (((w.discard B.raw).set other (some { raw := default })).set i (some { raw := C.raw })) := by
  have hB' : ((w.discard B.raw).set i (some { raw := default })).objects i =
      some { raw := default } := by simp
  have hC' : ((w.discard B.raw).set i (some { raw := default })).objects other = some C := by
    simp [hne.symm, hC]
  have htransfer := transfer_apply hne hB' hC'
  rw [Wrappers.set_comm _ hne, Wrappers.set_set] at htransfer
  simp only [moveAssign, Prog.bind_apply, load_apply hB, Outcome.returned_andThen,
    if_pos hne, destroy_apply hB]
  exact htransfer

theorem moveAssign_apply_self (hB : w.objects i = some B) : moveAssign i i w = .returned () w := by
  simp [moveAssign, load_apply hB]

theorem moveAssign_apply_none (hB : w.objects i = some B) (hC : w.objects other = none) :
    moveAssign i other w = .undefined := by
  have hne : i ≠ other := ne_of_lives_of_free hB hC
  have hC' : ((w.discard B.raw).set i (some { raw := default })).objects other = none := by
    simp [hne.symm, hC]
  simp [moveAssign, load_apply hB, hne, destroy_apply hB, doRelease_apply_none hC']

end Ends

end BasicWrapper

end Evdevxx
