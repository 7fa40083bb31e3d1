import Evdevxx.Device.Steps
import Evdevxx.Model.Scripted

/-!
# Borrowed — descriptors that the caller supplies

A descriptor given to `Device(int)`, `create(int)`, `set_fd` or `change_fd` is the caller's: only
what a `Device` obtained with its own `::open` is for the destructor to close.

* `BorrowedNeverClosed` is that property of a run;
* `KeepsBorrowed` says of one action that it records no borrowed descriptor as owned, which is
  where `create(int)` goes wrong: it passes its argument to `acquire` as the owned descriptor;
* along the runs that meet it, every owned descriptor was obtained (`OwnedObtained`).
-/

namespace Evdevxx

variable {σ : Type} {P : Platform σ}

/-- The caller hands the descriptor `n` to a `Device`. -/
def DeviceAct.supplies (n : Fd) : DeviceAct → Prop
  | .constructFd _ fd => fd = n
  | .createFd _ fd => fd = n
  | .setFd _ fd => fd = n
  | .changeFd _ fd => fd = n
  | _ => False

/-- A `Device`'s own `::open` returned the descriptor `n`. -/
def Obtained (n : Fd) (log : List Call) : Prop :=
  ∃ path flags errno, Call.posixOpen path flags n errno ∈ log

/-- No descriptor that an action of the run supplied is closed unless `::open` returned it before. -/
def BorrowedNeverClosed (acts : List DeviceAct) (w : World σ) : Prop :=
  ∀ n, (∃ a ∈ acts, a.supplies n) →
    ∀ post pre, w.log = post ++ Call.posixClose n :: pre → Obtained n pre

/-- A `Device(int)` or `create(int)` that succeeds is given the descriptor of some earlier `::open`
(or `-1`, which nobody closes). -/
def KeepsBorrowed (P : Platform σ) (w : World σ) : DeviceAct → Prop
  | .constructFd _ fd => 0 ≤ (P.libevdevNewFromFd fd w.env).1.1 → fd = -1 ∨ Obtained fd w.log
  | .createFd _ fd => 0 ≤ (P.libevdevNewFromFd fd w.env).1.1 → fd = -1 ∨ Obtained fd w.log
  | _ => True

/-! ## The invariant -/

/-- Every descriptor closed in the log was obtained before it was closed. -/
def ClosesObtained : List Call → Prop
  | [] => True
  | c :: log => (∀ n, c = .posixClose n → Obtained n log) ∧ ClosesObtained log

theorem Obtained.cons {n : Fd} {log : List Call} (h : Obtained n log) (c : Call) :
    Obtained n (c :: log) := by
  rcases h with ⟨path, flags, errno, hmem⟩
  exact ⟨path, flags, errno, List.mem_cons_of_mem c hmem⟩

theorem obtained_of_open (path : String) (flags : BitVec 32) (n : Fd) (errno : Int)
    (log : List Call) : Obtained n (.posixOpen path flags n errno :: log) :=
  ⟨path, flags, errno, List.mem_cons_self⟩

theorem ClosesObtained.obtained {n : Fd} {post pre : List Call}
    (h : ClosesObtained (post ++ Call.posixClose n :: pre)) : Obtained n pre := by
  induction post with
  | nil => exact h.1 n rfl
  | cons c post ih => exact ih h.2

/-- Every descriptor that an object owns, and every descriptor that was closed, was obtained. -/
structure OwnedObtained (w : World σ) : Prop where
  owned : ∀ {d D}, w.devices d = some D → D.ownedFd ≠ -1 → Obtained D.ownedFd w.log
  closes : ClosesObtained w.log

namespace OwnedObtained

variable {w : World σ}

theorem init (s : σ) : OwnedObtained (World.init s) where
  owned := by
    intro d D hD
    cases hD
  closes := trivial

/-- A call keeps the invariant if it closes nothing but obtained descriptors. -/
theorem called (h : OwnedObtained w) {c : Call} (s : σ)
    (hc : ∀ n, c = .posixClose n → Obtained n w.log) : OwnedObtained (w.called c s) where
  owned := by
    intro d D hD hown
    exact (h.owned hD hown).cons c
  closes := ⟨hc, h.closes⟩

theorem opened (h : OwnedObtained w) (P : Platform σ) (filename : String) (flags : BitVec 32) :
    OwnedObtained (w.called (.posixOpen filename flags (P.posixOpen filename flags w.env).1
      (P.errno (P.posixOpen filename flags w.env).2)) (P.posixOpen filename flags w.env).2) :=
  h.called _ fun n hn => by cases hn

/-- Writing an object keeps the invariant if what it owns afterwards was obtained. -/
theorem write (h : OwnedObtained w) {d : DeviceId} {X : Option Device}
    (hX : ∀ D, X = some D → D.ownedFd ≠ -1 → Obtained D.ownedFd w.log) :
    OwnedObtained (w.setDevice d X) where
  owned := by
    intro d' D hD hown
    by_cases hdd : d' = d
    · subst hdd
      have hXD : X = some D := by simpa using hD
      exact hX D hXD hown
    · have hold : w.devices d' = some D := by simpa [hdd] using hD
      exact h.owned hold hown
  closes := h.closes

theorem empty (h : OwnedObtained w) (d : DeviceId) : OwnedObtained (w.setDevice d (some {})) := by
  apply h.write
  intro D hD hown
  cases hD
  exact absurd rfl hown

theorem gone (h : OwnedObtained w) (d : DeviceId) : OwnedObtained (w.setDevice d none) := by
  apply h.write
  intro D hD
  cases hD

/-- What an object owns may be closed. -/
theorem disposed (h : OwnedObtained w) {d : DeviceId} {D : Device} (hD : w.devices d = some D) :
    OwnedObtained (w.disposed P D) := by
  have hfreed : OwnedObtained (w.freed P D.raw) := by
    cases hraw : D.raw with
    | none => exact h
    | some p => exact h.called _ fun n hn => by cases hn
  by_cases hown : D.ownedFd = -1
  · rw [World.disposed, hown, World.closed_of_none]
    exact hfreed
  · -- `::close` gets the owned descriptor, which the invariant says was obtained.
    have hobtained : Obtained D.ownedFd (w.freed P D.raw).log :=
      hfreed.owned (by simpa using hD) hown
    rw [World.disposed, World.closed_of_ne P _ _ hown]
    refine hfreed.called _ fun n hn => ?_
    cases hn
    exact hobtained

/-- `create`, once the old values are disposed of: the object is given its new values. -/
theorem replaced (h : OwnedObtained w) {d : DeviceId} {D D' : Device}
    (hD : w.devices d = some D) (hD' : D'.ownedFd ≠ -1 → Obtained D'.ownedFd w.log) :
    OwnedObtained ((w.disposed P D).setDevice d (some D')) := by
  apply (h.disposed hD).write
  intro E hE hown
  cases hE
  -- What was obtained stays obtained, whatever `destroy` adds to the log.
  have hmono : ∀ l : List Call, Obtained D'.ownedFd (l ++ w.log) := by
    intro l
    induction l with
    | nil => exact hD' hown
    | cons c l ih => exact ih.cons c
  rw [World.disposed_log]
  exact hmono _

/-- Every action that records no borrowed descriptor as owned keeps the invariant. -/
theorem deviceInvariant (P : Platform σ) :
    DeviceInvariant P (KeepsBorrowed P) (OwnedObtained (σ := σ)) where
  birth := fun h _ => h.empty _
  death := fun h _ => h.gone _
  dispose := fun h hD _ => (h.disposed hD).empty _
  give := by
    intro w d s E h _ _ hE _
    refine (h.empty s).write fun D hD hown => ?_
    cases hD
    exact h.owned hE hown
  create := by
    intro w d D w' h hD _ hafter
    have hcall := h.called (c := .libevdevNew (P.libevdevNew w.env).1) (P.libevdevNew w.env).2
      fun n hn => by cases hn
    rcases Device.after_create hD hafter with ⟨_, rfl⟩ | ⟨p, _, rfl⟩
    · exact hcall
    · exact hcall.replaced hD fun hown => absurd rfl hown
  createFd := by
    intro w d D fd w' h hD hG hafter
    have hcall := h.called (c := .libevdevNewFromFd fd (P.libevdevNewFromFd fd w.env).1.1
      (P.libevdevNewFromFd fd w.env).1.2) (P.libevdevNewFromFd fd w.env).2 fun n hn => by cases hn
    rcases Device.after_createFd hD hafter with ⟨_, rfl⟩ | ⟨hok, rfl⟩
    · exact hcall
    · refine hcall.replaced hD fun hown => ?_
      -- Here the argument becomes owned, and the condition on the action is used.
      rcases hG hok with hneg | hobtained
      · exact absurd hneg hown
      · exact hobtained.cons _
  createPath := by
    intro w d D filename flags w' h hD _ hafter
    have hopened := h.opened P filename flags
    let r := P.libevdevNewFromFd (P.posixOpen filename flags w.env).1
      (P.posixOpen filename flags w.env).2
    have hcall := hopened.called
      (c := .libevdevNewFromFd (P.posixOpen filename flags w.env).1 r.1.1 r.1.2) r.2
      fun n hn => by cases hn
    rcases Device.after_createPath hD hafter with ⟨_, rfl⟩ | ⟨_, _, rfl⟩ | ⟨_, _, rfl⟩
    · exact hopened
    · -- The descriptor that cannot be used is closed right after it was opened.
      refine hcall.called _ fun n hn => ?_
      cases hn
      exact ((obtained_of_open filename flags _ _ w.log).cons _)
    · refine hcall.replaced hD fun _ => ?_
      exact ((obtained_of_open filename flags _ _ w.log).cons _)
  openPath := by
    intro w d D filename flags w' h hD _ hafter
    have hopened := h.opened P filename flags
    -- Where `owned_fd` is written it is what `::open` has just returned.
    rcases Device.after_openPath hD hafter with ⟨_, rfl⟩ | ⟨_, _, rfl⟩ | ⟨p, _, _, _, rfl⟩
    · exact h
    · refine hopened.write fun E hE _ => ?_
      cases hE
      exact obtained_of_open filename flags _ _ w.log
    · refine (hopened.called _ fun n hn => by cases hn).write fun E hE _ => ?_
      cases hE
      exact (obtained_of_open filename flags _ _ w.log).cons _
  setFd := by
    intro w d D fd w' h hD _ hafter
    -- `owned_fd` is not written: the descriptor stays borrowed.
    rcases Device.after_setFd hD hafter with ⟨p, _, rfl⟩
    exact h.called _ fun n hn => by cases hn
  changeFd := by
    intro w d D fd w' h hD _ hafter
    rcases Device.after_changeFd hD hafter with ⟨p, _, rfl⟩
    exact h.called _ fun n hn => by cases hn
  constructDefault := fun _ _ _ => trivial
  constructFd := fun _ _ hG => hG
  constructPath := fun _ _ _ => trivial
  moveConstruct := fun _ _ => trivial
  moveAssign := fun _ _ _ => ⟨trivial, trivial⟩
  destruct := fun _ => trivial

end OwnedObtained

/-- Along every run in which `create(int)` keeps borrowed descriptors borrowed, no descriptor that
the caller supplied is closed. -/
theorem borrowed_never_closed {s₀ : σ} {acts : List DeviceAct} {w : World σ}
    (hrun : Run (Guarded (KeepsBorrowed P) (deviceStep P)) (World.init s₀) acts w) :
    BorrowedNeverClosed acts w := by
  have hinv : OwnedObtained w := (OwnedObtained.deviceInvariant P).run (OwnedObtained.init s₀) hrun
  intro n _ post pre hlog
  -- No closed descriptor is borrowed, supplied by this run or not.
  have hcloses : ClosesObtained (post ++ Call.posixClose n :: pre) := hlog ▸ hinv.closes
  exact hcloses.obtained

/-- A caller with the descriptor 5 open. -/
def borrowedScript : Script :=
  { files := fun n => if n = 5 then some 0 else none
    handles := [0] }

/-- A descriptor supplied with `set_fd` is left alone. -/
theorem borrowed_never_closed_setFd :
    ∃ w, Run (Guarded (KeepsBorrowed Script.platform) (deviceStep Script.platform))
        (World.init borrowedScript) [.constructDefault 0, .setFd 0 5, .destruct 0] w ∧
      BorrowedNeverClosed [.constructDefault 0, .setFd 0 5, .destruct 0] w := by
  have hstart : Run (Guarded (KeepsBorrowed Script.platform) (deviceStep Script.platform))
      (World.init borrowedScript) [] (World.init borrowedScript) := Run.nil
  have hnew := hstart.snoc (a := DeviceAct.constructDefault 0) ⟨trivial, rfl⟩
  have hset := hnew.snoc (a := DeviceAct.setFd 0 5) ⟨trivial, rfl⟩
  have hrun := hset.snoc (a := DeviceAct.destruct 0) ⟨trivial, rfl⟩
  exact ⟨_, hrun, borrowed_never_closed hrun⟩

/-- `Device(int)` and the destructor: the caller's descriptor is closed. -/
theorem borrowed_closed_by_constructFd :
    ∃ w, Run (deviceStep Script.platform) (World.init borrowedScript)
        [.constructFd 0 5, .destruct 0] w ∧
      ¬ BorrowedNeverClosed [.constructFd 0 5, .destruct 0] w := by
  have hstart : Run (deviceStep Script.platform) (World.init borrowedScript) []
      (World.init borrowedScript) := Run.nil
  have hnew := hstart.snoc (a := DeviceAct.constructFd 0 5) rfl
  have hrun := hnew.snoc (a := DeviceAct.destruct 0) rfl
  refine ⟨_, hrun, fun hnever => ?_⟩
  have hobtained := hnever 5 ⟨.constructFd 0 5, List.mem_cons_self, rfl⟩ []
    [.libevdevFree 0, .libevdevNewFromFd 5 0 (some 0)] rfl
  -- The log before the `::close` has no `::open` at all.
  rcases hobtained with ⟨path, flags, hmem⟩
  simp at hmem

end Evdevxx
