import Evdevxx.Model.Scripted
import Evdevxx.Ownership.Handles

/-!
# Descriptors — the files that a `Device` opened itself

`deviceDescriptors V` is the custody of the descriptors: a `Device` holds its `owned_fd`, a
successful `::open` acquires one, `::close` releases one.  `create(int)` takes over a descriptor
that was never acquired here, which the machine allows (`Move.adopt`) as long as no other object
holds it.

Two paths break the correspondence, and `KeepsOwned` leaves them out: `create(path)` treats the
descriptor 0 as a failed `::open` and drops it, and `create(int)` may be given a descriptor that
some object owns already.
-/

namespace Evdevxx

open Ledger (Entry Moves Balanced releasesOf)

variable {σ : Type} {P : Platform σ} {V : Views σ}

/-- The descriptor the object will close. -/
def Device.owned (D : Device) : Option Fd :=
  if D.ownedFd = -1 then none else some D.ownedFd

def descriptorEntry : Call → Option (Entry Fd)
  | .posixOpen _ _ ret _ => if ret < 0 then none else some (.acquired ret)
  | .posixClose fd => some (.released fd)
  | _ => none

def deviceDescriptors (V : Views σ) : Custody σ DeviceId Fd Device where
  memory := Device.memory
  held := Device.owned
  entry := descriptorEntry
  inUse := fun s n => V.files s n ≠ none

theorem deviceDescriptors_lawful (V : Views σ) : (deviceDescriptors V).Lawful where
  get_set := fun _ _ _ => rfl
  get_called := fun _ _ _ => rfl
  log_set := fun _ _ _ => rfl
  env_set := fun _ _ _ => rfl
  get_init := fun _ => rfl

/-- The action neither loses a descriptor 0 nor takes over a descriptor that an object owns. -/
def KeepsOwned (P : Platform σ) (w : World σ) : DeviceAct → Prop
  | .constructPath _ filename flags => (P.posixOpen filename flags w.env).1 ≠ 0
  | .createPath _ filename flags => (P.posixOpen filename flags w.env).1 ≠ 0
  | .constructFd _ fd => 0 ≤ (P.libevdevNewFromFd fd w.env).1.1 →
      ∀ d D, w.devices d = some D → D.owned ≠ some fd
  | .createFd _ fd => 0 ≤ (P.libevdevNewFromFd fd w.env).1.1 →
      ∀ d D, w.devices d = some D → D.owned ≠ some fd
  | _ => True

namespace DeviceDescriptors

variable {w : World σ} {d : DeviceId} {D : Device} {loc : Option Fd} {n : Fd}

theorem neg_of_lt_one (hlow : n < 1) (hne : n ≠ 0) : n < 0 :=
  Int.lt_iff_le_and_ne.2 ⟨Int.lt_add_one_iff.1 hlow, hne⟩

theorem owned_of_ne (h : D.ownedFd ≠ -1) : D.owned = some D.ownedFd := by
  simp [Device.owned, h]

theorem heldAt_of_some (hD : w.devices d = some D) :
    (deviceDescriptors V).heldAt w d = D.owned := by
  simp [Custody.heldAt, deviceDescriptors, Device.memory, hD]

theorem heldAt_of_none (hD : w.devices d = none) : (deviceDescriptors V).heldAt w d = none := by
  simp [Custody.heldAt, deviceDescriptors, Device.memory, hD]

/-- Writes to an object that keep its descriptor. -/
theorem books_setDevice {X : Option Device}
    (hX : X.bind Device.owned = (w.devices d).bind Device.owned) :
    (deviceDescriptors V).books loc (w.setDevice d X) = (deviceDescriptors V).books loc w :=
  Custody.books_set_of_held (deviceDescriptors_lawful V) hX

/-- Calls that open and close nothing. -/
theorem books_called {c : Call} {s : σ} (hc : descriptorEntry c = none)
    (hs : V.files s = V.files w.env) :
    (deviceDescriptors V).books loc (w.called c s) = (deviceDescriptors V).books loc w := by
  refine Custody.books_called_of_neutral (deviceDescriptors_lawful V) hc ?_
  funext n
  simp [deviceDescriptors, hs]

theorem inUse_posixClose (hdoc : P.Documented V) (n : Fd) (s : σ) :
    (fun n' => V.files (P.posixClose n s) n' ≠ none) =
      Function.update (fun n' => V.files s n' ≠ none) n False := by
  rw [(hdoc.posixClose n s).1]
  exact isSome_update_none _ _

/-- A descriptor that `::open` returns. -/
theorem moves_opened (hdoc : P.Documented V) {filename : String} {flags : BitVec 32}
    (hok : 0 ≤ (P.posixOpen filename flags w.env).1) :
    let o := P.posixOpen filename flags w.env
    Moves ((deviceDescriptors V).books none w)
      ((deviceDescriptors V).books (some o.1)
        (w.called (.posixOpen filename flags o.1 (P.errno o.2)) o.2)) := by
  intro o
  rcases (hdoc.posixOpen filename flags w.env).1 with ⟨hneg, _⟩ | ⟨_, hfresh, f, hfiles⟩
  · exact absurd hneg (ne_minusOne_of_nonneg hok)
  · have hentry : descriptorEntry (.posixOpen filename flags o.1 (P.errno o.2)) =
        some (.acquired o.1) := by
      have hnot : ¬ o.1 < 0 := Int.not_lt.2 hok
      simp [descriptorEntry, hnot]
    refine Relation.ReflTransGen.single ?_
    refine Custody.move_gain (deviceDescriptors_lawful V) hentry (fun hused => hused hfresh) ?_
    calc (fun n => V.files o.2 n ≠ none)
        = fun n => Function.update (V.files w.env) o.1 (some f) n ≠ none := by rw [hfiles]
      _ = _ := isSome_update_some _ _ _

/-- An `::open` that fails. -/
theorem books_notOpened (hdoc : P.Documented V) {filename : String} {flags : BitVec 32}
    (hneg : (P.posixOpen filename flags w.env).1 < 0) :
    (deviceDescriptors V).books loc (w.called
      (.posixOpen filename flags (P.posixOpen filename flags w.env).1
        (P.errno (P.posixOpen filename flags w.env).2)) (P.posixOpen filename flags w.env).2) =
      (deviceDescriptors V).books loc w := by
  rcases (hdoc.posixOpen filename flags w.env).1 with ⟨_, hfiles⟩ | ⟨hok, _⟩
  · exact books_called (by simp [descriptorEntry, hneg]) hfiles
  · exact absurd hneg (Int.not_lt.2 hok)

/-- The descriptor in a local variable is closed. -/
theorem moves_closed (hdoc : P.Documented V) :
    Moves ((deviceDescriptors V).books (some n) w)
      ((deviceDescriptors V).books none (w.called (.posixClose n) (P.posixClose n w.env))) := by
  refine Relation.ReflTransGen.single ?_
  exact Custody.move_discard (deviceDescriptors_lawful V) rfl (inUse_posixClose hdoc n w.env)

theorem books_freed (hdoc : P.Documented V) {raw : Option Handle}
    (hlive : ∀ p, raw = some p → ∃ v, V.evdevs w.env p = some v) :
    (deviceDescriptors V).books loc (w.freed P raw) = (deviceDescriptors V).books loc w := by
  cases raw with
  | none => rfl
  | some p =>
      rcases hlive p rfl with ⟨v, hv⟩
      exact books_called rfl (hdoc.libevdevFree p w.env v hv).2.1

/-- `destroy` closes the descriptor of the object. -/
theorem moves_disposed (hdoc : P.Documented V)
    (hlive : D.Live V w.env) (hD : w.devices d = some D) :
    Moves ((deviceDescriptors V).books loc w)
      ((deviceDescriptors V).books loc ((w.disposed P D).setDevice d (some {}))) := by
  have hfreed : (deviceDescriptors V).books loc (w.freed P D.raw) =
      (deviceDescriptors V).books loc w := books_freed hdoc hlive
  have hD' : (w.freed P D.raw).devices d = some D := by simpa using hD
  by_cases hown : D.ownedFd = -1
  · have hsame : (deviceDescriptors V).books loc ((w.freed P D.raw).setDevice d (some {})) =
        (deviceDescriptors V).books loc (w.freed P D.raw) := by
      refine books_setDevice ?_
      rw [hD']
      simp [Device.owned, hown]
    rw [World.disposed, hown, World.closed_of_none, hsame, hfreed]
    exact Relation.ReflTransGen.refl
  · rw [World.disposed, World.closed_of_ne P _ _ hown, ← hfreed]
    refine Relation.ReflTransGen.single ?_
    exact Custody.move_drop (deviceDescriptors_lawful V) (c := .posixClose D.ownedFd)
      (X := some {}) ((heldAt_of_some hD').trans (owned_of_ne hown)) rfl
      (inUse_posixClose hdoc _ _) rfl

/-- The files that are open after `destroy`. -/
theorem files_disposed (hdoc : P.Documented V)
    (hlive : D.Live V w.env) (hn : D.owned ≠ some n) :
    V.files (w.disposed P D).env n = V.files w.env n := by
  have hfreed : V.files (w.freed P D.raw).env = V.files w.env := by
    cases hraw : D.raw with
    | none => rfl
    | some p =>
        rcases hlive _ hraw with ⟨v, hv⟩
        exact (hdoc.libevdevFree p w.env v hv).2.1
  by_cases hown : D.ownedFd = -1
  · rw [World.disposed, hown, World.closed_of_none, hfreed]
  · -- Another descriptor is closed.
    have hne : n ≠ D.ownedFd := by
      intro heq
      exact hn ((owned_of_ne hown).trans (congrArg some heq.symm))
    calc V.files (w.disposed P D).env n
        = V.files (P.posixClose D.ownedFd (w.freed P D.raw).env) n := by
          rw [World.disposed, World.closed_of_ne P _ _ hown, World.called_env]
      _ = V.files (w.freed P D.raw).env n := by
          rw [(hdoc.posixClose _ _).1, Function.update_of_ne hne]
      _ = V.files w.env n := by rw [hfreed]

/-- `destroy` and `acquire` with a descriptor in a local variable. -/
theorem moves_replaced (hdoc : P.Documented V)
    (hlive : D.Live V w.env) (hD : w.devices d = some D)
    (raw : Option Handle) (hn : n ≠ -1) :
    Moves ((deviceDescriptors V).books (some n) w)
      ((deviceDescriptors V).books none
        ((w.disposed P D).setDevice d (some { raw := raw, ownedFd := n }))) := by
  have hempty : ((w.disposed P D).setDevice d (some {})).devices d = some {} := by simp
  have howned : (some ({ raw := raw, ownedFd := n } : Device)).bind Device.owned = some n :=
    owned_of_ne hn
  have hinstall := Custody.move_install (deviceDescriptors_lawful V)
    (w := (w.disposed P D).setDevice d (some {})) (i := d)
    (X := some { raw := raw, ownedFd := n }) (heldAt_of_some hempty) howned
  have htwice : (deviceDescriptors V).memory.set ((w.disposed P D).setDevice d (some {})) d
      (some { raw := raw, ownedFd := n }) =
        (w.disposed P D).setDevice d (some { raw := raw, ownedFd := n }) :=
    World.setDevice_setDevice _ _ _ _
  rw [htwice] at hinstall
  exact (moves_disposed hdoc hlive hD).tail hinstall

/-- `destroy` and `acquire` with no descriptor. -/
theorem moves_emptied (hdoc : P.Documented V)
    (hlive : D.Live V w.env) (hD : w.devices d = some D)
    (raw : Option Handle) :
    Moves ((deviceDescriptors V).books none w)
      ((deviceDescriptors V).books none
        ((w.disposed P D).setDevice d (some { raw := raw, ownedFd := -1 }))) := by
  have hsame : (deviceDescriptors V).books none
      (((w.disposed P D).setDevice d (some {})).setDevice d
        (some { raw := raw, ownedFd := -1 })) =
      (deviceDescriptors V).books none ((w.disposed P D).setDevice d (some {})) := by
    refine books_setDevice ?_
    simp [Device.owned]
  rw [World.setDevice_setDevice] at hsame
  rw [hsame]
  exact moves_disposed hdoc hlive hD

/-- `destroy` and `acquire` with a descriptor that is open and that no object owns. -/
theorem moves_adopted (hdoc : P.Documented V)
    (hlive : D.Live V w.env) (hD : w.devices d = some D)
    (raw : Option Handle) (hopen : V.files w.env n ≠ none)
    (hunowned : ∀ d D, w.devices d = some D → D.owned ≠ some n) (hn : n ≠ -1) :
    Moves ((deviceDescriptors V).books none w)
      ((deviceDescriptors V).books none
        ((w.disposed P D).setDevice d (some { raw := raw, ownedFd := n }))) := by
  let w₁ := (w.disposed P D).setDevice d (some {})
  have hempty : w₁.devices d = some {} := World.setDevice_devices_self _ _ _
  -- `destroy` closes what the object owned, which is not the adopted descriptor.
  have hopen' : V.files w₁.env n ≠ none := by
    have hfiles : V.files w₁.env n = V.files w.env n :=
      files_disposed hdoc hlive (hunowned d D hD)
    rw [hfiles]
    exact hopen
  -- Nobody owned `n` before, and the emptied object owns nothing now.
  have hunheld : ∀ d', (deviceDescriptors V).heldAt w₁ d' ≠ some n := by
    intro d' hheld
    by_cases hdd : d' = d
    · subst hdd
      rw [heldAt_of_some hempty] at hheld
      cases hheld
    · have hdev : w₁.devices d' = w.devices d' := by simp [w₁, hdd]
      cases hE : w.devices d' with
      | none =>
          rw [heldAt_of_none (hdev.trans hE)] at hheld
          cases hheld
      | some E =>
          rw [heldAt_of_some (hdev.trans hE)] at hheld
          exact hunowned d' E hE hheld
  have howned : (some ({ raw := raw, ownedFd := n } : Device)).bind Device.owned = some n :=
    owned_of_ne hn
  have hadopt := Custody.move_adopt (deviceDescriptors_lawful V) (w := w₁) (i := d)
    (X := some { raw := raw, ownedFd := n }) (heldAt_of_some hempty) hopen' hunheld howned
  have htwice : (deviceDescriptors V).memory.set w₁ d (some { raw := raw, ownedFd := n }) =
      (w.disposed P D).setDevice d (some { raw := raw, ownedFd := n }) :=
    World.setDevice_setDevice _ _ _ _
  rw [htwice] at hadopt
  exact (moves_disposed hdoc hlive hD).tail hadopt

end DeviceDescriptors

/-! ## The actions -/

/-- The machines of the handles and of the descriptors follow the program. -/
def DescriptorsFollowed (V : Views σ) (s₀ : σ) (w : World σ) : Prop :=
  (deviceHandles V).Followed s₀ w ∧ (deviceDescriptors V).Followed s₀ w

namespace DescriptorsFollowed

open DeviceDescriptors

variable {w : World σ} {s₀ : σ} {d : DeviceId} {D : Device}

theorem live (hw : DescriptorsFollowed V s₀ w) (hD : w.devices d = some D) : D.Live V w.env :=
  DeviceHandles.live hw.1 hD

theorem deviceInvariant (hdoc : P.Documented V) (s₀ : σ) :
    DeviceInvariant P (KeepsOwned P) (DescriptorsFollowed V s₀) where
  birth := fun hw hfree => ⟨(DeviceHandles.deviceInvariant hdoc s₀).birth hw.1 hfree,
    hw.2.same (books_setDevice (by simp [hfree, Device.owned]))⟩
  death := fun hw hD => ⟨(DeviceHandles.deviceInvariant hdoc s₀).death hw.1 hD,
    hw.2.same (books_setDevice (by simp [hD, Device.owned]))⟩
  dispose := by
    intro w d D hw hD _
    exact ⟨(DeviceHandles.deviceInvariant hdoc s₀).dispose hw.1 hD trivial,
      hw.2.moves (moves_disposed hdoc (hw.live hD) hD)⟩
  give := by
    intro w d s E hw hds hempty hE _
    refine ⟨(DeviceHandles.deviceInvariant hdoc s₀).give hw.1 hds hempty hE trivial,
      hw.2.moves ?_⟩
    exact Custody.moves_transfer (deviceDescriptors_lawful V) (Ne.symm hds) hE rfl
      (heldAt_of_some hempty)
  create := by
    intro w d D w' hw hD _ hafter
    refine ⟨(DeviceHandles.deviceInvariant hdoc s₀).create hw.1 hD trivial hafter, ?_⟩
    let w₁ := w.called (.libevdevNew (P.libevdevNew w.env).1) (P.libevdevNew w.env).2
    have hcall : (deviceDescriptors V).Followed s₀ w₁ :=
      hw.2.same (books_called rfl (hdoc.libevdevNew w.env).2.1)
    -- The new handle comes without a descriptor.
    rcases Device.after_create hD hafter with ⟨_, rfl⟩ | ⟨p, _, rfl⟩
    · exact hcall
    · exact hcall.moves (moves_emptied (w := w₁) hdoc ((hw.live hD).new hdoc) hD _)
  createFd := by
    intro w d D fd w' hw hD hG hafter
    refine ⟨(DeviceHandles.deviceInvariant hdoc s₀).createFd hw.1 hD trivial hafter, ?_⟩
    let r := P.libevdevNewFromFd fd w.env
    let w₁ := w.called (.libevdevNewFromFd fd r.1.1 r.1.2) r.2
    have hfiles : V.files r.2 = V.files w.env := hdoc.files_libevdevNewFromFd fd w.env
    have hcall : (deviceDescriptors V).Followed s₀ w₁ := hw.2.same (books_called rfl hfiles)
    have hlive : D.Live V w₁.env := (hw.live hD).newFromFd hdoc fd
    rcases Device.after_createFd hD hafter with ⟨_, rfl⟩ | ⟨hok, rfl⟩
    · exact hcall
    · by_cases hfd : fd = -1
      · subst hfd
        exact hcall.moves (moves_emptied (w := w₁) hdoc hlive hD _)
      · -- `libevdev_new_from_fd` has read from the descriptor, so it is open.
        have hopen : V.files w₁.env fd ≠ none := by
          have hsome := ((hdoc.libevdevNewFromFd fd w.env).2 hok).1
          have hsame : V.files w₁.env fd = V.files w.env fd := congrFun hfiles fd
          rw [hsame]
          exact Option.isSome_iff_ne_none.1 hsome
        exact hcall.moves (moves_adopted (w := w₁) hdoc hlive hD _ hopen (hG hok) hfd)
  createPath := by
    intro w d D filename flags w' hw hD hG hafter
    refine ⟨(DeviceHandles.deviceInvariant hdoc s₀).createPath hw.1 hD trivial hafter, ?_⟩
    let o := P.posixOpen filename flags w.env
    let r := P.libevdevNewFromFd o.1 o.2
    let w₁ := w.called (.posixOpen filename flags o.1 (P.errno o.2)) o.2
    let w₂ := w₁.called (.libevdevNewFromFd o.1 r.1.1 r.1.2) r.2
    have hread : (deviceDescriptors V).books (some o.1) w₂ =
        (deviceDescriptors V).books (some o.1) w₁ :=
      books_called rfl (hdoc.files_libevdevNewFromFd o.1 o.2)
    rcases Device.after_createPath hD hafter with ⟨hlow, rfl⟩ | ⟨hpos, _, rfl⟩ | ⟨hpos, _, rfl⟩
    · -- The descriptor is not 0, so there is none.
      exact hw.2.same (books_notOpened hdoc (neg_of_lt_one hlow hG))
    · have hopened := moves_opened (w := w) hdoc (Int.le_trans (by decide) hpos)
      -- The descriptor goes from `::open` to `::close` without ever being owned.
      have hclosed : Moves ((deviceDescriptors V).books (some o.1) w₂) _ := moves_closed hdoc
      rw [hread] at hclosed
      exact hw.2.moves (hopened.trans hclosed)
    · have hopened := moves_opened (w := w) hdoc (Int.le_trans (by decide) hpos)
      -- The descriptor waits in a local variable until the object is emptied.
      have hlive : D.Live V w₂.env :=
        ((hw.live hD).opened hdoc filename flags).newFromFd hdoc o.1
      have hne : o.1 ≠ -1 := ne_minusOne_of_nonneg (Int.le_trans (by decide) hpos)
      have hreplaced := moves_replaced (w := w₂) hdoc hlive hD r.1.2 hne
      rw [hread] at hreplaced
      exact hw.2.moves (hopened.trans hreplaced)
  openPath := by
    intro w d D filename flags w' hw hD _ hafter
    refine ⟨(DeviceHandles.deviceInvariant hdoc s₀).openPath hw.1 hD trivial hafter, ?_⟩
    let o := P.posixOpen filename flags w.env
    let w₁ := w.called (.posixOpen filename flags o.1 (P.errno o.2)) o.2
    rcases Device.after_openPath hD hafter with
      ⟨_, rfl⟩ | ⟨hclosed, hneg, rfl⟩ | ⟨p, hraw, hclosed, hok, rfl⟩
    · exact hw.2
    · -- `::open` returned `-1`, which is what `owned_fd` was.
      have hminus : o.1 = -1 := hdoc.posixOpen_eq_minusOne hneg
      have hsame : (deviceDescriptors V).books none
          (w₁.setDevice d (some { D with ownedFd := o.1 })) =
            (deviceDescriptors V).books none w₁ := by
        refine books_setDevice ?_
        simp [w₁, hD, Device.owned, hclosed, hminus]
      exact hw.2.same (hsame.trans (books_notOpened hdoc hneg))
    · let w₂ := w₁.called (.libevdevSetFd p o.1 (P.libevdevSetFd p o.1 o.2).1)
        (P.libevdevSetFd p o.1 o.2).2
      rcases hw.live hD _ hraw with ⟨v, hv⟩
      have hv₁ : V.evdevs o.2 p = some v :=
        hdoc.evdevs_posixOpen hv filename flags
      have hset : (deviceDescriptors V).books (some o.1) w₂ =
          (deviceDescriptors V).books (some o.1) w₁ :=
        books_called rfl (hdoc.libevdevSetFd p o.1 o.2 v hv₁).2.2.2.1
      have hD₂ : w₂.devices d = some D := hD
      -- `open` was not refused, so the object owned nothing.
      have hfree : (deviceDescriptors V).heldAt w₂ d = none := by
        rw [heldAt_of_some hD₂]
        simp [Device.owned, hclosed]
      have hne : o.1 ≠ -1 := ne_minusOne_of_nonneg hok
      have howned : (some ({ D with ownedFd := o.1 } : Device)).bind Device.owned = some o.1 :=
        owned_of_ne hne
      have hinstall := Custody.move_install (deviceDescriptors_lawful V) (w := w₂) hfree howned
      rw [hset] at hinstall
      exact hw.2.moves ((moves_opened hdoc hok).tail hinstall)
  setFd := by
    intro w d D fd w' hw hD _ hafter
    refine ⟨(DeviceHandles.deviceInvariant hdoc s₀).setFd hw.1 hD trivial hafter, ?_⟩
    rcases Device.after_setFd hD hafter with ⟨p, hraw, rfl⟩
    rcases hw.live hD _ hraw with ⟨v, hv⟩
    exact hw.2.same (books_called rfl (hdoc.libevdevSetFd p fd w.env v hv).2.2.2.1)
  changeFd := by
    intro w d D fd w' hw hD _ hafter
    refine ⟨(DeviceHandles.deviceInvariant hdoc s₀).changeFd hw.1 hD trivial hafter, ?_⟩
    rcases Device.after_changeFd hD hafter with ⟨p, hraw, rfl⟩
    rcases hw.live hD _ hraw with ⟨v, hv⟩
    exact hw.2.same (books_called rfl (hdoc.libevdevChangeFd p fd w.env v hv).2.2.1)
  constructDefault := fun _ _ _ => trivial
  constructFd := by
    intro w d fd _ hfree hG hok d' D' hD'
    by_cases hdd : d' = d
    · -- The new object owns nothing.
      subst hdd
      have hempty : D' = {} := by simpa using hD'.symm
      rw [hempty]
      intro h
      cases h
    · exact hG hok d' D' (by simpa [hdd] using hD')
  constructPath := fun _ _ hG => hG
  moveConstruct := fun _ _ => trivial
  moveAssign := fun _ _ _ => ⟨trivial, trivial⟩
  destruct := fun _ => trivial

end DescriptorsFollowed

/-! ## Closed exactly once -/

/-- The descriptors acquired with `::open` and released with `::close`, newest entry first. -/
def descriptorLedger (w : World σ) : List (Entry Fd) :=
  w.log.filterMap descriptorEntry

/-- Each descriptor that an `::open` returned is closed at most once, not while a valid object
records it, and once no object records it, it has been closed. -/
structure OpenedClosedOnce (w : World σ) : Prop where
  atMostOnce : ∀ n post pre, descriptorLedger w = post ++ Entry.acquired n :: pre →
    releasesOf n post ≤ 1
  notWhileOwned : ∀ n post pre, descriptorLedger w = post ++ Entry.acquired n :: pre →
    Entry.acquired n ∉ post →
    ∀ d D, w.devices d = some D → D.isValid → D.ownedFd = n → releasesOf n post = 0
  closed : ∀ n post pre, descriptorLedger w = post ++ Entry.acquired n :: pre →
    (∀ d D, w.devices d = some D → D.ownedFd ≠ n) → releasesOf n post = 1

/-- A descriptor in the ledger of acquisitions is not negative. -/
theorem nonneg_of_acquired {n : Fd} {log : List Call}
    (h : Entry.acquired n ∈ log.filterMap descriptorEntry) : 0 ≤ n := by
  rcases List.mem_filterMap.1 h with ⟨c, _, hc⟩
  cases c with
  | posixOpen path flags ret =>
      by_cases hneg : ret < 0
      · simp [descriptorEntry, hneg] at hc
      · have hret : ret = n := by simpa [descriptorEntry, hneg] using hc
        exact hret ▸ Int.not_lt.1 hneg
  | _ => simp [descriptorEntry] at hc

/-- Along every run that neither loses a descriptor 0 nor hands an owned descriptor to
`create(int)`, the descriptors that a `Device` opened are closed exactly once. -/
theorem opened_closed_once (hdoc : P.Documented V) {s₀ : σ} {acts : List DeviceAct} {w : World σ}
    (hrun : Run (Guarded (KeepsOwned P) (deviceStep P)) (World.init s₀) acts w) :
    OpenedClosedOnce w := by
  have hstart : DescriptorsFollowed V s₀ (World.init s₀) :=
    ⟨Custody.Followed.init _ s₀, Custody.Followed.init _ s₀⟩
  have hfollowed := (DescriptorsFollowed.deviceInvariant hdoc s₀).run hstart hrun
  have hbalanced : Balanced ((deviceDescriptors V).books none w) :=
    hfollowed.2.balanced (deviceDescriptors_lawful V)
  refine ⟨?_, ?_, ?_⟩
  · intro n post pre hlog
    exact hbalanced.released_at_most_once hlog
  · intro n post pre hlog hlast d D hD _ hown
    have hmem : Entry.acquired n ∈ descriptorLedger w := by simp [hlog]
    -- A descriptor from `::open` is never the `-1` that stands for none.
    have hne : D.ownedFd ≠ -1 := hown ▸ ne_minusOne_of_nonneg (nonneg_of_acquired hmem)
    have hheld : (deviceDescriptors V).holder none w (some d) = some n := by
      refine (DeviceDescriptors.heldAt_of_some hD).trans ?_
      rw [DeviceDescriptors.owned_of_ne hne, hown]
    exact hbalanced.unreleased_of_held hlog hlast (i := some d) hheld
  · intro n post pre hlog hnone
    refine Custody.released_of_unheld hbalanced hlog fun d hheld => ?_
    cases hD : w.devices d with
    | none =>
        rw [DeviceDescriptors.heldAt_of_none hD] at hheld
        cases hheld
    | some D =>
        rw [DeviceDescriptors.heldAt_of_some hD] at hheld
        have hown : D.ownedFd = n := by
          by_cases hne : D.ownedFd = -1
          · simp [Device.owned, hne] at hheld
          · rw [DeviceDescriptors.owned_of_ne hne] at hheld
            exact Option.some.inj hheld
        exact hnone d D hD hown

/-- An open device is moved and destroyed. -/
theorem opened_closed_once_moved :
    ∃ w, Run (Guarded (KeepsOwned Script.platform) (deviceStep Script.platform))
        (World.init { opens := [3], handles := [0] })
        [.constructPath 0 "/dev/input/event0" 0, .moveConstruct 1 0, .destruct 1] w ∧
      OpenedClosedOnce w := by
  have hstart : Run (Guarded (KeepsOwned Script.platform) (deviceStep Script.platform))
      (World.init { opens := [3], handles := [0] }) []
      (World.init { opens := [3], handles := [0] }) := Run.nil
  have hnew := hstart.snoc (a := DeviceAct.constructPath 0 "/dev/input/event0" 0)
    ⟨by simp [KeepsOwned, Script.platform, Script.posixOpen, World.init], rfl⟩
  have hmove := hnew.snoc (a := DeviceAct.moveConstruct 1 0) ⟨trivial, rfl⟩
  have hrun := hmove.snoc (a := DeviceAct.destruct 1) ⟨trivial, rfl⟩
  exact ⟨_, hrun, opened_closed_once Script.documented hrun⟩

/-- A descriptor 0 is never closed; a descriptor given to `create(int)` by the object that owns it
is closed while the object records it. -/
theorem opened_not_closed_once :
    (∃ w, Run (deviceStep Script.platform) (World.init { opens := [0], handles := [0] })
        [.constructPath 0 "/dev/input/event0" 0] w ∧ ¬ OpenedClosedOnce w) ∧
      ∃ w, Run (deviceStep Script.platform) (World.init { opens := [3], handles := [0, 1] })
        [.constructPath 0 "/dev/input/event0" 0, .createFd 0 3] w ∧ ¬ OpenedClosedOnce w := by
  have hzero : Run (deviceStep Script.platform) (World.init { opens := [0], handles := [0] }) []
      (World.init { opens := [0], handles := [0] }) := Run.nil
  have hthree : Run (deviceStep Script.platform) (World.init { opens := [3], handles := [0, 1] }) []
      (World.init { opens := [3], handles := [0, 1] }) := Run.nil
  have hlost := hzero.snoc (a := DeviceAct.constructPath 0 "/dev/input/event0" 0) rfl
  have hnew := hthree.snoc (a := DeviceAct.constructPath 0 "/dev/input/event0" 0) rfl
  have htwice := hnew.snoc (a := DeviceAct.createFd 0 3) rfl
  refine ⟨⟨_, hlost, fun hsound => ?_⟩, ⟨_, htwice, fun hsound => ?_⟩⟩
  · -- No object is left.
    have hone : releasesOf 0 [] = 1 := by
      refine hsound.closed 0 [] [] rfl fun d D hD => ?_
      by_cases hd : d = 0
      · subst hd
        cases hD
      · simp [World.init, hd] at hD
    exact absurd hone (by decide)
  · -- `create(3)` has closed 3 and recorded it.
    have hnone : releasesOf 3 [Entry.released 3] = 0 :=
      hsound.notWhileOwned 3 [.released 3] [] rfl (by decide) 0 _ rfl rfl rfl
    exact absurd hnone (by decide)

end Evdevxx
