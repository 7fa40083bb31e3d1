import Evdevxx.Device.Steps
import Evdevxx.Ownership.Custody

/-!
# Handles — who holds the `libevdev` objects

`deviceHandles V` is the custody of the handles: a `Device` holds its `raw`, `libevdev_new` and a
successful `libevdev_new_from_fd` acquire one, `libevdev_free` releases one.  Every action on
devices is a sequence of moves of the ownership machine.
-/

namespace Evdevxx

open Ledger (Entry Moves Balanced)

/-! ## Names in use -/

section InUse

variable {ρ β : Type} [DecidableEq ρ] (f : ρ → Option β) (r : ρ)

theorem isSome_update_some (b : β) :
    (fun r' => Function.update f r (some b) r' ≠ none) =
      Function.update (fun r' => f r' ≠ none) r True := by
  have hused : (some b ≠ none) = True := eq_true (Option.some_ne_none b)
  rw [← hused]
  exact Function.comp_update (· ≠ none) f r (some b)

theorem isSome_update_none :
    (fun r' => Function.update f r none r' ≠ none) =
      Function.update (fun r' => f r' ≠ none) r False := by
  have hunused : ((none : Option β) ≠ none) = False := eq_false (not_not_intro rfl)
  rw [← hunused]
  exact Function.comp_update (· ≠ none) f r none

/-- Replacing what is remembered about a name in use. -/
theorem isSome_update_of_some {a : β} (hr : f r = some a) (b : β) :
    (fun r' => Function.update f r (some b) r' ≠ none) = fun r' => f r' ≠ none := by
  rw [isSome_update_some]
  -- The name was in use before.
  have hself : (True : Prop) = (f r ≠ none) := by simp [hr]
  rw [hself]
  exact Function.update_eq_self r fun r' => f r' ≠ none

end InUse

variable {σ : Type} {P : Platform σ} {V : Views σ}

/-! ## Custody -/

def handleEntry : Call → Option (Entry Handle)
  | .libevdevNew ret => ret.map Entry.acquired
  | .libevdevNewFromFd _ ret dev => if ret < 0 then none else dev.map Entry.acquired
  | .libevdevFree dev => some (.released dev)
  | _ => none

def deviceHandles (V : Views σ) : Custody σ DeviceId Handle Device where
  memory := Device.memory
  held := fun D => D.raw
  entry := handleEntry
  inUse := fun s h => V.evdevs s h ≠ none

theorem deviceHandles_lawful (V : Views σ) : (deviceHandles V).Lawful where
  get_set := fun _ _ _ => rfl
  get_called := fun _ _ _ => rfl
  log_set := fun _ _ _ => rfl
  env_set := fun _ _ _ => rfl
  get_init := fun _ => rfl

namespace DeviceHandles

variable {w : World σ} {d : DeviceId} {D : Device} {loc : Option Handle} {h : Handle}

theorem heldAt_of_some (hD : w.devices d = some D) : (deviceHandles V).heldAt w d = D.raw := by
  simp [Custody.heldAt, deviceHandles, Device.memory, hD]

/-- A handle that an object holds is live. -/
theorem live_of_balanced (hb : Balanced ((deviceHandles V).books loc w))
    (hD : w.devices d = some D) (hraw : D.raw = some h) : ∃ v, V.evdevs w.env h = some v := by
  have hheld : (deviceHandles V).holder loc w (some d) = some h :=
    (heldAt_of_some hD).trans hraw
  have hused : V.evdevs w.env h ≠ none := hb.used (i := some d) hheld
  exact Option.ne_none_iff_exists'.1 hused

/-- Writes to an object that keep its handle. -/
theorem books_setDevice {X : Option Device} (hX : X.bind (·.raw) = (w.devices d).bind (·.raw)) :
    (deviceHandles V).books loc (w.setDevice d X) = (deviceHandles V).books loc w :=
  Custody.books_set_of_held (deviceHandles_lawful V) hX

/-- Calls that create and free nothing. -/
theorem books_called {c : Call} {s : σ} (hc : handleEntry c = none)
    (hs : ∀ h, V.evdevs s h ≠ none ↔ V.evdevs w.env h ≠ none) :
    (deviceHandles V).books loc (w.called c s) = (deviceHandles V).books loc w := by
  refine Custody.books_called_of_neutral (deviceHandles_lawful V) hc ?_
  funext h
  exact propext (hs h)

theorem books_called_of_same {c : Call} {s : σ} (hc : handleEntry c = none)
    (hs : V.evdevs s = V.evdevs w.env) :
    (deviceHandles V).books loc (w.called c s) = (deviceHandles V).books loc w :=
  books_called hc fun h => by rw [hs]

theorem books_closed (hdoc : P.Documented V) (fd : Fd) :
    (deviceHandles V).books loc (w.closed P fd) = (deviceHandles V).books loc w := by
  unfold World.closed
  split
  · exact books_called_of_same rfl (hdoc.posixClose fd w.env).2.1
  · rfl

/-- `destroy` frees the handle of the object. -/
theorem moves_disposed (hdoc : P.Documented V) (hb : Balanced ((deviceHandles V).books loc w))
    (hD : w.devices d = some D) :
    Moves ((deviceHandles V).books loc w)
      ((deviceHandles V).books loc ((w.disposed P D).setDevice d (some {}))) := by
  -- The object can be thought of as emptied before its descriptor is closed.
  have hend : (w.disposed P D).setDevice d (some {}) =
      ((w.freed P D.raw).setDevice d (some {})).closed P D.ownedFd := by
    simp [World.disposed]
  rw [hend, books_closed hdoc]
  cases hraw : D.raw with
  | none =>
      have hsame : (deviceHandles V).books loc (w.setDevice d (some {})) =
          (deviceHandles V).books loc w := books_setDevice (by simp [hD, hraw])
      rw [World.freed_none, hsame]
      exact Relation.ReflTransGen.refl
  | some h =>
      rcases live_of_balanced hb hD hraw with ⟨v, hv⟩
      have hfree : V.evdevs (P.libevdevFree h w.env) =
          Function.update (V.evdevs w.env) h none := (hdoc.libevdevFree h w.env v hv).1
      refine Relation.ReflTransGen.single ?_
      refine Custody.move_drop (deviceHandles_lawful V) (c := .libevdevFree h)
        (X := some {}) ((heldAt_of_some hD).trans hraw) rfl ?_ rfl
      calc (fun h' => V.evdevs (P.libevdevFree h w.env) h' ≠ none)
          = fun h' => Function.update (V.evdevs w.env) h none h' ≠ none := by rw [hfree]
        _ = _ := isSome_update_none _ _

/-- `destroy` and `acquire` with a new handle. -/
theorem moves_replaced (hdoc : P.Documented V)
    (hb : Balanced ((deviceHandles V).books (some h) w)) (hD : w.devices d = some D) (fd : Fd) :
    Moves ((deviceHandles V).books (some h) w)
      ((deviceHandles V).books none
        ((w.disposed P D).setDevice d (some { raw := some h, ownedFd := fd }))) := by
  have hempty : ((w.disposed P D).setDevice d (some {})).devices d = some {} := by simp
  -- `acquire` takes the handle from the local variable into the emptied object.
  have hinstall := Custody.move_install (deviceHandles_lawful V)
    (w := (w.disposed P D).setDevice d (some {})) (i := d)
    (X := some { raw := some h, ownedFd := fd }) (heldAt_of_some hempty) rfl
  have htwice : (deviceHandles V).memory.set ((w.disposed P D).setDevice d (some {})) d
      (some { raw := some h, ownedFd := fd }) =
        (w.disposed P D).setDevice d (some { raw := some h, ownedFd := fd }) :=
    World.setDevice_setDevice _ _ _ _
  rw [htwice] at hinstall
  exact (moves_disposed hdoc hb hD).tail hinstall

/-- A new handle. -/
theorem moves_new (hdoc : P.Documented V) (hnew : (P.libevdevNew w.env).1 = some h) :
    Moves ((deviceHandles V).books none w)
      ((deviceHandles V).books (some h)
        (w.called (.libevdevNew (some h)) (P.libevdevNew w.env).2)) := by
  have hlaw := hdoc.libevdevNew w.env
  simp only [hnew] at hlaw
  rcases hlaw with ⟨⟨hfresh, hev⟩, _, _⟩
  refine Relation.ReflTransGen.single ?_
  refine Custody.move_gain (deviceHandles_lawful V) rfl (by simpa [deviceHandles] using hfresh) ?_
  calc (fun h' => V.evdevs (P.libevdevNew w.env).2 h' ≠ none)
      = fun h' => Function.update (V.evdevs w.env) h (some .fresh) h' ≠ none := by rw [hev]
    _ = _ := isSome_update_some _ _ _

/-- A new handle that reads from a descriptor. -/
theorem moves_newFromFd (hdoc : P.Documented V) {fd : Fd}
    (hok : 0 ≤ (P.libevdevNewFromFd fd w.env).1.1) :
    ∃ h, (P.libevdevNewFromFd fd w.env).1.2 = some h ∧
      Moves ((deviceHandles V).books none w)
        ((deviceHandles V).books (some h)
          (w.called (.libevdevNewFromFd fd (P.libevdevNewFromFd fd w.env).1.1 (some h))
            (P.libevdevNewFromFd fd w.env).2)) := by
  rcases (hdoc.libevdevNewFromFd fd w.env).2 hok with ⟨_, _, _, h, hdev, hfresh, hev⟩
  refine ⟨h, hdev, Relation.ReflTransGen.single ?_⟩
  have hentry : handleEntry (.libevdevNewFromFd fd (P.libevdevNewFromFd fd w.env).1.1 (some h)) =
      some (.acquired h) := by
    -- Only a call that succeeds is entered as an acquisition.
    have hneg : ¬ (P.libevdevNewFromFd fd w.env).1.1 < 0 := by omega
    simp [handleEntry, hneg]
  refine Custody.move_gain (deviceHandles_lawful V) hentry
    (by simpa [deviceHandles] using hfresh) ?_
  calc (fun h' => V.evdevs (P.libevdevNewFromFd fd w.env).2 h' ≠ none)
      = fun h' => Function.update (V.evdevs w.env) h
          (some { EvdevView.fresh with fd := fd, initialized := true }) h' ≠ none := by rw [hev]
    _ = _ := isSome_update_some _ _ _

/-- A failed `libevdev_new_from_fd` leaves nothing behind. -/
theorem books_newFromFd_failed (hdoc : P.Documented V) {fd : Fd}
    (hneg : (P.libevdevNewFromFd fd w.env).1.1 < 0) :
    (deviceHandles V).books loc (w.called (.libevdevNewFromFd fd
        (P.libevdevNewFromFd fd w.env).1.1 (P.libevdevNewFromFd fd w.env).1.2)
        (P.libevdevNewFromFd fd w.env).2) = (deviceHandles V).books loc w := by
  refine books_called_of_same ?_ ((hdoc.libevdevNewFromFd fd w.env).1 hneg).2.1
  simp [handleEntry, hneg]

theorem books_setFd (hdoc : P.Documented V) {v : EvdevView} (hv : V.evdevs w.env h = some v)
    (fd : Fd) :
    (deviceHandles V).books loc (w.called (.libevdevSetFd h fd (P.libevdevSetFd h fd w.env).1)
      (P.libevdevSetFd h fd w.env).2) = (deviceHandles V).books loc w := by
  rcases hdoc.libevdevSetFd h fd w.env v hv with ⟨_, hfail, hok, _, _⟩
  by_cases hneg : (P.libevdevSetFd h fd w.env).1 < 0
  · exact books_called_of_same rfl (hfail hneg)
  · refine books_called rfl fun h' => ?_
    rw [hok (by omega)]
    exact iff_of_eq (congrFun (isSome_update_of_some _ _ hv _) h')

theorem books_changeFd (hdoc : P.Documented V) {v : EvdevView} (hv : V.evdevs w.env h = some v)
    (fd : Fd) :
    (deviceHandles V).books loc (w.called (.libevdevChangeFd h fd
      (P.libevdevChangeFd h fd w.env).1) (P.libevdevChangeFd h fd w.env).2) =
        (deviceHandles V).books loc w := by
  rcases hdoc.libevdevChangeFd h fd w.env v hv with ⟨hok, hfail, _, _⟩
  by_cases hzero : (P.libevdevChangeFd h fd w.env).1 = 0
  · rcases hok hzero with ⟨_, g, _, hev⟩
    refine books_called rfl fun h' => ?_
    rw [hev]
    exact iff_of_eq (congrFun (isSome_update_of_some _ _ hv _) h')
  · exact books_called_of_same rfl (hfail hzero)

theorem books_grab (hdoc : P.Documented V) {v : EvdevView} (hv : V.evdevs w.env h = some v)
    (mode : GrabMode) :
    (deviceHandles V).books loc (w.called (.libevdevGrab h mode (P.libevdevGrab h mode w.env).1)
      (P.libevdevGrab h mode w.env).2) = (deviceHandles V).books loc w := by
  rcases hdoc.libevdevGrab h mode w.env v hv with ⟨hfail, hok, _, _⟩
  by_cases hneg : (P.libevdevGrab h mode w.env).1 < 0
  · exact books_called_of_same rfl (hfail hneg)
  · refine books_called rfl fun h' => ?_
    rw [hok (by omega)]
    exact iff_of_eq (congrFun (isSome_update_of_some _ _ hv _) h')

/-! ## The actions -/

section Followed

variable {s₀ : σ}

theorem balanced_of_followed (h : (deviceHandles V).Followed s₀ w) :
    Balanced ((deviceHandles V).books none w) :=
  h.balanced (deviceHandles_lawful V)

theorem live (hw : (deviceHandles V).Followed s₀ w) (hD : w.devices d = some D) :
    D.Live V w.env := by
  intro h hraw
  exact live_of_balanced (balanced_of_followed hw) hD hraw

/-- Every valid device has a live handle. -/
theorem views_of_raw (hw : (deviceHandles V).Followed s₀ w)
    (hraw : (w.devices d).bind (·.raw) = some h) : ∃ v, V.evdevs w.env h = some v := by
  rcases Option.bind_eq_some_iff.1 hraw with ⟨D, hD, hDraw⟩
  exact live hw hD _ hDraw

/-- Two devices do not share a handle. -/
theorem handle_ne (hw : (deviceHandles V).Followed s₀ w) {d' : DeviceId} (hne : d' ≠ d)
    (hD : w.devices d = some D) (hraw : D.raw = some h) :
    ∀ h', (w.devices d').bind (·.raw) = some h' → h' ≠ h := by
  intro h' hd' heq
  subst heq
  -- Both would be owners of the same handle.
  have hheld : (deviceHandles V).holder none w (some d) = some h' :=
    (heldAt_of_some hD).trans hraw
  have hsame : some d' = some d :=
    (balanced_of_followed hw).unique (i := some d') (j := some d) hd' hheld
  exact hne (Option.some.inj hsame)

/-- A new handle in a local variable, then `destroy` and `acquire`. -/
theorem followed_replaced (hdoc : P.Documented V) {w₁ : World σ}
    (hw : (deviceHandles V).Followed s₀ w)
    (hgain : Moves ((deviceHandles V).books none w) ((deviceHandles V).books (some h) w₁))
    (hD : w₁.devices d = some D) (fd : Fd) :
    (deviceHandles V).Followed s₀
      ((w₁.disposed P D).setDevice d (some { raw := some h, ownedFd := fd })) := by
  have hb : Balanced ((deviceHandles V).books (some h) w₁) := (balanced_of_followed hw).moves hgain
  exact hw.moves (hgain.trans (moves_replaced hdoc hb hD fd))

/-- Every action on devices is a sequence of moves of the ownership machine. -/
theorem deviceInvariant (hdoc : P.Documented V) (s₀ : σ) :
    DeviceInvariant P (fun _ _ => True) ((deviceHandles V).Followed s₀) where
  birth := fun hw hfree => hw.same (books_setDevice (by simp [hfree]))
  death := fun hw hD => hw.same (books_setDevice (by simp [hD]))
  dispose := fun hw hD _ => hw.moves (moves_disposed hdoc (balanced_of_followed hw) hD)
  give := by
    intro w d s E hw hds hempty hE _
    refine hw.moves ?_
    exact Custody.moves_transfer (deviceHandles_lawful V) (Ne.symm hds) hE rfl
      (heldAt_of_some hempty)
  create := by
    intro w d D w' hw hD _ hafter
    rcases Device.after_create hD hafter with ⟨hnone, rfl⟩ | ⟨h, hnew, rfl⟩
    · have hlaw := hdoc.libevdevNew w.env
      rw [hnone] at hlaw ⊢
      exact hw.same (books_called_of_same rfl hlaw.1)
    · rw [hnew]
      exact followed_replaced hdoc hw (moves_new hdoc hnew) hD _
  createFd := by
    intro w d D fd w' hw hD _ hafter
    rcases Device.after_createFd hD hafter with ⟨hneg, rfl⟩ | ⟨hok, rfl⟩
    · exact hw.same (books_newFromFd_failed hdoc hneg)
    · rcases moves_newFromFd hdoc hok with ⟨h, hdev, hgain⟩
      rw [hdev]
      exact followed_replaced hdoc hw hgain hD _
  createPath := by
    intro w d D filename flags w' hw hD _ hafter
    let w₁ := w.called (.posixOpen filename flags (P.posixOpen filename flags w.env).1
      (P.errno (P.posixOpen filename flags w.env).2)) (P.posixOpen filename flags w.env).2
    have hopened : (deviceHandles V).Followed s₀ w₁ :=
      hw.same (books_called_of_same rfl (hdoc.posixOpen filename flags w.env).2.1)
    rcases Device.after_createPath hD hafter with ⟨_, rfl⟩ | ⟨_, hneg, rfl⟩ | ⟨_, hok, rfl⟩
    · exact hopened
    · have hfailed := hopened.same (books_newFromFd_failed (w := w₁) hdoc hneg)
      exact hfailed.same (books_called_of_same rfl (hdoc.posixClose _ _).2.1)
    · rcases moves_newFromFd (w := w₁) hdoc hok with ⟨h, hdev, hgain⟩
      have hdev' : (P.libevdevNewFromFd (P.posixOpen filename flags w.env).1
        (P.posixOpen filename flags w.env).2).1.2 = some h := hdev
      rw [hdev']
      exact followed_replaced hdoc hopened hgain hD _
  openPath := by
    intro w d D filename flags w' hw hD _ hafter
    have hopened : (deviceHandles V).books none (w.called
        (.posixOpen filename flags (P.posixOpen filename flags w.env).1
          (P.errno (P.posixOpen filename flags w.env).2)) (P.posixOpen filename flags w.env).2) =
        (deviceHandles V).books none w :=
      books_called_of_same rfl (hdoc.posixOpen filename flags w.env).2.1
    rcases Device.after_openPath hD hafter with ⟨_, rfl⟩ | ⟨_, _, rfl⟩ | ⟨h, hraw, _, _, rfl⟩
    · exact hw
    · refine hw.same ?_
      rw [books_setDevice (by simp [hD])]
      exact hopened
    · -- The handle is still live after `::open`.
      rcases live hw hD _ hraw with ⟨v, hv⟩
      have hv' : V.evdevs (P.posixOpen filename flags w.env).2 h = some v :=
        hdoc.evdevs_posixOpen hv filename flags
      let w₁ := w.called (.posixOpen filename flags (P.posixOpen filename flags w.env).1
        (P.errno (P.posixOpen filename flags w.env).2)) (P.posixOpen filename flags w.env).2
      refine hw.same ?_
      calc (deviceHandles V).books none _
          = (deviceHandles V).books none (w₁.called _ _) := books_setDevice (by simp [w₁, hD])
        _ = (deviceHandles V).books none w₁ := books_setFd hdoc hv' _
        _ = (deviceHandles V).books none w := hopened
  setFd := by
    intro w d D fd w' hw hD _ hafter
    rcases Device.after_setFd hD hafter with ⟨h, hraw, rfl⟩
    rcases live hw hD _ hraw with ⟨v, hv⟩
    exact hw.same (books_setFd hdoc hv fd)
  changeFd := by
    intro w d D fd w' hw hD _ hafter
    rcases Device.after_changeFd hD hafter with ⟨h, hraw, rfl⟩
    rcases live hw hD _ hraw with ⟨v, hv⟩
    exact hw.same (books_changeFd hdoc hv fd)
  constructDefault := fun _ _ _ => trivial
  constructFd := fun _ _ _ => trivial
  constructPath := fun _ _ _ => trivial
  moveConstruct := fun _ _ => trivial
  moveAssign := fun _ _ _ => ⟨trivial, trivial⟩
  destruct := fun _ => trivial

end Followed

end DeviceHandles

end Evdevxx
