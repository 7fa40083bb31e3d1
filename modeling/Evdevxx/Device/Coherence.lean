import Evdevxx.Ownership.Handles
import Evdevxx.Model.Scripted

/-!
# Coherence — the two copies of a device's descriptor

The descriptor is recorded twice: as `owned_fd` in the object, which `set_nonblock` and
`get_nonblock` act on, and inside libevdev, which `read` uses.  `open` and `create` write both,
`set_fd` and `change_fd` only the second one.

Along every run the copies agree, except where `change_fd` replaced the internal descriptor of the
handle (`changedFd`).  An `open` that fails between the two writes is left out (`OpensWhole`).
-/

namespace Evdevxx

variable {σ : Type} {P : Platform σ} {V : Views σ}

/-- The argument of the last successful `change_fd` on the handle `h` since `h` was created; the
log has the newest call first. -/
def changedFd (h : Handle) : List Call → Option Fd
  | [] => none
  | .libevdevChangeFd p fd ret :: log => if p = h ∧ ret = 0 then some fd else changedFd h log
  | .libevdevNew (some p) :: log => if p = h then none else changedFd h log
  | .libevdevNewFromFd _ ret (some p) :: log =>
      if p = h ∧ 0 ≤ ret then none else changedFd h log
  | _ :: log => changedFd h log

/-- An open device is valid, and libevdev reads from the descriptor that it owns, or from the one
that `change_fd` put in its place. -/
def Coherent (P : Platform σ) (w : World σ) : Prop :=
  ∀ d D, w.devices d = some D → D.isOpen = true →
    ∃ h, D.raw = some h ∧ P.libevdevGetFd h w.env = (changedFd h w.log).getD D.ownedFd

/-- Whether the status flags have `O_NONBLOCK`. -/
def nonblockMode (flags : BitVec 32) : Bool :=
  decide (flags &&& oNonblock ≠ 0)

/-- From `w` to `w'` the descriptor that the device at `d` owns got the mode `b`, which is what
`get_nonblock` reports.  None of its other status flags changed, and libevdev reads from what it
read from before. -/
def NonblockSet (P : Platform σ) (V : Views σ) (w : World σ) (d : DeviceId) (b : Bool)
    (w' : World σ) : Prop :=
  w'.devices = w.devices ∧
    ∃ D h f g, w.devices d = some D ∧ D.raw = some h ∧
      P.libevdevGetFd h w'.env = (changedFd h w.log).getD D.ownedFd ∧
      V.files w.env D.ownedFd = some f ∧
      V.files w'.env D.ownedFd = some g ∧
      nonblockMode g = b ∧ g &&& ~~~ oNonblock = f &&& ~~~ oNonblock ∧
      ∀ r w'', Device.getNonblock P d w' = .returned r w'' → r = b

/-- If the action is an `open` whose `::open` succeeds, `libevdev_set_fd` succeeds as well. -/
def OpensWhole (P : Platform σ) (w : World σ) : DeviceAct → Prop
  | .openPath d filename flags => ∀ D h, w.devices d = some D → D.raw = some h →
      D.isOpen = false → 0 ≤ (P.posixOpen filename flags w.env).1 →
        0 ≤ (P.libevdevSetFd h (P.posixOpen filename flags w.env).1
          (P.posixOpen filename flags w.env).2).1
  | _ => True

/-! ## Calls that concern other handles -/

/-- The calls between `w` and `w'` leave the handle `h` as it is. -/
def KeepsFd (V : Views σ) (w w' : World σ) (h : Handle) : Prop :=
  V.evdevs w'.env h = V.evdevs w.env h ∧ changedFd h w'.log = changedFd h w.log

section Keeps

variable {w u w' : World σ} {h : Handle} {d : DeviceId} {D : Device}

theorem KeepsFd.trans (h₁ : KeepsFd V w u h) (h₂ : KeepsFd V u w' h) : KeepsFd V w w' h :=
  ⟨h₂.1.trans h₁.1, h₂.2.trans h₁.2⟩

theorem Device.Live.keeps (hlive : D.Live V w.env)
    (hk : ∀ {h v}, V.evdevs w.env h = some v → KeepsFd V w u h) : D.Live V u.env := by
  intro q hraw
  rcases hlive q hraw with ⟨v, hv⟩
  exact ⟨v, (hk hv).1.trans hv⟩

theorem changedFd_disposal (h : Handle) (D : Device) (log : List Call) :
    changedFd h (D.disposal ++ log) = changedFd h log := by
  rcases D with ⟨⟨raw⟩, fd⟩
  by_cases hfd : fd = -1
  · cases raw <;> simp [Device.disposal, hfd, changedFd]
  · cases raw <;> simp [Device.disposal, hfd, changedFd]

/-- `destroy` concerns the handle of the object only. -/
theorem keepsFd_disposed (hdoc : P.Documented V)
    (hlive : D.Live V w.env) (hne : D.raw ≠ some h) :
    KeepsFd V w (w.disposed P D) h := by
  refine ⟨World.evdevs_disposed hdoc hlive hne, ?_⟩
  rw [World.disposed_log, changedFd_disposal]

theorem keepsFd_opened (hdoc : P.Documented V) (w : World σ) (filename : String)
    (flags : BitVec 32) (h : Handle) :
    KeepsFd V w (w.called (.posixOpen filename flags (P.posixOpen filename flags w.env).1
      (P.errno (P.posixOpen filename flags w.env).2)) (P.posixOpen filename flags w.env).2) h :=
  ⟨congrFun (hdoc.posixOpen filename flags w.env).2.1 h, rfl⟩

theorem keepsFd_closed (hdoc : P.Documented V) (w : World σ) (fd : Fd) (h : Handle) :
    KeepsFd V w (w.called (.posixClose fd) (P.posixClose fd w.env)) h :=
  ⟨congrFun (hdoc.posixClose fd w.env).2.1 h, rfl⟩

/-- `libevdev_new` leaves the live handles alone. -/
theorem keepsFd_new (hdoc : P.Documented V) {v : EvdevView} (hv : V.evdevs w.env h = some v) :
    KeepsFd V w (w.called (.libevdevNew (P.libevdevNew w.env).1) (P.libevdevNew w.env).2) h := by
  refine ⟨(hdoc.evdevs_libevdevNew hv).trans hv.symm, ?_⟩
  have hlaw := (hdoc.libevdevNew w.env).1
  cases hp : (P.libevdevNew w.env).1 with
  | none => rfl
  | some p =>
      simp only [hp] at hlaw
      -- The entry does not concern `h`.
      have hne : p ≠ h := (ne_of_lives_of_free hv hlaw.1).symm
      simp [changedFd, hne]

/-- `libevdev_new_from_fd` leaves the live handles alone. -/
theorem keepsFd_newFromFd (hdoc : P.Documented V) {v : EvdevView}
    (hv : V.evdevs w.env h = some v) (fd : Fd) :
    let r := P.libevdevNewFromFd fd w.env
    KeepsFd V w (w.called (.libevdevNewFromFd fd r.1.1 r.1.2) r.2) h := by
  intro r
  refine ⟨(hdoc.evdevs_libevdevNewFromFd hv fd).trans hv.symm, ?_⟩
  cases hp : r.1.2 with
  | none => rfl
  | some p =>
      -- A successful call returns a handle that was not live, and `h` is.
      have hnot : ¬ (p = h ∧ 0 ≤ r.1.1) := by
        rintro ⟨heq, hok⟩
        rcases (hdoc.libevdevNewFromFd fd w.env).2 hok with ⟨_, _, _, q, hq, hfresh, _⟩
        have hqp : q = p := Option.some.inj (hq.symm.trans hp)
        exact ne_of_lives_of_free hv hfresh (heq.symm.trans hqp.symm)
      simp [changedFd, hnot]

end Keeps

/-! ## The invariant -/

/-- What libevdev remembers of the handle of an object, and the object owns. -/
structure Attuned (V : Views σ) (w : World σ) (D : Device) : Prop where
  valid : D.ownedFd ≠ -1 → D.raw ≠ none
  /-- an owned descriptor is installed, unless it was changed -/
  installed : ∀ {h v}, D.raw = some h → V.evdevs w.env h = some v → D.ownedFd ≠ -1 →
    v.initialized = true ∧ v.fd = (changedFd h w.log).getD D.ownedFd
  /-- `change_fd` succeeds on initialised handles only -/
  unchanged : ∀ {h v}, D.raw = some h → V.evdevs w.env h = some v → v.initialized = false →
    changedFd h w.log = none

structure Tuned (V : Views σ) (s₀ : σ) (w : World σ) : Prop where
  handles : (deviceHandles V).Followed s₀ w
  attuned : ∀ {d D}, w.devices d = some D → Attuned V w D

section Invariant

variable {w u w' : World σ} {d s : DeviceId} {D E : Device} {h : Handle} {s₀ : σ}

theorem Tuned.live (ht : Tuned V s₀ w) (hD : w.devices d = some D) : D.Live V w.env :=
  DeviceHandles.live ht.handles hD

theorem Attuned.empty (V : Views σ) (w : World σ) : Attuned V w {} where
  valid := fun hown => absurd rfl hown
  installed := fun hraw => by cases hraw
  unchanged := fun hraw => by cases hraw

/-- Writes to objects do not matter. -/
theorem Attuned.setDevice (ha : Attuned V w D) (d : DeviceId) (X : Option Device) :
    Attuned V (w.setDevice d X) D where
  valid := ha.valid
  installed := ha.installed
  unchanged := ha.unchanged

theorem Attuned.keeps (ha : Attuned V w D) (hk : ∀ h, D.raw = some h → KeepsFd V w w' h) :
    Attuned V w' D where
  valid := ha.valid
  installed := by
    intro h v hraw hv hown
    rw [(hk h hraw).1] at hv
    rw [(hk h hraw).2]
    exact ha.installed hraw hv hown
  unchanged := by
    intro h v hraw hv hnew
    rw [(hk h hraw).1] at hv
    rw [(hk h hraw).2]
    exact ha.unchanged hraw hv hnew

/-- A new handle, with the descriptor it was created on, if any. -/
theorem Attuned.created {fd : Fd} {v : EvdevView} (hv : V.evdevs w.env h = some v)
    (hown : fd ≠ -1 → v.initialized = true ∧ v.fd = fd) (hlog : changedFd h w.log = none) :
    Attuned V w { raw := some h, ownedFd := fd } where
  valid := fun _ hraw => by cases hraw
  installed := by
    intro h' v' hraw hv' hne
    cases hraw
    rw [hv] at hv'
    cases hv'
    rw [hlog]
    exact hown hne
  unchanged := by
    intro h' v' hraw hv' hnew
    cases hraw
    exact hlog

/-- The devices other than `d` do not notice what happens to `d` and its handle. -/
theorem Tuned.others (ht : Tuned V s₀ w) (hD : w.devices d = some D)
    (hk : ∀ {h v}, V.evdevs w.env h = some v → D.raw ≠ some h → KeepsFd V w w' h)
    {d' : DeviceId} {D' : Device} (hne : d' ≠ d) (hD' : w.devices d' = some D') :
    Attuned V w' D' := by
  -- What libevdev remembers of another handle is not touched.
  refine (ht.attuned hD').keeps fun h hraw => ?_
  rcases ht.live hD' h hraw with ⟨v, hv⟩
  refine hk hv fun hDraw => ?_
  have hbind : (w.devices d').bind (·.raw) = some h := by simp [hD', hraw]
  exact DeviceHandles.handle_ne ht.handles hne hD hDraw h hbind rfl

/-- An object gets other values. -/
theorem Tuned.write (ht : Tuned V s₀ w) (hD : w.devices d = some D)
    (hw' : (deviceHandles V).Followed s₀ (u.setDevice d (some E))) (hdev : u.devices = w.devices)
    (hk : ∀ {h v}, V.evdevs w.env h = some v → D.raw ≠ some h → KeepsFd V w u h)
    (hE : Attuned V u E) : Tuned V s₀ (u.setDevice d (some E)) where
  handles := hw'
  attuned := by
    intro d' D' hD'
    by_cases hdd : d' = d
    · subst hdd
      have hsame : E = D' := by simpa using hD'
      exact hsame ▸ hE.setDevice _ _
    · have hold : w.devices d' = some D' := by simpa [hdd, hdev] using hD'
      exact (ht.others hD hk hdd hold).setDevice _ _

/-- The calls concern no live handle. -/
theorem Tuned.keeps (ht : Tuned V s₀ w) (hw' : (deviceHandles V).Followed s₀ w')
    (hdev : w'.devices = w.devices)
    (hk : ∀ {h v}, V.evdevs w.env h = some v → KeepsFd V w w' h) : Tuned V s₀ w' where
  handles := hw'
  attuned := by
    intro d D hD
    rw [hdev] at hD
    refine (ht.attuned hD).keeps fun h hraw => ?_
    rcases ht.live hD h hraw with ⟨v, hv⟩
    exact hk hv

/-- An object is emptied, or gets a new handle `p`. -/
theorem Tuned.replaced (hdoc : P.Documented V) (ht : Tuned V s₀ w) (hD : w.devices d = some D)
    (hdev : u.devices = w.devices)
    (hk : ∀ {h v}, V.evdevs w.env h = some v → KeepsFd V w u h)
    (hw' : (deviceHandles V).Followed s₀ ((u.disposed P D).setDevice d (some E)))
    (hE : Attuned V (u.disposed P D) E) : Tuned V s₀ ((u.disposed P D).setDevice d (some E)) := by
  refine ht.write hD hw' (by simp [hdev]) (fun hv hne => (hk hv).trans ?_) hE
  exact keepsFd_disposed hdoc ((ht.live hD).keeps hk) hne

/-- A handle `p` created in `u`, after `destroy` of an object that had another one. -/
theorem Attuned.disposed (hdoc : P.Documented V) (ht : Tuned V s₀ w) (hD : w.devices d = some D)
    (hk : ∀ {h v}, V.evdevs w.env h = some v → KeepsFd V w u h)
    (hfresh : V.evdevs w.env h = none) {fd : Fd} {v : EvdevView}
    (hv : V.evdevs u.env h = some v) (hown : fd ≠ -1 → v.initialized = true ∧ v.fd = fd)
    (hlog : changedFd h u.log = none) :
    Attuned V (u.disposed P D) { raw := some h, ownedFd := fd } := by
  -- The handle that is disposed of is live in `w`, the new one is not.
  have hne : D.raw ≠ some h := (ht.live hD).raw_ne hfresh
  have hkeeps : KeepsFd V u (u.disposed P D) h :=
    keepsFd_disposed hdoc ((ht.live hD).keeps hk) hne
  exact Attuned.created (hkeeps.1.trans hv) hown (hkeeps.2.trans hlog)

/-- A handle from `libevdev_new_from_fd` reads from the descriptor that the object owns. -/
theorem Attuned.newFromFd (hdoc : P.Documented V) (ht : Tuned V s₀ w) (hD : w.devices d = some D)
    (hk : ∀ {h v}, V.evdevs w.env h = some v → KeepsFd V w u h) {fd : Fd}
    (hok : 0 ≤ (P.libevdevNewFromFd fd u.env).1.1) :
    let r := P.libevdevNewFromFd fd u.env
    Attuned V ((u.called (.libevdevNewFromFd fd r.1.1 r.1.2) r.2).disposed P D)
      { raw := r.1.2, ownedFd := fd } := by
  intro r
  rcases (hdoc.libevdevNewFromFd fd u.env).2 hok with ⟨_, _, _, p, hp, hfresh, hev⟩
  have hp' : r.1.2 = some p := hp
  -- The new handle was not live before the other calls either.
  have hfresh' : V.evdevs w.env p = none := by
    cases hv : V.evdevs w.env p with
    | none => rfl
    | some v =>
        rw [(hk hv).1, hv] at hfresh
        cases hfresh
  have hv : V.evdevs r.2 p = some { EvdevView.fresh with fd := fd, initialized := true } := by
    rw [hev, Function.update_self]
  have hkeeps : ∀ {h v}, V.evdevs w.env h = some v → KeepsFd V w
      (u.called (.libevdevNewFromFd fd r.1.1 r.1.2) r.2) h := fun hv =>
    (hk hv).trans (keepsFd_newFromFd hdoc ((hk hv).1.trans hv) fd)
  rw [hp'] at hkeeps ⊢
  refine Attuned.disposed hdoc ht hD hkeeps hfresh' hv (fun _ => ⟨rfl, rfl⟩) ?_
  have hok' : 0 ≤ r.1.1 := hok
  simp [changedFd, hok']

/-- A call about the handle of one device, which stays as it is or is written to. -/
theorem Tuned.called (ht : Tuned V s₀ w) (hD : w.devices d = some D) {c : Call} {t : σ}
    (hw' : (deviceHandles V).Followed s₀ (w.called c t))
    (hk : ∀ {h v}, V.evdevs w.env h = some v → D.raw ≠ some h → KeepsFd V w (w.called c t) h)
    (hE : Attuned V (w.called c t) D) : Tuned V s₀ (w.called c t) where
  handles := hw'
  attuned := by
    intro d' D' hD'
    by_cases hdd : d' = d
    · subst hdd
      have hsame : D = D' := Option.some.inj (hD.symm.trans hD')
      exact hsame ▸ hE
    · exact ht.others hD hk hdd hD'

/-- `libevdev_set_fd` succeeds once. -/
theorem uninitialized_of_setFd (hdoc : P.Documented V) {fd : Fd} {v : EvdevView} {t : σ}
    (hv : V.evdevs t h = some v) (hok : 0 ≤ (P.libevdevSetFd h fd t).1) :
    v.initialized = false := by
  cases hinit : v.initialized with
  | false => rfl
  | true =>
      rw [(hdoc.libevdevSetFd h fd t v hv).1 hinit] at hok
      exact absurd hok (by decide)

/-- `libevdev_set_fd` installs a descriptor in the handle of an object that owns none; the object
may own it afterwards. -/
theorem Attuned.setFd (hdoc : P.Documented V) (ha : Attuned V w D) (hraw : D.raw = some h)
    {fd own : Fd} {v : EvdevView} (hv : V.evdevs w.env h = some v)
    (hok : 0 ≤ (P.libevdevSetFd h fd w.env).1) (hown : own = fd ∨ own = D.ownedFd) :
    Attuned V (w.called (.libevdevSetFd h fd (P.libevdevSetFd h fd w.env).1)
      (P.libevdevSetFd h fd w.env).2) { D with ownedFd := own } := by
  have hnew : v.initialized = false := uninitialized_of_setFd hdoc hv hok
  -- An owned descriptor is installed already, and then the call would have failed.
  have hclosed : D.ownedFd = -1 := by
    by_contra hopen
    rw [(ha.installed hraw hv hopen).1] at hnew
    cases hnew
  have hsame : { D with ownedFd := own } = { raw := some h, ownedFd := own } := by
    rcases D with ⟨⟨raw⟩, fd⟩
    cases hraw
    rfl
  rw [hsame]
  refine Attuned.created (v := { v with fd := fd, initialized := true }) ?_ (fun hne => ⟨rfl, ?_⟩)
    (ha.unchanged hraw hv hnew)
  · rw [World.called_env, (hdoc.libevdevSetFd h fd w.env v hv).2.2.1 hok, Function.update_self]
  · rcases hown with hfd | hold
    · exact hfd.symm
    · exact absurd (hold.trans hclosed) hne

theorem keepsFd_setFd (hdoc : P.Documented V) {fd : Fd} {v : EvdevView}
    (hv : V.evdevs w.env h = some v) {p : Handle} (hne : p ≠ h) :
    KeepsFd V w (w.called (.libevdevSetFd h fd (P.libevdevSetFd h fd w.env).1)
      (P.libevdevSetFd h fd w.env).2) p := by
  rcases hdoc.libevdevSetFd h fd w.env v hv with ⟨_, hfail, hok, _, _⟩
  refine ⟨?_, rfl⟩
  by_cases hneg : (P.libevdevSetFd h fd w.env).1 < 0
  · rw [World.called_env, hfail hneg]
  · rw [World.called_env, hok (Int.not_lt.1 hneg), Function.update_of_ne hne]

theorem keepsFd_changeFd (hdoc : P.Documented V) {fd : Fd} {v : EvdevView}
    (hv : V.evdevs w.env h = some v) {p : Handle} (hne : p ≠ h) :
    KeepsFd V w (w.called (.libevdevChangeFd h fd (P.libevdevChangeFd h fd w.env).1)
      (P.libevdevChangeFd h fd w.env).2) p := by
  rcases hdoc.libevdevChangeFd h fd w.env v hv with ⟨hok, hfail, _, _⟩
  refine ⟨?_, by simp [changedFd, Ne.symm hne]⟩
  by_cases hzero : (P.libevdevChangeFd h fd w.env).1 = 0
  · rcases hok hzero with ⟨_, g, _, hev⟩
    rw [World.called_env, hev, Function.update_of_ne hne]
  · rw [World.called_env, hfail hzero]

/-- `libevdev_change_fd` replaces the installed descriptor. -/
theorem Attuned.changeFd (hdoc : P.Documented V) (ha : Attuned V w D) (hraw : D.raw = some h)
    {fd : Fd} {v : EvdevView} (hv : V.evdevs w.env h = some v) :
    Attuned V (w.called (.libevdevChangeFd h fd (P.libevdevChangeFd h fd w.env).1)
      (P.libevdevChangeFd h fd w.env).2) D := by
  rcases hdoc.libevdevChangeFd h fd w.env v hv with ⟨hok, hfail, _, _⟩
  by_cases hzero : (P.libevdevChangeFd h fd w.env).1 = 0
  · rcases hok hzero with ⟨hinit, g, _, hev⟩
    have hself : V.evdevs (P.libevdevChangeFd h fd w.env).2 h =
        some { v with fd := fd, grabbed := g } := by rw [hev, Function.update_self]
    refine ⟨ha.valid, fun {h' v'} hraw' hv' hopen => ?_, fun {h' v'} hraw' hv' hnew => ?_⟩
    · have hh : h' = h := Option.some.inj (hraw'.symm.trans hraw)
      subst hh
      have hview : { v with fd := fd, grabbed := g } = v' :=
        Option.some.inj (hself.symm.trans hv')
      subst hview
      exact ⟨hinit, by simp [changedFd, hzero]⟩
    · have hh : h' = h := Option.some.inj (hraw'.symm.trans hraw)
      subst hh
      have hview : { v with fd := fd, grabbed := g } = v' :=
        Option.some.inj (hself.symm.trans hv')
      subst hview
      rw [hinit] at hnew
      cases hnew
  · refine ha.keeps fun h' hraw' => ⟨?_, ?_⟩
    · rw [World.called_env, hfail hzero]
    · simp [changedFd, hzero]

theorem attuned_setDevice (h : ∀ {d D}, w.devices d = some D → Attuned V w D)
    {X : Option Device} (hX : ∀ D, X = some D → Attuned V w D) {d' : DeviceId} {D' : Device}
    (hD' : (w.setDevice d X).devices d' = some D') : Attuned V (w.setDevice d X) D' := by
  by_cases hdd : d' = d
  · subst hdd
    exact (hX D' (by simpa using hD')).setDevice _ _
  · exact (h (d := d') (by simpa [hdd] using hD')).setDevice _ _

/-- Every action keeps the copies in tune, except an `open` that fails between its two writes. -/
theorem Tuned.deviceInvariant (hdoc : P.Documented V) (s₀ : σ) :
    DeviceInvariant P (OpensWhole P) (Tuned V s₀) where
  birth := by
    intro w d ht hfree
    refine ⟨(DeviceHandles.deviceInvariant hdoc s₀).birth ht.handles hfree, ?_⟩
    exact attuned_setDevice (X := some {}) ht.attuned fun D hD => by
      cases hD
      exact Attuned.empty V w
  death := by
    intro w d ht hD
    refine ⟨(DeviceHandles.deviceInvariant hdoc s₀).death ht.handles hD, ?_⟩
    exact attuned_setDevice ht.attuned fun D hD => by cases hD
  dispose := by
    intro w d D ht hD _
    have hsame : ∀ {h v}, V.evdevs w.env h = some v → KeepsFd V w w h := fun _ => ⟨rfl, rfl⟩
    exact ht.replaced hdoc hD rfl hsame
      ((DeviceHandles.deviceInvariant hdoc s₀).dispose ht.handles hD trivial)
      (Attuned.empty V _)
  give := by
    intro w d s E ht hds hempty hE _
    refine ⟨(DeviceHandles.deviceInvariant hdoc s₀).give ht.handles hds hempty hE trivial, ?_⟩
    -- First the source is emptied, then the target takes its values.
    have hemptied : ∀ {d D}, (w.setDevice s (some {})).devices d = some D →
        Attuned V (w.setDevice s (some {})) D :=
      attuned_setDevice ht.attuned fun D hD => by
        cases hD
        exact Attuned.empty V w
    intro d' D' hD'
    refine attuned_setDevice (X := some E) hemptied (fun D hD => ?_) hD'
    cases hD
    exact (ht.attuned hE).setDevice _ _
  create := by
    intro w d D w' ht hD _ hafter
    have hw' := (DeviceHandles.deviceInvariant hdoc s₀).create ht.handles hD trivial hafter
    have hk : ∀ {h v}, V.evdevs w.env h = some v → KeepsFd V w
        (w.called (.libevdevNew (P.libevdevNew w.env).1) (P.libevdevNew w.env).2) h :=
      fun hv => keepsFd_new hdoc hv
    rcases Device.after_create hD hafter with ⟨_, rfl⟩ | ⟨p, hp, rfl⟩
    · exact ht.keeps hw' rfl hk
    · refine ht.replaced hdoc hD rfl hk hw' ?_
      have hlaw := (hdoc.libevdevNew w.env).1
      simp only [hp] at hlaw
      have hv : V.evdevs (P.libevdevNew w.env).2 p = some .fresh := by
        rw [hlaw.2, Function.update_self]
      exact Attuned.disposed hdoc ht hD hk hlaw.1 hv (fun hne => absurd rfl hne)
        (by simp [changedFd, hp])
  createFd := by
    intro w d D fd w' ht hD _ hafter
    have hw' := (DeviceHandles.deviceInvariant hdoc s₀).createFd ht.handles hD trivial hafter
    let r := P.libevdevNewFromFd fd w.env
    have hk : ∀ {h v}, V.evdevs w.env h = some v → KeepsFd V w
        (w.called (.libevdevNewFromFd fd r.1.1 r.1.2) r.2) h :=
      fun hv => keepsFd_newFromFd hdoc hv fd
    rcases Device.after_createFd hD hafter with ⟨_, rfl⟩ | ⟨hok, rfl⟩
    · exact ht.keeps hw' rfl hk
    · refine ht.replaced hdoc hD rfl hk hw' ?_
      exact Attuned.newFromFd hdoc ht hD (fun _ => ⟨rfl, rfl⟩) hok
  createPath := by
    intro w d D filename flags w' ht hD _ hafter
    have hw' := (DeviceHandles.deviceInvariant hdoc s₀).createPath ht.handles hD trivial hafter
    let o := P.posixOpen filename flags w.env
    let r := P.libevdevNewFromFd o.1 o.2
    let w₁ := w.called (.posixOpen filename flags o.1 (P.errno o.2)) o.2
    let w₂ := w₁.called (.libevdevNewFromFd o.1 r.1.1 r.1.2) r.2
    have hopened : ∀ h, KeepsFd V w w₁ h := keepsFd_opened hdoc w filename flags
    have hk : ∀ {h v}, V.evdevs w.env h = some v → KeepsFd V w w₂ h := fun {h v} hv =>
      (hopened h).trans (keepsFd_newFromFd (w := w₁) hdoc ((hopened h).1.trans hv) o.1)
    rcases Device.after_createPath hD hafter with ⟨_, rfl⟩ | ⟨_, _, rfl⟩ | ⟨_, hok, rfl⟩
    · exact ht.keeps hw' rfl fun _ => hopened _
    · exact ht.keeps hw' rfl fun hv => (hk hv).trans (keepsFd_closed hdoc w₂ o.1 _)
    · refine ht.replaced (u := w₂) hdoc hD rfl hk hw' ?_
      exact Attuned.newFromFd (u := w₁) hdoc ht hD (fun {h v} _ => hopened h) hok
  openPath := by
    intro w d D filename flags w' ht hD hwhole hafter
    have hw' := (DeviceHandles.deviceInvariant hdoc s₀).openPath ht.handles hD trivial hafter
    let o := P.posixOpen filename flags w.env
    let w₁ := w.called (.posixOpen filename flags o.1 (P.errno o.2)) o.2
    have hopened : ∀ h, KeepsFd V w w₁ h := keepsFd_opened hdoc w filename flags
    have ha₁ : Attuned V w₁ D := (ht.attuned hD).keeps fun h _ => hopened h
    rcases Device.after_openPath hD hafter with
      ⟨_, rfl⟩ | ⟨hclosed, hneg, rfl⟩ | ⟨p, hraw, hclosed, hok, rfl⟩
    · exact ht
    · -- `::open` returned `-1`, which is what was recorded before.
      have hminus : o.1 = -1 := hdoc.posixOpen_eq_minusOne hneg
      have hsame : { D with ownedFd := o.1 } = D := by rw [hminus, ← hclosed]
      refine ht.write (u := w₁) hD hw' rfl (fun _ _ => hopened _) ?_
      exact hsame.symm ▸ ha₁
    · rcases ht.live hD _ hraw with ⟨v, hv⟩
      have hv₁ : V.evdevs w₁.env p = some v := (hopened p).1.trans hv
      -- The condition on the action rules out the end between the two writes.
      have hset := hwhole D p hD hraw (by simp [Device.isOpen, hclosed]) hok
      refine ht.write (u := w₁.called _ _) hD hw' rfl (fun {h v} _ hne => ?_) ?_
      · have hhp : h ≠ p := fun heq => hne (heq ▸ hraw)
        exact (hopened h).trans (keepsFd_setFd hdoc hv₁ hhp)
      · exact ha₁.setFd hdoc hraw hv₁ hset (Or.inl rfl)
  setFd := by
    intro w d D fd w' ht hD _ hafter
    have hw' := (DeviceHandles.deviceInvariant hdoc s₀).setFd ht.handles hD trivial hafter
    rcases Device.after_setFd hD hafter with ⟨p, hraw, rfl⟩
    rcases ht.live hD _ hraw with ⟨v, hv⟩
    refine ht.called hD hw' (fun {h v} _ hne => ?_) ?_
    · have hhp : h ≠ p := fun heq => hne (heq ▸ hraw)
      exact keepsFd_setFd hdoc hv hhp
    · by_cases hneg : (P.libevdevSetFd p fd w.env).1 < 0
      · have hfail := (hdoc.libevdevSetFd p fd w.env v hv).2.1 hneg
        exact (ht.attuned hD).keeps fun h _ => ⟨congrFun hfail h, rfl⟩
      · exact (ht.attuned hD).setFd hdoc hraw hv (Int.not_lt.1 hneg) (Or.inr rfl)
  changeFd := by
    intro w d D fd w' ht hD _ hafter
    have hw' := (DeviceHandles.deviceInvariant hdoc s₀).changeFd ht.handles hD trivial hafter
    rcases Device.after_changeFd hD hafter with ⟨p, hraw, rfl⟩
    rcases ht.live hD _ hraw with ⟨v, hv⟩
    refine ht.called hD hw' (fun {h v} _ hne => ?_) ?_
    · have hhp : h ≠ p := fun heq => hne (heq ▸ hraw)
      exact keepsFd_changeFd hdoc hv hhp
    · exact (ht.attuned hD).changeFd hdoc hraw hv
  constructDefault := fun _ _ _ => trivial
  constructFd := fun _ _ _ => trivial
  constructPath := fun _ _ _ => trivial
  moveConstruct := fun _ _ => trivial
  moveAssign := fun _ _ _ => ⟨trivial, trivial⟩
  destruct := fun _ => trivial

end Invariant

/-! ## Status flags -/

section Flags

variable {f S : BitVec 32}

/-- `flags |= O_NONBLOCK` or `flags &= ~O_NONBLOCK` -/
def withMode (b : Bool) (f : BitVec 32) : BitVec 32 :=
  if b then f ||| oNonblock else f &&& ~~~ oNonblock

/-- `F_SETFL` can change `O_NONBLOCK`, and the other flags are those that were read. -/
theorem setfl_withMode (hS : oNonblock &&& S = oNonblock) (b : Bool) :
    (f &&& ~~~ S) ||| (withMode b f &&& S) = withMode b f := by
  have hbit : ∀ i : Nat, oNonblock.getLsbD i = true → S.getLsbD i = true := by
    intro i hi
    have hand := congrArg (fun x => BitVec.getLsbD x i) hS
    simpa [hi] using hand
  cases b with
  | true =>
      apply BitVec.eq_of_getLsbD_eq
      intro i hi
      -- Bit by bit: a bit of `O_NONBLOCK` is settable, the others are as they were read.
      have := hbit i
      cases hn : oNonblock.getLsbD i <;> cases hs : S.getLsbD i <;> simp_all [withMode]
  | false =>
      apply BitVec.eq_of_getLsbD_eq
      intro i hi
      have := hbit i
      cases hn : oNonblock.getLsbD i <;> cases hs : S.getLsbD i <;> simp_all [withMode]

theorem nonblockMode_withMode (b : Bool) (f : BitVec 32) : nonblockMode (withMode b f) = b := by
  cases b with
  | true =>
      have hset : (f ||| oNonblock) &&& oNonblock = oNonblock := by
        apply BitVec.eq_of_getLsbD_eq
        intro i hi
        cases hn : oNonblock.getLsbD i <;> simp [hn]
      simp only [nonblockMode, withMode, if_true, hset]
      decide
  | false =>
      have hclear : (f &&& ~~~ oNonblock) &&& oNonblock = 0 := by
        apply BitVec.eq_of_getLsbD_eq
        intro i hi
        cases hn : oNonblock.getLsbD i <;> simp [hn]
      simp [nonblockMode, withMode, hclear]

theorem withMode_others (b : Bool) (f : BitVec 32) :
    withMode b f &&& ~~~ oNonblock = f &&& ~~~ oNonblock := by
  cases b with
  | true =>
      apply BitVec.eq_of_getLsbD_eq
      intro i hi
      cases hn : oNonblock.getLsbD i <;> simp [withMode, hn]
  | false => simp [withMode, BitVec.and_assoc]

end Flags

/-! ## Along every run -/

section Runs

variable {w w' : World σ} {s₀ : σ} {d : DeviceId} {D : Device} {b : Bool}

theorem Tuned.run (hdoc : P.Documented V) {acts : List DeviceAct}
    (hrun : Run (Guarded (OpensWhole P) (deviceStep P)) (World.init s₀) acts w) :
    Tuned V s₀ w := by
  have hstart : Tuned V s₀ (World.init s₀) :=
    ⟨Custody.Followed.init _ s₀, fun hD => by cases hD⟩
  exact (Tuned.deviceInvariant hdoc s₀).run hstart hrun

theorem Tuned.coherent (hdoc : P.Documented V) (ht : Tuned V s₀ w) : Coherent P w := by
  intro d D hD hopen
  have hown : D.ownedFd ≠ -1 := (Device.isOpen_iff D).1 hopen
  have ha := ht.attuned hD
  cases hraw : D.raw with
  | none => exact absurd hraw (ha.valid hown)
  | some h =>
      rcases ht.live hD h hraw with ⟨v, hv⟩
      refine ⟨h, rfl, ?_⟩
      rw [hdoc.libevdevGetFd h w.env v hv]
      exact (ha.installed hraw hv hown).2

/-- `get_fd` of an open device returns the descriptor that the device owns, as long as `change_fd`
has not replaced it. -/
theorem Coherent.getFd (hc : Coherent P w) {h : Handle} (hD : w.devices d = some D)
    (hopen : D.isOpen = true) (hraw : D.raw = some h) (hkept : changedFd h w.log = none) :
    Device.getFd P d w = .returned D.ownedFd w := by
  rcases hc d D hD hopen with ⟨p, hp, hfd⟩
  have hph : p = h := Option.some.inj (hp.symm.trans hraw)
  subst hph
  rw [hkept, Option.getD_none] at hfd
  have hown : D.ownedFd ≠ -1 := (Device.isOpen_iff D).1 hopen
  rw [Device.getFd_apply hD hraw, hfd, if_neg hown]

/-- A `get_nonblock` that returns reports the mode of the owned descriptor. -/
theorem nonblockMode_of_get (hdoc : P.Documented V)
    (hget : Device.getNonblock P d w = .returned b w') :
    ∃ D f, w.devices d = some D ∧ V.files w.env D.ownedFd = some f ∧ b = nonblockMode f := by
  rcases Device.getNonblock_returned hget with ⟨D, hD, _, hok, hb⟩
  exact ⟨D, _, hD, (hdoc.fcntlGetfl D.ownedFd w.env).1 hok, hb⟩

/-- A `set_nonblock(b)` that returns has changed the mode of the descriptor that libevdev reads
from, or read from before `change_fd`, and none of its other flags. -/
theorem Tuned.nonblockSet (hdoc : P.Documented V) (ht : Tuned V s₀ w)
    (hset : Device.setNonblock P d b w = .returned () w') : NonblockSet P V w d b w' := by
  -- `F_GETFL` and `F_SETFL` both succeeded on the owned descriptor.
  rcases Device.setNonblock_returned hset with ⟨D, hD, hown, hget, hok, rfl⟩
  rcases ht.coherent hdoc d D hD ((Device.isOpen_iff D).2 hown) with ⟨h, hraw, hfd⟩
  rcases hdoc.fcntlGetfl D.ownedFd w.env with ⟨hread, hsame⟩
  rcases hdoc.fcntlSetfl D.ownedFd (withMode b (P.fcntlGetfl D.ownedFd w.env).1)
    (P.fcntlGetfl D.ownedFd w.env).2 with ⟨hwrite, _, _, hev, _⟩
  rcases hwrite hok with ⟨f, hf, hwritten⟩
  have hflags : V.files w.env D.ownedFd = some (P.fcntlGetfl D.ownedFd w.env).1 := hread hget
  -- Between the two calls the flags have not changed.
  have hff : f = (P.fcntlGetfl D.ownedFd w.env).1 := by
    rw [hsame.1, hflags] at hf
    exact (Option.some.inj hf).symm
  subst hff
  rw [setfl_withMode hdoc.settable] at hwritten
  refine ⟨rfl, D, h, _, _, hD, hraw, ?_, hflags, hwritten, nonblockMode_withMode b _,
    withMode_others b _, ?_⟩
  · -- Neither call concerns libevdev.
    rcases ht.live hD h hraw with ⟨v, hv⟩
    have hv' : V.evdevs (P.fcntlSetfl D.ownedFd (withMode b (P.fcntlGetfl D.ownedFd w.env).1)
        (P.fcntlGetfl D.ownedFd w.env).2).2 h = some v := by
      rw [hev, hsame.2.1]
      exact hv
    calc _ = v.fd := hdoc.libevdevGetFd h _ v hv'
      _ = P.libevdevGetFd h w.env := (hdoc.libevdevGetFd h w.env v hv).symm
      _ = _ := hfd
  · intro r w'' hget'
    rcases nonblockMode_of_get hdoc hget' with ⟨D', g, hD', hg, hr⟩
    -- `get_nonblock` reads the flags that `F_SETFL` has just written.
    have hDD : D = D' := Option.some.inj (hD.symm.trans hD')
    subst hDD
    have hgb : withMode b (P.fcntlGetfl D.ownedFd w.env).1 = g :=
      Option.some.inj (hwritten.symm.trans hg)
    rw [hr, ← hgb, nonblockMode_withMode]

end Runs

/-- In every state that is reached without a half-done `open`: an open device is valid and libevdev
reads from the descriptor it owns, unless `change_fd` replaced it; a `set_nonblock(b)` that returns
sets the mode of the owned descriptor and changes no other flag; a `get_nonblock` that returns
reports the mode of the owned descriptor. -/
theorem descriptor_coherent (hdoc : P.Documented V) {s₀ : σ} {acts : List DeviceAct} {w : World σ}
    (hrun : Run (Guarded (OpensWhole P) (deviceStep P)) (World.init s₀) acts w) :
    Coherent P w ∧
      (∀ d b w', Device.setNonblock P d b w = .returned () w' → NonblockSet P V w d b w') ∧
      ∀ d b w', Device.getNonblock P d w = .returned b w' →
        ∃ D f, w.devices d = some D ∧ V.files w.env D.ownedFd = some f ∧ b = nonblockMode f := by
  have ht : Tuned V s₀ w := Tuned.run hdoc hrun
  exact ⟨ht.coherent hdoc, fun _ _ _ hset => ht.nonblockSet hdoc hset,
    fun _ _ _ hget => nonblockMode_of_get hdoc hget⟩

/-- A path is opened, the device moved, and the descriptor of its handle changed. -/
theorem descriptor_coherent_changed :
    ∃ w, Run (Guarded (OpensWhole Script.platform) (deviceStep Script.platform))
        (World.init { opens := [3], handles := [0] })
        [.constructDefault 0, .openPath 0 "/dev/input/event0" 0, .moveConstruct 1 0,
          .changeFd 1 7] w ∧
      Coherent Script.platform w ∧
      (∀ d b w', Device.setNonblock Script.platform d b w = .returned () w' →
        NonblockSet Script.platform Script.views w d b w') ∧
      ∀ d b w', Device.getNonblock Script.platform d w = .returned b w' →
        ∃ D f, w.devices d = some D ∧ Script.views.files w.env D.ownedFd = some f ∧
          b = nonblockMode f := by
  have hstart : Run (Guarded (OpensWhole Script.platform) (deviceStep Script.platform))
      (World.init { opens := [3], handles := [0] }) []
      (World.init { opens := [3], handles := [0] }) := Run.nil
  have hnew := hstart.snoc (a := DeviceAct.constructDefault 0) ⟨trivial, rfl⟩
  have hopen := hnew.snoc (a := DeviceAct.openPath 0 "/dev/input/event0" 0) ⟨?_, rfl⟩
  have hmove := hopen.snoc (a := DeviceAct.moveConstruct 1 0) ⟨trivial, rfl⟩
  have hrun := hmove.snoc (a := DeviceAct.changeFd 1 7) ⟨trivial, rfl⟩
  · exact ⟨_, hrun, descriptor_coherent Script.documented hrun⟩
  · intro D h hD hraw _ _
    cases hD
    cases hraw
    decide

/-- `change_fd` on an open device: libevdev reads from 7, and the device owns 3. -/
theorem changed_not_owned :
    ∃ w D, Run (Guarded (OpensWhole Script.platform) (deviceStep Script.platform))
        (World.init { opens := [3], handles := [0] })
        [.constructPath 0 "/dev/input/event0" 0, .changeFd 0 7] w ∧
      w.devices 0 = some D ∧ D.isOpen = true ∧
      ¬ ∃ h, D.raw = some h ∧ Script.platform.libevdevGetFd h w.env = D.ownedFd := by
  have hstart : Run (Guarded (OpensWhole Script.platform) (deviceStep Script.platform))
      (World.init { opens := [3], handles := [0] }) []
      (World.init { opens := [3], handles := [0] }) := Run.nil
  have hnew := hstart.snoc (a := DeviceAct.constructPath 0 "/dev/input/event0" 0) ⟨trivial, rfl⟩
  have hrun := hnew.snoc (a := DeviceAct.changeFd 0 7) ⟨trivial, rfl⟩
  refine ⟨_, _, hrun, rfl, rfl, ?_⟩
  rintro ⟨h, hraw, hfd⟩
  cases hraw
  revert hfd
  decide

end Evdevxx
