import Evdevxx.Device.Steps
import Evdevxx.Model.Scripted

/-!
# Opening — the two ways to open a path, and what they leave behind when they fail

`open` writes `owned_fd` before `libevdev_set_fd` has had its say, and `create(path)` takes the
descriptor 0 for a failed `::open`.  For each of the two functions this module says exactly on
which answers of the platform it does what it should.
-/

namespace Evdevxx

variable {σ : Type} {P : Platform σ} {V : Views σ}

namespace Device

/-! ## `open` fails as a whole -/

/-- `open` called on the object `d` in `w` either succeeds, and the object owns the descriptor that
`::open` returned, or throws and leaves the object closed and the descriptor of `::open` closed. -/
structure OpenAtomic (P : Platform σ) (w : World σ) (d : DeviceId) (filename : String)
    (flags : BitVec 32) : Prop where
  threw : ∀ e w', openPath P d filename flags w = .threw e w' →
    ∃ D, w'.devices d = some D ∧ D.isOpen = false ∧ D.ownedFd = -1 ∧
      ∃ calls, w'.log = calls ++ w.log ∧
        (0 ≤ (P.posixOpen filename flags w.env).1 →
          Call.posixClose (P.posixOpen filename flags w.env).1 ∈ calls)
  again : ∀ e w', openPath P d filename flags w = .threw e w' →
    ∀ filename' flags' w'', openPath P d filename' flags' w' ≠
      .threw (.std (.logicError "File is already open.")) w''
  returned : ∀ w', openPath P d filename flags w = .returned () w' →
    ∃ D, w'.devices d = some D ∧ D.isOpen = true ∧
      D.ownedFd = (P.posixOpen filename flags w.env).1

section Atomic

variable {w : World σ} {d : DeviceId} {D : Device} {h : Handle} {filename : String}
variable {flags : BitVec 32}

/-- A closed object is not taken for an open one. -/
theorem openPath_ne_alreadyOpen {w' : World σ} (hD : w.devices d = some D) (hclosed : D.ownedFd = -1)
    (filename : String) (flags : BitVec 32) :
    openPath P d filename flags w ≠ .threw (.std (.logicError "File is already open.")) w' := by
  cases hraw : D.raw with
  | none =>
      -- Without a handle the call is undefined where `::open` succeeds.
      rw [openPath_apply_invalid hD hraw hclosed]
      by_cases hneg : (P.posixOpen filename flags w.env).1 < 0
      · simp [hneg]
      · simp [hneg]
  | some h =>
      rw [openPath_apply hD hraw hclosed]
      by_cases hneg : (P.posixOpen filename flags w.env).1 < 0
      · simp [hneg]
      · by_cases hset : (P.libevdevSetFd h (P.posixOpen filename flags w.env).1
            (P.posixOpen filename flags w.env).2).1 < 0
        · simp [hneg, hset]
        · simp [hneg, hset]

/-- `open` on a valid closed device fails as a whole unless `::open` succeeds and
`libevdev_set_fd` then fails. -/
theorem open_atomic_iff (hdoc : P.Documented V) (hD : w.devices d = some D)
    (hvalid : D.raw = some h) (hclosed : D.isOpen = false) :
    OpenAtomic P w d filename flags ↔
      ¬ (0 ≤ (P.posixOpen filename flags w.env).1 ∧
        (P.libevdevSetFd h (P.posixOpen filename flags w.env).1
          (P.posixOpen filename flags w.env).2).1 < 0) := by
  have hminus : D.ownedFd = -1 := by simpa [isOpen] using hclosed
  have happly := openPath_apply (P := P) hD hvalid hminus filename flags
  by_cases hneg : (P.posixOpen filename flags w.env).1 < 0
  · -- `::open` fails, and the `-1` it returns is recorded.
    have hnot : ¬ 0 ≤ (P.posixOpen filename flags w.env).1 := Int.not_le.2 hneg
    -- That is what a closed object records.
    have hret := hdoc.posixOpen_eq_minusOne hneg
    simp only [hneg, if_true] at happly
    refine ⟨fun _ hbad => hnot hbad.1, fun _ => ⟨?_, ?_, ?_⟩⟩
    · intro e w' hthrew
      rw [happly] at hthrew
      cases hthrew
      refine ⟨{ raw := some h, ownedFd := (P.posixOpen filename flags w.env).1 }, ?_, ?_, hret, ?_⟩
      · simp
      · simp [isOpen, hret]
      · exact ⟨[_], rfl, fun hok => absurd hok hnot⟩
    · intro e w' hthrew
      rw [happly] at hthrew
      cases hthrew
      intro filename' flags' w''
      exact openPath_ne_alreadyOpen (World.setDevice_devices_self _ _ _) hret filename' flags'
    · intro w' hret'
      rw [happly] at hret'
      cases hret'
  · have hok : 0 ≤ (P.posixOpen filename flags w.env).1 := Int.not_lt.1 hneg
    by_cases hset : (P.libevdevSetFd h (P.posixOpen filename flags w.env).1
        (P.posixOpen filename flags w.env).2).1 < 0
    · -- The half-done state is left behind: the object looks open.
      simp only [hneg, hset, if_true, if_false] at happly
      refine ⟨fun hatomic => ?_, fun hnot => absurd ⟨hok, hset⟩ hnot⟩
      rcases hatomic.threw _ _ happly with ⟨D', hD', _, hown, _⟩
      have hsame : D' = { raw := some h, ownedFd := (P.posixOpen filename flags w.env).1 } := by
        simpa using hD'.symm
      rw [hsame] at hown
      exact absurd hown (ne_minusOne_of_nonneg hok)
    · simp only [hneg, hset, if_false] at happly
      refine ⟨fun _ hbad => hset hbad.2, fun _ => ⟨?_, ?_, ?_⟩⟩
      · intro e w' hthrew
        rw [happly] at hthrew
        cases hthrew
      · intro e w' hthrew
        rw [happly] at hthrew
        cases hthrew
      · intro w' hret
        rw [happly] at hret
        cases hret
        refine ⟨{ raw := some h, ownedFd := (P.posixOpen filename flags w.env).1 }, ?_, ?_, rfl⟩
        · simp
        · simp [isOpen, ne_minusOne_of_nonneg hok]

end Atomic

theorem open_atomic_iff_three :
    OpenAtomic Script.platform (Script.withDevice { opens := [3] }) 0 "/dev/input/event0" 0 ↔
      ¬ (0 ≤ (Script.platform.posixOpen "/dev/input/event0" 0
          (Script.withDevice { opens := [3] }).env).1 ∧
        (Script.platform.libevdevSetFd 0 (Script.platform.posixOpen "/dev/input/event0" 0
          (Script.withDevice { opens := [3] }).env).1
          (Script.platform.posixOpen "/dev/input/event0" 0
            (Script.withDevice { opens := [3] }).env).2).1 < 0) :=
  open_atomic_iff Script.documented rfl rfl rfl

/-- `::open` returns 3 and reading its metadata fails with `ENOTTY`. -/
theorem open_not_atomic :
    ¬ OpenAtomic Script.platform (Script.withDevice { opens := [3], metas := [-25] }) 0
      "/dev/input/event0" 0 := by
  intro hatomic
  rcases hatomic.threw _ _ rfl with ⟨D, hD, _, hown, _⟩
  cases hD
  exact absurd hown (by decide)

end Device

/-! ## The two ways to open a path -/

/-- What the environment answers when a path is opened: the descriptor of `::open` (`-1` if it
fails), the `errno` it leaves, and what reading the metadata of the descriptor returns. -/
structure OpenAnswers where
  fd : Fd
  errno : Int
  metadata : Int
  deriving DecidableEq, Repr

namespace OpenAnswers

/-- The error number of the call that failed. -/
def failedErrno (o : OpenAnswers) : Int :=
  if o.fd < 0 then o.errno else -o.metadata

/-- In the state `s` the calls of `create(path)` answer `o`. -/
structure OfCreate (P : Platform σ) (o : OpenAnswers) (filename : String) (flags : BitVec 32)
    (s : σ) : Prop where
  fd : (P.posixOpen filename flags s).1 = o.fd
  errno : P.errno (P.posixOpen filename flags s).2 = o.errno
  metadata : 0 ≤ o.fd →
    (P.libevdevNewFromFd o.fd (P.posixOpen filename flags s).2).1.1 = o.metadata

/-- In the state `s` the calls of the default constructor and `open` answer `o`, the constructor
getting the handle `h`. -/
structure OfOpen (P : Platform σ) (o : OpenAnswers) (filename : String) (flags : BitVec 32)
    (s : σ) (h : Handle) : Prop where
  new : (P.libevdevNew s).1 = some h
  fd : (P.posixOpen filename flags (P.libevdevNew s).2).1 = o.fd
  errno : P.errno (P.posixOpen filename flags (P.libevdevNew s).2).2 = o.errno
  metadata : 0 ≤ o.fd →
    (P.libevdevSetFd h o.fd (P.posixOpen filename flags (P.libevdevNew s).2).2).1 = o.metadata

end OpenAnswers

namespace Device

/-- The object at `d` is valid, libevdev reads from `fd`, and the object owns `fd`. -/
def OpenOn (P : Platform σ) (w : World σ) (d : DeviceId) (fd : Fd) : Prop :=
  ∃ D h, w.devices d = some D ∧ D.raw = some h ∧ P.libevdevGetFd h w.env = fd ∧
    D.ownedFd = fd ∧ D.isOpen = true

/-- Both ways succeed and end with the same descriptor installed and owned, or both throw a
`system_error` with the error number of the call that failed. -/
structure SameOpening (P : Platform σ) (d : DeviceId) (o : OpenAnswers)
    (r₁ r₂ : Outcome Exn (World σ) Unit) : Prop where
  succeeds : (∃ w₁, r₁ = .returned () w₁) ↔ ∃ w₂, r₂ = .returned () w₂
  success : ∀ w₁ w₂, r₁ = .returned () w₁ → r₂ = .returned () w₂ →
    OpenOn P w₁ d o.fd ∧ OpenOn P w₂ d o.fd
  failure₁ : (∀ w₁, r₁ ≠ .returned () w₁) →
    ∃ msg w₁, r₁ = .threw (.std (.systemError o.failedErrno msg)) w₁
  failure₂ : (∀ w₂, r₂ ≠ .returned () w₂) →
    ∃ msg w₂, r₂ = .threw (.std (.systemError o.failedErrno msg)) w₂

/-- How a way of opening ends that refuses the descriptors below `low`: it throws the `errno` of
`::open`, or the error of reading the metadata, or the object is open. -/
structure OpenEnds (P : Platform σ) (d : DeviceId) (o : OpenAnswers) (low : Fd)
    (r : Outcome Exn (World σ) Unit) : Prop where
  refused : o.fd < low → ∃ msg w', r = .threw (.std (.systemError o.errno msg)) w'
  unreadable : low ≤ o.fd → o.metadata < 0 →
    ∃ msg w', r = .threw (.std (.systemError (-o.metadata) msg)) w'
  opened : low ≤ o.fd → 0 ≤ o.metadata → ∃ w', r = .returned () w' ∧ OpenOn P w' d o.fd

/-- Default construction followed by `open(filename, flags)`. -/
def constructAndOpen (P : Platform σ) (this : DeviceId) (filename : String)
    (flags : BitVec 32) : Op σ Unit := do
  constructDefault P this
  openPath P this filename flags

section Agreement

variable {w : World σ} {d : DeviceId} {o : OpenAnswers} {filename : String} {flags : BitVec 32}
variable {h : Handle} {D : Device}

/-- `create(path)` on an invalid object: it fails on a descriptor below 1 and on bad metadata. -/
theorem createPath_ends (hdoc : P.Documented V) (hD : w.devices d = some D) (hinvalid : D.raw = none)
    (ho : o.OfCreate P filename flags w.env) :
    OpenEnds P d o 1 (createPath P d filename flags w) := by
  have happly := createPath_apply (P := P) hD filename flags
  simp only [ho.fd, ho.errno] at happly
  refine ⟨fun hlow => ?_, fun hpos hneg => ?_, fun hpos hmeta => ?_⟩
  · simp only [hlow, if_true] at happly
    exact ⟨_, _, happly⟩
  · have hlow : ¬ o.fd < 1 := Int.not_lt.2 hpos
    simp only [hlow, if_false, ho.metadata (Int.le_trans (by decide) hpos), hneg, if_true]
      at happly
    exact ⟨_, _, happly⟩
  · have hlow : ¬ o.fd < 1 := Int.not_lt.2 hpos
    have hnneg : ¬ o.metadata < 0 := Int.not_lt.2 hmeta
    have hnonneg : 0 ≤ o.fd := Int.le_trans (by decide) hpos
    have hret := ho.metadata hnonneg
    simp only [hlow, hret, hnneg, if_false] at happly
    refine ⟨_, happly, ?_⟩
    -- The object was invalid, so `destroy` does not touch the new handle.
    rcases (hdoc.libevdevNewFromFd o.fd (P.posixOpen filename flags w.env).2).2
      (hret ▸ hmeta) with ⟨_, _, _, h, hdev, _, hev⟩
    refine ⟨_, h, World.setDevice_devices_self _ _ _, hdev, ?_, rfl, ?_⟩
    · have hv : V.evdevs (P.libevdevNewFromFd o.fd (P.posixOpen filename flags w.env).2).2 h =
          some { EvdevView.fresh with fd := o.fd, initialized := true } := by
        rw [hev, Function.update_self]
      let w₁ := (w.called (.posixOpen filename flags o.fd o.errno)
        (P.posixOpen filename flags w.env).2).called (.libevdevNewFromFd o.fd o.metadata
          (P.libevdevNewFromFd o.fd (P.posixOpen filename flags w.env).2).1.2)
            (P.libevdevNewFromFd o.fd (P.posixOpen filename flags w.env).2).2
      have hv₁ : V.evdevs (w₁.disposed P D).env h =
          some { EvdevView.fresh with fd := o.fd, initialized := true } :=
        (World.evdevs_disposed hdoc (Device.Live.of_invalid hinvalid) (by simp [hinvalid])).trans hv
      exact hdoc.libevdevGetFd h _ _ hv₁
    · simp [isOpen, ne_minusOne_of_nonneg hnonneg]

/-- `Device{path}` ends like `create(path)` on the new object. -/
theorem constructPath_ends (hdoc : P.Documented V) (hfree : w.devices d = none)
    (ho : o.OfCreate P filename flags w.env) :
    OpenEnds P d o 1 (constructPath P d filename flags w) := by
  have hborn := World.setDevice_devices_self w d (some {})
  have hbody : OpenEnds P d o 1 (createPath P d filename flags (w.setDevice d (some {}))) :=
    createPath_ends hdoc hborn rfl ho
  refine ⟨fun hlow => ?_, fun hpos hneg => ?_, fun hpos hmeta => ?_⟩
  · -- The exception of the body is the exception of the constructor.
    rcases hbody.refused hlow with ⟨msg, w', hthrew⟩
    exact ⟨msg, _, construct_of_threw hfree hthrew⟩
  · rcases hbody.unreadable hpos hneg with ⟨msg, w', hthrew⟩
    exact ⟨msg, _, construct_of_threw hfree hthrew⟩
  · rcases hbody.opened hpos hmeta with ⟨w', hret, hon⟩
    exact ⟨w', construct_of_returned hfree hret, hon⟩

/-- Default construction and `open`: it fails on a negative descriptor and on bad metadata. -/
theorem constructAndOpen_ends (hdoc : P.Documented V) (hfree : w.devices d = none)
    (ho : o.OfOpen P filename flags w.env h) :
    OpenEnds P d o 0 (constructAndOpen P d filename flags w) := by
  let w₁ := w.called (.libevdevNew (some h)) (P.libevdevNew w.env).2
  have hnew : constructDefault P d w = .returned () (w₁.setDevice d (some { raw := some h })) :=
    constructDefault_apply hfree ho.new
  have hrun : constructAndOpen P d filename flags w =
      openPath P d filename flags (w₁.setDevice d (some { raw := some h })) := by
    simp [constructAndOpen, hnew]
  have happly := openPath_apply (P := P) (World.setDevice_devices_self w₁ d
    (some { raw := some h })) rfl rfl filename flags
  simp only [World.setDevice_env, World.called_env, w₁, ho.fd, ho.errno] at happly
  rw [hrun]
  refine ⟨fun hneg => ?_, fun hok hneg => ?_, fun hok hmeta => ?_⟩
  · simp only [hneg, if_true] at happly
    exact ⟨_, _, happly⟩
  · have hnneg : ¬ o.fd < 0 := Int.not_lt.2 hok
    simp only [hnneg, if_false, ho.metadata hok, hneg, if_true] at happly
    exact ⟨_, _, happly⟩
  · have hnneg : ¬ o.fd < 0 := Int.not_lt.2 hok
    have hnmeta : ¬ o.metadata < 0 := Int.not_lt.2 hmeta
    have hret := ho.metadata hok
    simp only [hnneg, hret, hnmeta, if_false] at happly
    refine ⟨_, happly, ?_⟩
    -- The handle of the default constructor is still live when `libevdev_set_fd` gets it.
    have hlaw := (hdoc.libevdevNew w.env).1
    simp only [ho.new] at hlaw
    have hv₁ : V.evdevs (P.posixOpen filename flags (P.libevdevNew w.env).2).2 h =
        some .fresh := by
      rw [(hdoc.posixOpen filename flags _).2.1, hlaw.2, Function.update_self]
    have hset := (hdoc.libevdevSetFd h o.fd _ _ hv₁).2.2.1 (hret ▸ hmeta)
    have hv : V.evdevs (P.libevdevSetFd h o.fd
        (P.posixOpen filename flags (P.libevdevNew w.env).2).2).2 h =
          some { EvdevView.fresh with fd := o.fd, initialized := true } := by
      rw [hset, Function.update_self]
    refine ⟨_, h, World.setDevice_devices_self _ _ _, rfl, ?_, rfl, ?_⟩
    · simpa using hdoc.libevdevGetFd h _ _ hv
    · simp [isOpen, ne_minusOne_of_nonneg hok]

/-- Two ways that both open the descriptor. -/
theorem sameOpening_of_opened {r₁ r₂ : Outcome Exn (World σ) Unit} {w₁ w₂ : World σ}
    (h₁ : r₁ = .returned () w₁) (h₂ : r₂ = .returned () w₂) (hon₁ : OpenOn P w₁ d o.fd)
    (hon₂ : OpenOn P w₂ d o.fd) : SameOpening P d o r₁ r₂ where
  succeeds := ⟨fun _ => ⟨w₂, h₂⟩, fun _ => ⟨w₁, h₁⟩⟩
  success := by
    intro w₁' w₂' h₁' h₂'
    rw [h₁] at h₁'
    rw [h₂] at h₂'
    cases h₁'
    cases h₂'
    exact ⟨hon₁, hon₂⟩
  failure₁ := fun hnot => absurd h₁ (hnot w₁)
  failure₂ := fun hnot => absurd h₂ (hnot w₂)

/-- Two ways that both throw agree when the first one reports the call that failed and the second
one does. -/
theorem sameOpening_iff_of_threw {r₁ r₂ : Outcome Exn (World σ) Unit} {e₁ e₂ : Int}
    {msg₁ msg₂ : Option String} {w₁ w₂ : World σ}
    (h₁ : r₁ = .threw (.std (.systemError e₁ msg₁)) w₁)
    (h₂ : r₂ = .threw (.std (.systemError e₂ msg₂)) w₂) :
    SameOpening P d o r₁ r₂ ↔ e₁ = o.failedErrno ∧ e₂ = o.failedErrno := by
  have hnot₁ : ∀ w, r₁ ≠ .returned () w := by
    intro w hret
    rw [h₁] at hret
    cases hret
  have hnot₂ : ∀ w, r₂ ≠ .returned () w := by
    intro w hret
    rw [h₂] at hret
    cases hret
  constructor
  · intro hsame
    rcases hsame.failure₁ hnot₁ with ⟨msg, w, hthrew₁⟩
    rcases hsame.failure₂ hnot₂ with ⟨msg', w', hthrew₂⟩
    rw [h₁] at hthrew₁
    rw [h₂] at hthrew₂
    cases hthrew₁
    cases hthrew₂
    exact ⟨rfl, rfl⟩
  · intro hboth
    rcases hboth with ⟨he₁, he₂⟩
    refine ⟨?_, ?_, fun _ => ⟨msg₁, w₁, he₁ ▸ h₁⟩, fun _ => ⟨msg₂, w₂, he₂ ▸ h₂⟩⟩
    · exact ⟨fun hret => absurd hret.choose_spec (hnot₁ _),
        fun hret => absurd hret.choose_spec (hnot₂ _)⟩
    · intro w₁' w₂' hret
      exact absurd hret (hnot₁ w₁')

/-- A way that refuses the descriptor 0 and one that does not agree unless `::open` returned 0; and
then only if the `errno` left over happens to be the error of reading the metadata. -/
theorem sameOpening_iff {r₁ r₂ : Outcome Exn (World σ) Unit} (h₁ : OpenEnds P d o 1 r₁)
    (h₂ : OpenEnds P d o 0 r₂) :
    SameOpening P d o r₁ r₂ ↔ o.fd ≠ 0 ∨ (o.metadata < 0 ∧ o.errno = -o.metadata) := by
  by_cases hneg : o.fd < 0
  · -- Both report the `errno` of `::open`.
    rcases h₁.refused (Int.lt_trans hneg (by decide)) with ⟨msg₁, w₁, hthrew₁⟩
    rcases h₂.refused hneg with ⟨msg₂, w₂, hthrew₂⟩
    have herrno : o.errno = o.failedErrno := by simp [OpenAnswers.failedErrno, hneg]
    rw [sameOpening_iff_of_threw hthrew₁ hthrew₂]
    exact ⟨fun _ => Or.inl (Int.ne_of_lt hneg), fun _ => ⟨herrno, herrno⟩⟩
  · have hok : 0 ≤ o.fd := Int.not_lt.1 hneg
    have hfailed : o.failedErrno = -o.metadata := by simp [OpenAnswers.failedErrno, hneg]
    by_cases hzero : o.fd = 0
    · -- Only `create(path)` takes 0 for a failure, and it throws whatever `errno` holds.
      rcases h₁.refused (hzero ▸ by decide) with ⟨msg₁, w₁, hthrew₁⟩
      by_cases hmeta : o.metadata < 0
      · rcases h₂.unreadable hok hmeta with ⟨msg₂, w₂, hthrew₂⟩
        rw [sameOpening_iff_of_threw hthrew₁ hthrew₂, hfailed]
        simp [hzero, hmeta]
      · -- Only `open` succeeds.
        rcases h₂.opened hok (Int.not_lt.1 hmeta) with ⟨w₂, hret₂, _⟩
        refine ⟨fun hsame => ?_, fun hcond => ?_⟩
        · rcases hsame.succeeds.2 ⟨w₂, hret₂⟩ with ⟨w, hret₁⟩
          rw [hthrew₁] at hret₁
          cases hret₁
        · rcases hcond with hne | ⟨hbad, _⟩
          · exact absurd hzero hne
          · exact absurd hbad hmeta
    · -- Above 0 the two ways test the same things.
      have hpos : 1 ≤ o.fd := Int.lt_iff_le_and_ne.2 ⟨hok, Ne.symm hzero⟩
      refine ⟨fun _ => Or.inl hzero, fun _ => ?_⟩
      by_cases hmeta : o.metadata < 0
      · rcases h₁.unreadable hpos hmeta with ⟨msg₁, w₁, hthrew₁⟩
        rcases h₂.unreadable hok hmeta with ⟨msg₂, w₂, hthrew₂⟩
        exact (sameOpening_iff_of_threw hthrew₁ hthrew₂).2 ⟨hfailed.symm, hfailed.symm⟩
      · rcases h₁.opened hpos (Int.not_lt.1 hmeta) with ⟨w₁, hret₁, hon₁⟩
        rcases h₂.opened hok (Int.not_lt.1 hmeta) with ⟨w₂, hret₂, hon₂⟩
        exact sameOpening_of_opened hret₁ hret₂ hon₁ hon₂

/-- `Device{path}`, or `create(path)` on an invalid object, and default construction followed by
`open(path)`, in worlds where the environment answers the same, end the same way exactly when
`::open` does not return the descriptor 0 (or reading its metadata fails with the error number that
`errno` happens to hold). -/
theorem two_ways_agree_iff (hdoc : P.Documented V) {w₁ w₂ w₃ : World σ}
    (hfree₁ : w₁.devices d = none) (hfree₂ : w₂.devices d = none) (hD : w₃.devices d = some D)
    (hinvalid : D.raw = none) (ho₁ : o.OfCreate P filename flags w₁.env)
    (ho₂ : o.OfOpen P filename flags w₂.env h) (ho₃ : o.OfCreate P filename flags w₃.env) :
    (SameOpening P d o (constructPath P d filename flags w₁)
        (constructAndOpen P d filename flags w₂) ↔
      o.fd ≠ 0 ∨ (o.metadata < 0 ∧ o.errno = -o.metadata)) ∧
    (SameOpening P d o (createPath P d filename flags w₃)
        (constructAndOpen P d filename flags w₂) ↔
      o.fd ≠ 0 ∨ (o.metadata < 0 ∧ o.errno = -o.metadata)) := by
  have hconstruct := constructPath_ends hdoc hfree₁ ho₁
  have hcreate := createPath_ends hdoc hD hinvalid ho₃
  have hopen := constructAndOpen_ends hdoc hfree₂ ho₂
  exact ⟨sameOpening_iff hconstruct hopen, sameOpening_iff hcreate hopen⟩

end Agreement

/-- `::open` returns 3. -/
theorem two_ways_agree_iff_three :
    (SameOpening Script.platform 0 { fd := 3, errno := 0, metadata := 0 }
        (constructPath Script.platform 0 "/dev/input/event0" 0
          (World.init { opens := [3], handles := [0] }))
        (constructAndOpen Script.platform 0 "/dev/input/event0" 0
          (World.init { opens := [3], handles := [0] })) ↔
      (3 : Fd) ≠ 0 ∨ ((0 : Int) < 0 ∧ (0 : Int) = -0)) ∧
    (SameOpening Script.platform 0 { fd := 3, errno := 0, metadata := 0 }
        (createPath Script.platform 0 "/dev/input/event0" 0
          ((World.init { opens := [3], handles := [0] }).setDevice 0 (some {})))
        (constructAndOpen Script.platform 0 "/dev/input/event0" 0
          (World.init { opens := [3], handles := [0] })) ↔
      (3 : Fd) ≠ 0 ∨ ((0 : Int) < 0 ∧ (0 : Int) = -0)) :=
  two_ways_agree_iff (o := { fd := 3, errno := 0, metadata := 0 }) (h := 0) Script.documented
    rfl rfl rfl rfl ⟨rfl, rfl, fun _ => rfl⟩ ⟨rfl, rfl, rfl, fun _ => rfl⟩
    ⟨rfl, rfl, fun _ => rfl⟩

/-- `::open` returns 0: `Device{path}` throws, `open` succeeds. -/
theorem two_ways_disagree :
    OpenAnswers.OfCreate Script.platform { fd := 0, errno := 0, metadata := 0 }
        "/dev/input/event0" 0 { opens := [0], handles := [0] } ∧
    OpenAnswers.OfOpen Script.platform { fd := 0, errno := 0, metadata := 0 }
        "/dev/input/event0" 0 { opens := [0], handles := [0] } 0 ∧
    ¬ SameOpening Script.platform 0 { fd := 0, errno := 0, metadata := 0 }
        (constructPath Script.platform 0 "/dev/input/event0" 0
          (World.init { opens := [0], handles := [0] }))
        (constructAndOpen Script.platform 0 "/dev/input/event0" 0
          (World.init { opens := [0], handles := [0] })) := by
  refine ⟨⟨rfl, rfl, fun _ => rfl⟩, ⟨rfl, rfl, rfl, fun _ => rfl⟩, fun hsame => ?_⟩
  rcases hsame.succeeds.2 ⟨_, rfl⟩ with ⟨w, hret⟩
  cases hret

end Device

end Evdevxx
