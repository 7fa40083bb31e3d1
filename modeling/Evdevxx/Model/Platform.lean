import Mathlib.Logic.Function.Basic
import Evdevxx.Logic.Memory
import Evdevxx.Model.Event

/-!
# Platform — the system calls and the libevdev functions the library is written against

None of this code is part of the repository, so it is a parameter: a `Platform σ` is any
implementation of the calls over a state `σ` of its own.  Every answer (a call that fails, the
descriptor `open(2)` picks, the address of a new `libevdev`) is read off that state, so a statement
about every platform and every state of it is about every answer.

What the library relies on is stated as laws.  `Views` are the parts of the platform's state that
the documentation of the calls talks about (which descriptors are open, which handles are live and
what each handle remembers), and `Platform.Documented` says, call by call, what happens to them.
-/

namespace Evdevxx

/-- A file descriptor. -/
abbrev Fd := Int

/-- The address of a `libevdev` object; a pointer that may be null is an `Option Handle`. -/
abbrev Handle := Nat

/-- The address of a `libevdev_uinput` object. -/
abbrev UinputHandle := Nat

/-- The address of a `Device` object. -/
abbrev DeviceId := Nat

/-- `enum libevdev_grab_mode` -/
inductive GrabMode where
  | grab
  | ungrab
  deriving DecidableEq, Repr

/-- `Device::LogLevel` -/
inductive LogLevel where
  | none
  | error
  | info
  | debug
  deriving DecidableEq, Repr

/-- `O_NONBLOCK` -/
def oNonblock : BitVec 32 := 0x800

/-- The calls, each a function of the platform's state. -/
structure Platform (σ : Type) where
  /-- `errno`, as the last call left it -/
  errno : σ → Int
  /-- `open(2)` -/
  posixOpen : String → BitVec 32 → σ → Int × σ
  /-- `close(2)`; the library ignores what it returns -/
  posixClose : Fd → σ → σ
  /-- `fcntl(fd, F_GETFL)` -/
  fcntlGetfl : Fd → σ → BitVec 32 × σ
  /-- `fcntl(fd, F_SETFL, flags)` -/
  fcntlSetfl : Fd → BitVec 32 → σ → Int × σ
  libevdevNew : σ → Option Handle × σ
  /-- the return code, and what `*dev` is afterwards -/
  libevdevNewFromFd : Fd → σ → (Int × Option Handle) × σ
  libevdevFree : Handle → σ → σ
  libevdevSetFd : Handle → Fd → σ → Int × σ
  libevdevChangeFd : Handle → Fd → σ → Int × σ
  libevdevGetFd : Handle → σ → Int
  libevdevGrab : Handle → GrabMode → σ → Int × σ
  /-- `log_helper` is the only callback installed; `data` is the object it is given -/
  libevdevSetDeviceLogFunction : Handle → LogLevel → DeviceId → σ → σ
  /-- the return code, and the event written to `*ev`, if one was written -/
  libevdevNextEvent : Handle → ReadFlag → σ → (Int × Option InputEvent) × σ
  /-- the return code, and what `*uinput_dev` is afterwards -/
  libevdevUinputCreateFromDevice : Handle → Fd → σ → (Int × Option UinputHandle) × σ
  libevdevUinputDestroy : UinputHandle → σ → σ

/-- What a live `libevdev` object remembers. -/
structure EvdevView where
  /-- the descriptor it reads from, `-1` if it has none -/
  fd : Fd
  /-- whether `libevdev_set_fd` has succeeded on it -/
  initialized : Bool
  /-- the grab flag -/
  grabbed : Bool
  /-- the data pointer of its log callback, if one is installed -/
  logData : Option DeviceId
  deriving DecidableEq, Repr

/-- A `libevdev` object as `libevdev_new` returns it. -/
def EvdevView.fresh : EvdevView :=
  { fd := -1, initialized := false, grabbed := false, logData := none }

/-- The observable parts of a platform's state. -/
structure Views (σ : Type) where
  /-- the open descriptors, with their file status flags -/
  files : σ → Fd → Option (BitVec 32)
  /-- the live `libevdev` objects -/
  evdevs : σ → Handle → Option EvdevView
  /-- the live `libevdev_uinput` objects -/
  uinputs : σ → UinputHandle → Bool
  /-- the status flags that `F_SETFL` can change -/
  settable : BitVec 32

namespace Views

variable {σ : Type} (V : Views σ)

/-- Nothing observable differs between two states. -/
def Same (s s' : σ) : Prop :=
  V.files s' = V.files s ∧ V.evdevs s' = V.evdevs s ∧ V.uinputs s' = V.uinputs s

end Views

/-- `-EBADF` -/
def ebadf : Int := -9

/-- The documented behaviour of the calls. -/
structure Platform.Documented {σ : Type} (P : Platform σ) (V : Views σ) : Prop where
  /-- `open(2)` returns `-1`, or a descriptor that was not open. -/
  posixOpen : ∀ path flags s,
    ((P.posixOpen path flags s).1 = -1 ∧ V.files (P.posixOpen path flags s).2 = V.files s ∨
      0 ≤ (P.posixOpen path flags s).1 ∧ V.files s (P.posixOpen path flags s).1 = none ∧
        ∃ f, V.files (P.posixOpen path flags s).2 =
          Function.update (V.files s) (P.posixOpen path flags s).1 (some f)) ∧
      V.evdevs (P.posixOpen path flags s).2 = V.evdevs s ∧
      V.uinputs (P.posixOpen path flags s).2 = V.uinputs s
  /-- After `close(2)` the descriptor is not open. -/
  posixClose : ∀ fd s,
    V.files (P.posixClose fd s) = Function.update (V.files s) fd none ∧
      V.evdevs (P.posixClose fd s) = V.evdevs s ∧ V.uinputs (P.posixClose fd s) = V.uinputs s
  /-- `F_GETFL` returns the status flags of an open descriptor, or a negative number. -/
  fcntlGetfl : ∀ fd s,
    (0 ≤ (P.fcntlGetfl fd s).1.toInt → V.files s fd = some (P.fcntlGetfl fd s).1) ∧
      V.Same s (P.fcntlGetfl fd s).2
  /-- `F_SETFL` replaces the status flags that can be changed, or returns a negative number.  The
  flags belong to the open file description, so other descriptors of it change as well; none is
  opened or closed. -/
  fcntlSetfl : ∀ fd flags s,
    (0 ≤ (P.fcntlSetfl fd flags s).1 → ∃ f, V.files s fd = some f ∧
        V.files (P.fcntlSetfl fd flags s).2 fd =
          some ((f &&& ~~~ V.settable) ||| (flags &&& V.settable))) ∧
      (∀ n, (V.files (P.fcntlSetfl fd flags s).2 n).isSome = (V.files s n).isSome) ∧
      ((P.fcntlSetfl fd flags s).1 < 0 → V.files (P.fcntlSetfl fd flags s).2 = V.files s) ∧
      V.evdevs (P.fcntlSetfl fd flags s).2 = V.evdevs s ∧
      V.uinputs (P.fcntlSetfl fd flags s).2 = V.uinputs s
  /-- `O_NONBLOCK` can be changed with `F_SETFL`. -/
  settable : oNonblock &&& V.settable = oNonblock
  /-- `libevdev_new` returns a null pointer, or the address of a new object. -/
  libevdevNew : ∀ s,
    (match (P.libevdevNew s).1 with
      | none => V.evdevs (P.libevdevNew s).2 = V.evdevs s
      | some h => V.evdevs s h = none ∧
          V.evdevs (P.libevdevNew s).2 = Function.update (V.evdevs s) h (some .fresh)) ∧
      V.files (P.libevdevNew s).2 = V.files s ∧ V.uinputs (P.libevdevNew s).2 = V.uinputs s
  /-- `libevdev_new_from_fd` fails and returns no live object, or it returns a new one that reads
  from the given open descriptor. -/
  libevdevNewFromFd : ∀ fd s,
    ((P.libevdevNewFromFd fd s).1.1 < 0 → V.Same s (P.libevdevNewFromFd fd s).2) ∧
      (0 ≤ (P.libevdevNewFromFd fd s).1.1 →
        (V.files s fd).isSome ∧ V.files (P.libevdevNewFromFd fd s).2 = V.files s ∧
          V.uinputs (P.libevdevNewFromFd fd s).2 = V.uinputs s ∧
          ∃ h, (P.libevdevNewFromFd fd s).1.2 = some h ∧ V.evdevs s h = none ∧
            V.evdevs (P.libevdevNewFromFd fd s).2 = Function.update (V.evdevs s) h
              (some { EvdevView.fresh with fd := fd, initialized := true }))
  /-- `libevdev_free` ends the life of the object; it does not close its descriptor. -/
  libevdevFree : ∀ h s v, V.evdevs s h = some v →
    V.evdevs (P.libevdevFree h s) = Function.update (V.evdevs s) h none ∧
      V.files (P.libevdevFree h s) = V.files s ∧ V.uinputs (P.libevdevFree h s) = V.uinputs s
  /-- `libevdev_set_fd` succeeds at most once on an object, and then installs the descriptor. -/
  libevdevSetFd : ∀ h fd s v, V.evdevs s h = some v →
    (v.initialized = true → (P.libevdevSetFd h fd s).1 = ebadf) ∧
      ((P.libevdevSetFd h fd s).1 < 0 → V.evdevs (P.libevdevSetFd h fd s).2 = V.evdevs s) ∧
      (0 ≤ (P.libevdevSetFd h fd s).1 →
        V.evdevs (P.libevdevSetFd h fd s).2 =
          Function.update (V.evdevs s) h (some { v with fd := fd, initialized := true })) ∧
      V.files (P.libevdevSetFd h fd s).2 = V.files s ∧
      V.uinputs (P.libevdevSetFd h fd s).2 = V.uinputs s
  /-- `libevdev_change_fd` installs another descriptor in an initialised object; it grabs
  nothing. -/
  libevdevChangeFd : ∀ h fd s v, V.evdevs s h = some v →
    ((P.libevdevChangeFd h fd s).1 = 0 → v.initialized = true ∧ ∃ g,
        (g = true → v.grabbed = true) ∧ V.evdevs (P.libevdevChangeFd h fd s).2 =
          Function.update (V.evdevs s) h (some { v with fd := fd, grabbed := g })) ∧
      ((P.libevdevChangeFd h fd s).1 ≠ 0 →
        V.evdevs (P.libevdevChangeFd h fd s).2 = V.evdevs s) ∧
      V.files (P.libevdevChangeFd h fd s).2 = V.files s ∧
      V.uinputs (P.libevdevChangeFd h fd s).2 = V.uinputs s
  /-- `libevdev_get_fd` returns the installed descriptor. -/
  libevdevGetFd : ∀ h s v, V.evdevs s h = some v → P.libevdevGetFd h s = v.fd
  /-- `libevdev_grab` sets or clears the single grab flag of the object, or fails and leaves it. -/
  libevdevGrab : ∀ h mode s v, V.evdevs s h = some v →
    ((P.libevdevGrab h mode s).1 < 0 → V.evdevs (P.libevdevGrab h mode s).2 = V.evdevs s) ∧
      (0 ≤ (P.libevdevGrab h mode s).1 → V.evdevs (P.libevdevGrab h mode s).2 =
        Function.update (V.evdevs s) h (some { v with grabbed := decide (mode = .grab) })) ∧
      V.files (P.libevdevGrab h mode s).2 = V.files s ∧
      V.uinputs (P.libevdevGrab h mode s).2 = V.uinputs s
  /-- `libevdev_set_device_log_function` replaces the callback of the object. -/
  libevdevSetDeviceLogFunction : ∀ h priority data s v, V.evdevs s h = some v →
    V.evdevs (P.libevdevSetDeviceLogFunction h priority data s) =
        Function.update (V.evdevs s) h (some { v with logData := some data }) ∧
      V.files (P.libevdevSetDeviceLogFunction h priority data s) = V.files s ∧
      V.uinputs (P.libevdevSetDeviceLogFunction h priority data s) = V.uinputs s
  /-- A negative status comes with no event; only a forced synchronisation reports
  `LIBEVDEV_READ_STATUS_SYNC` without one; a stored event has a type that exists. -/
  libevdevNextEvent : ∀ h flags s,
    ((P.libevdevNextEvent h flags s).1.1 < 0 → (P.libevdevNextEvent h flags s).1.2 = none) ∧
      ((P.libevdevNextEvent h flags s).1.2 = none → 0 ≤ (P.libevdevNextEvent h flags s).1.1 →
        flags &&& ReadFlag.forceSync ≠ 0 ∧ (P.libevdevNextEvent h flags s).1.1 = 1) ∧
      ∀ e, (P.libevdevNextEvent h flags s).1.2 = some e → e.type ≤ evMax
  /-- `libevdev_uinput_create_from_device` fails and returns no live object, or returns a new
  one. -/
  libevdevUinputCreateFromDevice : ∀ h fd s,
    ((P.libevdevUinputCreateFromDevice h fd s).1.1 < 0 →
        V.uinputs (P.libevdevUinputCreateFromDevice h fd s).2 = V.uinputs s) ∧
      (0 ≤ (P.libevdevUinputCreateFromDevice h fd s).1.1 →
        ∃ u, (P.libevdevUinputCreateFromDevice h fd s).1.2 = some u ∧ V.uinputs s u = false ∧
          V.uinputs (P.libevdevUinputCreateFromDevice h fd s).2 =
            Function.update (V.uinputs s) u true) ∧
      V.evdevs (P.libevdevUinputCreateFromDevice h fd s).2 = V.evdevs s
  /-- `libevdev_uinput_destroy` ends the life of the object. -/
  libevdevUinputDestroy : ∀ u s,
    V.uinputs (P.libevdevUinputDestroy u s) = Function.update (V.uinputs s) u false ∧
      V.evdevs (P.libevdevUinputDestroy u s) = V.evdevs s

/-! ## What the laws say about the objects that are live already -/

/-- A descriptor from `open(2)` is not the `-1` that stands for none. -/
theorem ne_minusOne_of_nonneg {n : Fd} (h : 0 ≤ n) : n ≠ -1 := by
  intro heq
  rw [heq] at h
  exact absurd h (by decide)

namespace Platform.Documented

variable {σ : Type} {P : Platform σ} {V : Views σ} {s : σ} {h : Handle} {v : EvdevView}

/-- When `::open` fails it returns `-1`. -/
theorem posixOpen_eq_minusOne (hdoc : P.Documented V) {path : String} {flags : BitVec 32}
    (hneg : (P.posixOpen path flags s).1 < 0) : (P.posixOpen path flags s).1 = -1 := by
  rcases (hdoc.posixOpen path flags s).1 with ⟨hminus, _⟩ | ⟨hok, _⟩
  · exact hminus
  · exact absurd hneg (Int.not_lt.2 hok)

theorem evdevs_posixOpen (hdoc : P.Documented V) (hv : V.evdevs s h = some v) (path : String)
    (flags : BitVec 32) : V.evdevs (P.posixOpen path flags s).2 h = some v :=
  (congrFun (hdoc.posixOpen path flags s).2.1 h).trans hv

/-- `::open` keeps the files that are open already. -/
theorem files_posixOpen (hdoc : P.Documented V) {n : Fd} {f : BitVec 32}
    (hf : V.files s n = some f) (path : String) (flags : BitVec 32) :
    V.files (P.posixOpen path flags s).2 n = some f := by
  rcases (hdoc.posixOpen path flags s).1 with ⟨_, hfiles⟩ | ⟨_, hfresh, f', hfiles⟩
  · rw [hfiles]
    exact hf
  · rw [hfiles, Function.update_of_ne (ne_of_lives_of_free hf hfresh)]
    exact hf

theorem evdevs_libevdevNew (hdoc : P.Documented V) (hv : V.evdevs s h = some v) :
    V.evdevs (P.libevdevNew s).2 h = some v := by
  have hlaw := (hdoc.libevdevNew s).1
  cases hp : (P.libevdevNew s).1 with
  | none =>
      simp only [hp] at hlaw
      rw [hlaw]
      exact hv
  | some p =>
      simp only [hp] at hlaw
      rcases hlaw with ⟨hfresh, hev⟩
      rw [hev, Function.update_of_ne (ne_of_lives_of_free hv hfresh)]
      exact hv

theorem evdevs_libevdevNewFromFd (hdoc : P.Documented V) (hv : V.evdevs s h = some v) (fd : Fd) :
    V.evdevs (P.libevdevNewFromFd fd s).2 h = some v := by
  rcases hdoc.libevdevNewFromFd fd s with ⟨hfail, hok⟩
  by_cases hneg : (P.libevdevNewFromFd fd s).1.1 < 0
  · rw [(hfail hneg).2.1]
    exact hv
  · rcases hok (Int.not_lt.1 hneg) with ⟨_, _, _, p, _, hfresh, hev⟩
    rw [hev, Function.update_of_ne (ne_of_lives_of_free hv hfresh)]
    exact hv

theorem files_libevdevNewFromFd (hdoc : P.Documented V) (fd : Fd) (s : σ) :
    V.files (P.libevdevNewFromFd fd s).2 = V.files s := by
  rcases hdoc.libevdevNewFromFd fd s with ⟨hfail, hok⟩
  by_cases hneg : (P.libevdevNewFromFd fd s).1.1 < 0
  · exact (hfail hneg).1
  · exact (hok (Int.not_lt.1 hneg)).2.1

theorem uinputs_libevdevNewFromFd (hdoc : P.Documented V) (fd : Fd) (s : σ) :
    V.uinputs (P.libevdevNewFromFd fd s).2 = V.uinputs s := by
  rcases hdoc.libevdevNewFromFd fd s with ⟨hfail, hok⟩
  by_cases hneg : (P.libevdevNewFromFd fd s).1.1 < 0
  · exact (hfail hneg).2.2
  · exact (hok (Int.not_lt.1 hneg)).2.2.1

end Platform.Documented

end Evdevxx
