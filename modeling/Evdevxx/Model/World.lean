import Evdevxx.Logic.Memory
import Evdevxx.Model.Platform

/-!
# World — objects in memory, the platform, and the calls made so far

* `BasicWrapper` — `detail::basic_wrapper<T, InvalidValue>`, the common base of `Device` and
  `Uinput`: a raw value that is either a handle or `InvalidValue`;
* `Device`, `Uinput`, `Grabber` — the data members of the three classes;
* `World` — the objects at their addresses, the platform's state, and the log of the calls that
  create, free, open, close or configure something, newest first;
* `Op` — a member function: a computation over the world that may throw.
-/

namespace Evdevxx

/-! ## basic_wrapper -/

/-- `detail::basic_wrapper<T, InvalidValue>`; `T{}` is `default`. -/
structure BasicWrapper (T : Type) (InvalidValue : T) where
  raw : T := InvalidValue
  deriving DecidableEq, Repr

namespace BasicWrapper

variable {T : Type} {InvalidValue : T}

/-- `basic_wrapper::is_valid()` -/
def isValid [DecidableEq T] (this : BasicWrapper T InvalidValue) : Bool :=
  this.raw ≠ InvalidValue

/-- `basic_wrapper::acquire(new_state)` -/
def acquire (_this : BasicWrapper T InvalidValue) (newState : T) : BasicWrapper T InvalidValue :=
  { raw := newState }

/-- `basic_wrapper::release()`: the old value, and the wrapper afterwards. -/
def release [Inhabited T] (this : BasicWrapper T InvalidValue) :
    T × BasicWrapper T InvalidValue :=
  (this.raw, { raw := default })

end BasicWrapper

/-! ## Objects -/

/-- `Device`: the wrapped `libevdev*`, and the descriptor to close. -/
structure Device extends BasicWrapper (Option Handle) none where
  ownedFd : Fd := -1
  deriving DecidableEq, Repr

/-- `Uinput`: the wrapped `libevdev_uinput*`. -/
structure Uinput extends BasicWrapper (Option UinputHandle) none
  deriving DecidableEq, Repr

/-- The address of a `Uinput` object. -/
abbrev UinputId := Nat

/-- The address of a `Grabber` object. -/
abbrev GrabberId := Nat

/-- `Grabber`: the device it holds, if any. -/
structure Grabber where
  dev : Option DeviceId := none
  deriving DecidableEq, Repr

/-! ## Calls -/

/-- One call of the platform, with its answer; `errno` is what `::open` left there. -/
inductive Call where
  | posixOpen (path : String) (flags : BitVec 32) (ret errno : Int)
  | posixClose (fd : Fd)
  | libevdevNew (ret : Option Handle)
  | libevdevNewFromFd (fd : Fd) (ret : Int) (dev : Option Handle)
  | libevdevFree (dev : Handle)
  | libevdevSetFd (dev : Handle) (fd : Fd) (ret : Int)
  | libevdevChangeFd (dev : Handle) (fd : Fd) (ret : Int)
  | libevdevGrab (dev : Handle) (mode : GrabMode) (ret : Int)
  | libevdevSetDeviceLogFunction (dev : Handle) (priority : LogLevel) (data : DeviceId)
  | libevdevUinputCreateFromDevice (dev : Handle) (fd : Fd) (ret : Int) (udev : Option UinputHandle)
  | libevdevUinputDestroy (udev : UinputHandle)
  deriving DecidableEq, Repr

/-! ## The world -/

/-- The program's objects, the platform's state, and the calls made so far, newest first. -/
structure World (σ : Type) where
  env : σ
  devices : DeviceId → Option Device
  uinputs : UinputId → Option Uinput
  grabbers : GrabberId → Option Grabber
  log : List Call

namespace World

variable {σ : Type}

/-- No object exists and no call was made. -/
def init (s : σ) : World σ :=
  { env := s
    devices := fun _ => none
    uinputs := fun _ => none
    grabbers := fun _ => none
    log := [] }

/-- The world after a call that leaves the platform in state `s`. -/
def called (w : World σ) (c : Call) (s : σ) : World σ :=
  { w with env := s, log := c :: w.log }

/-- The world after a call that is not logged. -/
def withEnv (w : World σ) (s : σ) : World σ :=
  { w with env := s }

/-- Write the memory of a `Device`; `none` where its lifetime is over. -/
def setDevice (w : World σ) (d : DeviceId) (D : Option Device) : World σ :=
  { w with devices := Function.update w.devices d D }

/-- Write the memory of a `Uinput`. -/
def setUinput (w : World σ) (u : UinputId) (U : Option Uinput) : World σ :=
  { w with uinputs := Function.update w.uinputs u U }

/-- Write the memory of a `Grabber`. -/
def setGrabber (w : World σ) (g : GrabberId) (G : Option Grabber) : World σ :=
  { w with grabbers := Function.update w.grabbers g G }

section Projections

variable (w : World σ) (c : Call) (s : σ) (i : Nat)
variable (D : Option Device) (U : Option Uinput) (G : Option Grabber)

@[simp] theorem called_env : (w.called c s).env = s := rfl
@[simp] theorem called_devices : (w.called c s).devices = w.devices := rfl
@[simp] theorem called_uinputs : (w.called c s).uinputs = w.uinputs := rfl
@[simp] theorem called_grabbers : (w.called c s).grabbers = w.grabbers := rfl
@[simp] theorem called_log : (w.called c s).log = c :: w.log := rfl

@[simp] theorem withEnv_env : (w.withEnv s).env = s := rfl
@[simp] theorem withEnv_devices : (w.withEnv s).devices = w.devices := rfl
@[simp] theorem withEnv_uinputs : (w.withEnv s).uinputs = w.uinputs := rfl
@[simp] theorem withEnv_grabbers : (w.withEnv s).grabbers = w.grabbers := rfl
@[simp] theorem withEnv_log : (w.withEnv s).log = w.log := rfl

@[simp] theorem setDevice_env : (w.setDevice i D).env = w.env := rfl
@[simp] theorem setDevice_devices :
    (w.setDevice i D).devices = Function.update w.devices i D := rfl
@[simp] theorem setDevice_uinputs : (w.setDevice i D).uinputs = w.uinputs := rfl
@[simp] theorem setDevice_grabbers : (w.setDevice i D).grabbers = w.grabbers := rfl
@[simp] theorem setDevice_log : (w.setDevice i D).log = w.log := rfl

@[simp] theorem setUinput_env : (w.setUinput i U).env = w.env := rfl
@[simp] theorem setUinput_devices : (w.setUinput i U).devices = w.devices := rfl
@[simp] theorem setUinput_uinputs :
    (w.setUinput i U).uinputs = Function.update w.uinputs i U := rfl
@[simp] theorem setUinput_grabbers : (w.setUinput i U).grabbers = w.grabbers := rfl
@[simp] theorem setUinput_log : (w.setUinput i U).log = w.log := rfl

@[simp] theorem setGrabber_env : (w.setGrabber i G).env = w.env := rfl
@[simp] theorem setGrabber_devices : (w.setGrabber i G).devices = w.devices := rfl
@[simp] theorem setGrabber_uinputs : (w.setGrabber i G).uinputs = w.uinputs := rfl
@[simp] theorem setGrabber_grabbers :
    (w.setGrabber i G).grabbers = Function.update w.grabbers i G := rfl
@[simp] theorem setGrabber_log : (w.setGrabber i G).log = w.log := rfl

/-- Where no object lives, ending a lifetime changes nothing. -/
theorem setGrabber_of_none {w : World σ} {i : GrabberId} (h : w.grabbers i = none) :
    w.setGrabber i none = w := by
  have hself : Function.update w.grabbers i none = w.grabbers := by
    rw [← h, Function.update_eq_self]
  simp only [setGrabber, hself]

theorem setDevice_devices_self : (w.setDevice i D).devices i = D := by
  simp

theorem setUinput_uinputs_self : (w.setUinput i U).uinputs i = U := by
  simp

/-- Only the last write to an object counts. -/
@[simp] theorem setDevice_setDevice (D' : Option Device) :
    (w.setDevice i D).setDevice i D' = w.setDevice i D' := by
  simp [setDevice]

/-- Only the last write to an object counts. -/
@[simp] theorem setUinput_setUinput (U' : Option Uinput) :
    (w.setUinput i U).setUinput i U' = w.setUinput i U' := by
  simp [setUinput]

/-- Only the last write to an object counts. -/
@[simp] theorem setGrabber_setGrabber (G' : Option Grabber) :
    (w.setGrabber i G).setGrabber i G' = w.setGrabber i G' := by
  simp [setGrabber]

theorem setDevice_comm {i j : DeviceId} (hij : i ≠ j) (D' : Option Device) :
    (w.setDevice i D).setDevice j D' = (w.setDevice j D').setDevice i D := by
  simp [setDevice, Function.update_comm hij]

theorem setUinput_comm {i j : UinputId} (hij : i ≠ j) (U' : Option Uinput) :
    (w.setUinput i U).setUinput j U' = (w.setUinput j U').setUinput i U := by
  simp [setUinput, Function.update_comm hij]

theorem setGrabber_comm {i j : GrabberId} (hij : i ≠ j) (G' : Option Grabber) :
    (w.setGrabber i G).setGrabber j G' = (w.setGrabber j G').setGrabber i G := by
  simp [setGrabber, Function.update_comm hij]

/-- Calls do not touch objects, so a write can be moved before them. -/
@[simp] theorem setDevice_called : (w.setDevice i D).called c s = (w.called c s).setDevice i D := rfl

/-- Calls do not touch objects, so a write can be moved before them. -/
@[simp] theorem setUinput_called : (w.setUinput i U).called c s = (w.called c s).setUinput i U := rfl

/-- Calls do not touch objects, so a write can be moved before them. -/
@[simp] theorem setGrabber_called :
    (w.setGrabber i G).called c s = (w.called c s).setGrabber i G := rfl

end Projections

end World

/-- A member function, or a piece of one. -/
abbrev Op (σ α : Type) := Prog Exn (World σ) α

namespace Op

variable {σ α : Type} (P : Platform σ)

/-- `throw_sys_error(e, msg)` -/
def throwSysError (e : Int) (msg : String) : Op σ α :=
  Prog.throw (.std (.systemError e (some msg)))

/-- `throw_sys_error(e)` -/
def throwErrno (e : Int) : Op σ α :=
  Prog.throw (.std (.systemError e none))

/-- `throw runtime_error{what}` -/
def throwRuntimeError (what : String) : Op σ α :=
  Prog.throw (.std (.runtimeError what))

/-- `throw logic_error{what}` -/
def throwLogicError (what : String) : Op σ α :=
  Prog.throw (.std (.logicError what))

/-- The object behind a raw pointer that the platform dereferences. -/
def deref (p : Option α) : Op σ α :=
  match p with
  | some h => pure h
  | none => Prog.undefined

/-- `errno` -/
def errno : Op σ Int :=
  Prog.gets fun w => P.errno w.env

/-- `::open` -/
def posixOpen (path : String) (flags : BitVec 32) : Op σ Int := fun w =>
  let r := P.posixOpen path flags w.env
  .returned r.1 (w.called (.posixOpen path flags r.1 (P.errno r.2)) r.2)

/-- `::close` -/
def posixClose (fd : Fd) : Op σ Unit := fun w =>
  .returned () (w.called (.posixClose fd) (P.posixClose fd w.env))

/-- `::fcntl(fd, F_GETFL)` -/
def fcntlGetfl (fd : Fd) : Op σ (BitVec 32) := fun w =>
  let r := P.fcntlGetfl fd w.env
  .returned r.1 (w.withEnv r.2)

/-- `::fcntl(fd, F_SETFL, flags)` -/
def fcntlSetfl (fd : Fd) (flags : BitVec 32) : Op σ Int := fun w =>
  let r := P.fcntlSetfl fd flags w.env
  .returned r.1 (w.withEnv r.2)

def libevdevNew : Op σ (Option Handle) := fun w =>
  let r := P.libevdevNew w.env
  .returned r.1 (w.called (.libevdevNew r.1) r.2)

def libevdevNewFromFd (fd : Fd) : Op σ (Int × Option Handle) := fun w =>
  let r := P.libevdevNewFromFd fd w.env
  .returned r.1 (w.called (.libevdevNewFromFd fd r.1.1 r.1.2) r.2)

def libevdevFree (h : Handle) : Op σ Unit := fun w =>
  .returned () (w.called (.libevdevFree h) (P.libevdevFree h w.env))

def libevdevSetFd (h : Handle) (fd : Fd) : Op σ Int := fun w =>
  let r := P.libevdevSetFd h fd w.env
  .returned r.1 (w.called (.libevdevSetFd h fd r.1) r.2)

def libevdevChangeFd (h : Handle) (fd : Fd) : Op σ Int := fun w =>
  let r := P.libevdevChangeFd h fd w.env
  .returned r.1 (w.called (.libevdevChangeFd h fd r.1) r.2)

def libevdevGetFd (h : Handle) : Op σ Int :=
  Prog.gets fun w => P.libevdevGetFd h w.env

def libevdevGrab (h : Handle) (mode : GrabMode) : Op σ Int := fun w =>
  let r := P.libevdevGrab h mode w.env
  .returned r.1 (w.called (.libevdevGrab h mode r.1) r.2)

def libevdevSetDeviceLogFunction (h : Handle) (priority : LogLevel) (data : DeviceId) :
    Op σ Unit := fun w =>
  .returned () (w.called (.libevdevSetDeviceLogFunction h priority data)
    (P.libevdevSetDeviceLogFunction h priority data w.env))

def libevdevNextEvent (h : Handle) (flags : ReadFlag) : Op σ (Int × Option InputEvent) := fun w =>
  let r := P.libevdevNextEvent h flags w.env
  .returned r.1 (w.withEnv r.2)

def libevdevUinputCreateFromDevice (h : Handle) (fd : Fd) :
    Op σ (Int × Option UinputHandle) := fun w =>
  let r := P.libevdevUinputCreateFromDevice h fd w.env
  .returned r.1 (w.called (.libevdevUinputCreateFromDevice h fd r.1.1 r.1.2) r.2)

def libevdevUinputDestroy (u : UinputHandle) : Op σ Unit := fun w =>
  .returned () (w.called (.libevdevUinputDestroy u) (P.libevdevUinputDestroy u w.env))

end Op

end Evdevxx
