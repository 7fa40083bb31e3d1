import Evdevxx.Model.World

/-!
# Device — the member functions of `evdev::Device` that manage the handle and the descriptor

Each definition is named after the member function it models; overloads are told apart by a suffix
(`create()` is `create`, `create(int)` is `createFd`, `create(path, flags)` is `createPath`).
`this : DeviceId` is the address of the object.  A member function called where no object lives is
undefined (those that do not read a member first begin with a `load`), as is a call of libevdev
with a null handle.
-/

namespace Evdevxx

namespace Device

variable {σ : Type} (P : Platform σ)

open Op

/-! ## The object behind `this` -/

def memory : Memory (World σ) DeviceId Device :=
  { get := World.devices
    set := World.setDevice }

def load (this : DeviceId) : Op σ Device :=
  memory.load this

def store (this : DeviceId) (D : Device) : Op σ Unit :=
  memory.store this D

/-- A constructor with the given body; the members have their default initialisers. -/
def construct (this : DeviceId) (body : Op σ Unit) : Op σ Unit :=
  memory.construct this {} body

/-! ## Handle and descriptor -/

def isOpen (D : Device) : Bool :=
  D.ownedFd ≠ -1

def acquire (this : DeviceId) (newRaw : Option Handle) (newFd : Fd) : Op σ Unit :=
  Prog.noexcept do
    let D ← load this
    let base := D.toBasicWrapper.acquire newRaw
    store this { toBasicWrapper := base, ownedFd := newFd }

def release (this : DeviceId) : Op σ (Option Handle × Fd) :=
  Prog.noexcept do
    let D ← load this
    let oldFd := D.ownedFd
    let (oldRaw, base) := D.toBasicWrapper.release
    store this { toBasicWrapper := base, ownedFd := -1 }
    pure (oldRaw, oldFd)

/-- `if (old_raw) libevdev_free(old_raw);` -/
def freeIfSet (oldRaw : Option Handle) : Op σ Unit :=
  match oldRaw with
  | some h => libevdevFree P h
  | none => pure ()

/-- `if (old_fd != -1) ::close(old_fd);` -/
def closeIfSet (oldFd : Fd) : Op σ Unit :=
  if oldFd ≠ -1 then posixClose P oldFd else pure ()

def destroy (this : DeviceId) : Op σ Unit :=
  Prog.noexcept do
    let (oldRaw, oldFd) ← release this
    freeIfSet P oldRaw
    closeIfSet P oldFd

def create (this : DeviceId) : Op σ Unit := do
  -- Nothing is read before the call, but `this` has to be an object.
  let _ ← load this
  let ptr ← libevdevNew P
  if ptr = none then
    throwRuntimeError "Could not construct libevdev device."
  else do
    destroy P this
    acquire this ptr (-1)

def createFd (this : DeviceId) (fd : Fd) : Op σ Unit := do
  let _ ← load this
  let (e, ptr) ← libevdevNewFromFd P fd
  if e < 0 then
    throwSysError (-e) "libevdev_new_from_fd()"
  else do
    destroy P this
    acquire this ptr fd

def createPath (this : DeviceId) (filename : String) (flags : BitVec 32) : Op σ Unit := do
  let _ ← load this
  let fd ← posixOpen P filename flags
  -- The boundary is 1 here and 0 in `open`.
  if fd < 1 then do
    let err ← errno P
    throwSysError err ("open(\"" ++ filename ++ "\")")
  else do
    let (e, ptr) ← libevdevNewFromFd P fd
    -- The object has not been touched so far.
    if e < 0 then do
      posixClose P fd
      throwSysError (-e) "libevdev_new_from_fd()"
    else do
      destroy P this
      acquire this ptr fd

def grab (this : DeviceId) : Op σ Unit := do
  let D ← load this
  let raw ← deref D.raw
  let e ← libevdevGrab P raw .grab
  if e < 0 then throwSysError (-e) "libevdev_grab()." else pure ()

def ungrab (this : DeviceId) : Op σ Unit := do
  let D ← load this
  let raw ← deref D.raw
  let e ← libevdevGrab P raw .ungrab
  if e < 0 then throwSysError (-e) "libevdev_grab()." else pure ()

def setFd (this : DeviceId) (fd : Fd) : Op σ Unit := do
  let D ← load this
  let raw ← deref D.raw
  let e ← libevdevSetFd P raw fd
  if e < 0 then throwSysError (-e) "libevdev_set_fd()." else pure ()

def changeFd (this : DeviceId) (fd : Fd) : Op σ Unit := do
  let D ← load this
  let raw ← deref D.raw
  let e ← libevdevChangeFd P raw fd
  if e ≠ 0 then throwRuntimeError "libevdev_change_fd()." else pure ()

def getFd (this : DeviceId) : Op σ Int := do
  let D ← load this
  let raw ← deref D.raw
  let fd ← libevdevGetFd P raw
  if fd = -1 then throwLogicError "libevdev_get_fd() failed." else pure fd

/-- `Device::open(filename, flags)` -/
def openPath (this : DeviceId) (filename : String) (flags : BitVec 32) : Op σ Unit := do
  let D ← load this
  if D.isOpen then
    throwLogicError "File is already open."
  else do
    let fd ← posixOpen P filename flags
    -- `owned_fd` is written whether or not the call succeeded.
    store this { D with ownedFd := fd }
    if fd < 0 then do
      let err ← errno P
      throwSysError err ("Failed to open \"" ++ filename ++ "\"")
    else
      setFd P this fd

def setNonblock (this : DeviceId) (enable : Bool) : Op σ Unit := do
  let D ← load this
  if ¬ D.isOpen then
    throwLogicError "File must be open before it's set to nonblock."
  else do
    let flags ← fcntlGetfl P D.ownedFd
    if flags.toInt < 0 then do
      let err ← errno P
      throwErrno err
    else do
      let flags := if enable then flags ||| oNonblock else flags &&& ~~~ oNonblock
      let e ← fcntlSetfl P D.ownedFd flags
      if e < 0 then do
        let err ← errno P
        throwErrno err
      else
        pure ()

def getNonblock (this : DeviceId) : Op σ Bool := do
  let D ← load this
  if ¬ D.isOpen then
    throwLogicError "File must be open before querying the nonblock state."
  else do
    let flags ← fcntlGetfl P D.ownedFd
    if flags.toInt < 0 then do
      let err ← errno P
      throwErrno err
    else
      pure (decide (flags &&& oNonblock ≠ 0))

/-! ## Constructors, moves and the destructor -/

/-- `Device(nullptr)` -/
def constructInvalid (this : DeviceId) : Op σ Unit :=
  construct this (pure ())

/-- `Device()` -/
def constructDefault (this : DeviceId) : Op σ Unit :=
  construct this (create P this)

/-- `Device(int)` -/
def constructFd (this : DeviceId) (fd : Fd) : Op σ Unit :=
  construct this (createFd P this fd)

/-- `Device(path, flags)` -/
def constructPath (this : DeviceId) (filename : String) (flags : BitVec 32) : Op σ Unit :=
  construct this (createPath P this filename flags)

/-- `Device(Device&& other)` -/
def moveConstruct (this other : DeviceId) : Op σ Unit :=
  construct this <| Prog.noexcept do
    let (raw, fd) ← release other
    acquire this raw fd

/-- `operator =(Device&& other)` -/
def moveAssign (this other : DeviceId) : Op σ Unit :=
  Prog.noexcept do
    let _ ← load this
    -- `if (this != &other)`
    if this ≠ other then do
      destroy P this
      let (raw, fd) ← release other
      acquire this raw fd
    else
      pure ()

/-- `~Device()` -/
def destruct (this : DeviceId) : Op σ Unit :=
  Prog.noexcept do
    destroy P this
    memory.deallocate this

end Device

end Evdevxx
