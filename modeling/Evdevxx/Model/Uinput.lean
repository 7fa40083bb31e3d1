import Evdevxx.Model.Device

/-!
# Uinput — the member functions of `evdev::Uinput` that manage its handle

`Uinput` has no move operations of its own: its moves are `basic_wrapper`'s, which call the
virtual `destroy()` of `Uinput` and its own `acquire` and `release`.
-/

namespace Evdevxx

namespace Uinput

variable {σ : Type} (P : Platform σ)

open Op

def memory : Memory (World σ) UinputId Uinput :=
  { get := World.uinputs
    set := World.setUinput }

def load (this : UinputId) : Op σ Uinput :=
  memory.load this

def store (this : UinputId) (U : Uinput) : Op σ Unit :=
  memory.store this U

def construct (this : UinputId) (body : Op σ Unit) : Op σ Unit :=
  memory.construct this {} body

/-! ## Handle -/

/-- `basic_wrapper::acquire` -/
def acquire (this : UinputId) (newState : Option UinputHandle) : Op σ Unit :=
  Prog.noexcept do
    let U ← load this
    store this { toBasicWrapper := U.toBasicWrapper.acquire newState }

/-- `basic_wrapper::release` -/
def release (this : UinputId) : Op σ (Option UinputHandle) :=
  Prog.noexcept do
    let U ← load this
    let (oldRaw, base) := U.toBasicWrapper.release
    store this { toBasicWrapper := base }
    pure oldRaw

/-- `if (old_raw) libevdev_uinput_destroy(old_raw);` -/
def destroyIfSet (oldRaw : Option UinputHandle) : Op σ Unit :=
  match oldRaw with
  | some u => libevdevUinputDestroy P u
  | none => pure ()

def destroy (this : UinputId) : Op σ Unit :=
  Prog.noexcept do
    let oldRaw ← release this
    destroyIfSet P oldRaw

def create (this : UinputId) (dev : DeviceId) (fd : Fd) : Op σ Unit := do
  let _ ← load this
  let D ← Device.load dev
  -- `dev.data()`, which libevdev dereferences
  let raw ← deref D.raw
  let (e, udev) ← libevdevUinputCreateFromDevice P raw fd
  -- `destroy` comes after the call, so a failure leaves the old handle in place.
  if e < 0 then
    throwSysError (-e) "from libevdev_uinput_create_from_device()"
  else do
    destroy P this
    acquire this udev

/-! ## Constructors, moves and the destructor -/

/-- `Uinput(nullptr)` -/
def constructInvalid (this : UinputId) : Op σ Unit :=
  construct this (pure ())

/-- `Uinput(dev, fd)` -/
def constructFrom (this : UinputId) (dev : DeviceId) (fd : Fd) : Op σ Unit :=
  construct this (create P this dev fd)

/-- `Uinput(Uinput&& other)` -/
def moveConstruct (this other : UinputId) : Op σ Unit :=
  construct this <| Prog.noexcept do
    let raw ← release other
    acquire this raw

/-- `operator =(Uinput&& other)` -/
def moveAssign (this other : UinputId) : Op σ Unit :=
  Prog.noexcept do
    let _ ← load this
    if this ≠ other then do
      destroy P this
      let raw ← release other
      acquire this raw
    else
      pure ()

/-- `~Uinput()` -/
def destruct (this : UinputId) : Op σ Unit :=
  Prog.noexcept do
    destroy P this
    memory.deallocate this

end Uinput

end Evdevxx
