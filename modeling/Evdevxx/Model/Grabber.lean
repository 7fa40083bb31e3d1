import Evdevxx.Model.Device

/-!
# Grabber — the member functions of `evdev::Grabber`

A `Grabber` remembers the address of a `Device`, not its handle.  `ungrab` and the move assignment
may throw; the destructor is implicitly `noexcept`.
-/

namespace Evdevxx

namespace Grabber

variable {σ : Type} (P : Platform σ)

def memory : Memory (World σ) GrabberId Grabber :=
  { get := World.grabbers
    set := World.setGrabber }

def load (this : GrabberId) : Op σ Grabber :=
  memory.load this

def store (this : GrabberId) (G : Grabber) : Op σ Unit :=
  memory.store this G

def construct (this : GrabberId) (body : Op σ Unit) : Op σ Unit :=
  memory.construct this {} body

def ungrab (this : GrabberId) : Op σ Unit := do
  let G ← load this
  match G.dev with
  | some d => do
      -- If this throws, the device is still held.
      Device.ungrab P d
      store this { dev := none }
  | none => pure ()

/-- `Grabber()` -/
def constructEmpty (this : GrabberId) : Op σ Unit :=
  construct this (pure ())

/-- `Grabber(Device& d)` -/
def constructFrom (this : GrabberId) (d : DeviceId) : Op σ Unit :=
  construct this do
    -- `dev` is initialised before the body, and the object dies with it if `grab` throws.
    store this { dev := some d }
    Device.grab P d

/-- `Grabber(Grabber&& other)` -/
def moveConstruct (this other : GrabberId) : Op σ Unit :=
  construct this <| Prog.noexcept do
    let G ← load other
    store this { dev := G.dev }
    store other { dev := none }

/-- `operator =(Grabber&& other)` -/
def moveAssign (this other : GrabberId) : Op σ Unit := do
  let _ ← load this
  if this ≠ other then do
    ungrab P this
    let G ← load other
    store this { dev := G.dev }
    store other { dev := none }
  else
    pure ()

/-- `~Grabber()`, which is implicitly `noexcept`. -/
def destruct (this : GrabberId) : Op σ Unit :=
  Prog.noexcept do
    ungrab P this
    memory.deallocate this

end Grabber

end Evdevxx
