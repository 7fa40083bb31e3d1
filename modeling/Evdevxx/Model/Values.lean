import Evdevxx.Model.System

/-!
# Values — devices as values

What the classes are for, without handles: a `Device` is a value that contains its `libevdev` object
and says which descriptor it will close.  A move takes the whole value along, an assignment replaces
it, a destructor ends it, and no two devices have a `libevdev` object in common; two may name the same
descriptor.  A `Grabber` names a device and sets its grab flag; a `Uinput` changes no device.

`Act.Transforms` says what an action makes of the values when it returns, and what when it throws:
then nothing has changed, unless `open` is left with a descriptor that `libevdev_set_fd` has refused.
-/

namespace Evdevxx

/-- A `Device` as a value. -/
structure DeviceValue where
  /-- its `libevdev` object, if it is valid -/
  evdev : Option EvdevView := none
  /-- the descriptor it will close, `-1` if there is none -/
  ownedFd : Fd := -1
  deriving DecidableEq, Repr

namespace DeviceValue

/-- A new `libevdev` object, without a descriptor. -/
def new : DeviceValue :=
  { evdev := some .fresh }

/-- A new `libevdev` object on a descriptor. -/
def reading (fd : Fd) : DeviceValue :=
  { evdev := some { EvdevView.fresh with fd := fd, initialized := true }, ownedFd := fd }

end DeviceValue

/-- The values of the objects that live. -/
structure Values where
  devices : DeviceId → Option DeviceValue
  grabbers : GrabberId → Option Grabber

namespace Values

/-- No object lives. -/
def init : Values where
  devices := fun _ => none
  grabbers := fun _ => none

def setDevice (s : Values) (d : DeviceId) (D : Option DeviceValue) : Values :=
  { s with devices := Function.update s.devices d D }

def setGrabber (s : Values) (g : GrabberId) (G : Option Grabber) : Values :=
  { s with grabbers := Function.update s.grabbers g G }

/-- Write the `libevdev` object of a device, and the descriptor it owns. -/
def write (s : Values) (d : DeviceId) (e : EvdevView) (fd : Fd) : Values :=
  s.setDevice d (some { evdev := some e, ownedFd := fd })

/-- The value of a valid device. -/
def Valid (s : Values) (d : DeviceId) (e : EvdevView) (fd : Fd) : Prop :=
  s.devices d = some { evdev := some e, ownedFd := fd }

/-- It has returned, and has done what `done` says; or it has thrown, and nothing has changed. -/
def Ends (s : Values) (done : Prop) (s' : Values) : Option Exn → Prop
  | none => done
  | some _ => s' = s

/-- It has returned, and the object has one of these values; or it has thrown. -/
def Tries (s : Values) (d : DeviceId) (makes : DeviceValue → Prop) (s' : Values) :
    Option Exn → Prop :=
  s.Ends (∃ D, makes D ∧ s' = s.setDevice d (some D)) s'

/-- How `open` can end. -/
inductive Opens (s : Values) (d : DeviceId) (filename : String) (s' : Values) :
    Option Exn → Prop where
  /-- The device owns the descriptor, and reads from it. -/
  | opened {e : EvdevView} {fd : Fd} : s.Valid d e (-1) → e.initialized = false → 0 ≤ fd →
      s' = s.write d { e with fd := fd, initialized := true } fd → Opens s d filename s' none
  | alreadyOpen {D : DeviceValue} : s.devices d = some D → D.ownedFd ≠ -1 → s' = s →
      Opens s d filename s' (some (.std (.logicError "File is already open.")))
  | refused {D : DeviceValue} {errno : Int} : s.devices d = some D → D.ownedFd = -1 → s' = s →
      Opens s d filename s'
        (some (.std (.systemError errno (some ("Failed to open \"" ++ filename ++ "\"")))))
  /-- `libevdev_set_fd` has failed, and the device owns the descriptor all the same. -/
  | notInstalled {e : EvdevView} {fd : Fd} {ret : Int} : s.Valid d e (-1) → 0 ≤ fd → ret < 0 →
      s' = s.write d e fd → Opens s d filename s'
        (some (.std (.systemError (-ret) (some "libevdev_set_fd()."))))

/-- What `ungrab` does when it returns. -/
inductive LetsGo (s : Values) (g : GrabberId) : Values → Prop where
  | empty : s.grabbers g = some {} → LetsGo s g s
  | held {d : DeviceId} {e : EvdevView} {fd : Fd} :
      s.grabbers g = some { dev := some d } → s.Valid d e fd →
      LetsGo s g ((s.write d { e with grabbed := false } fd).setGrabber g (some {}))

end Values

/-- What an action on a device makes of the values, if it ends by `r`. -/
def DeviceAct.Transforms (s : Values) (r : Option Exn) (s' : Values) : DeviceAct → Prop
  | .constructInvalid this =>
      r = none ∧ s.devices this = none ∧ s' = s.setDevice this (some {})
  | .constructDefault this => s.devices this = none ∧ s.Tries this (· = .new) s' r
  | .constructFd this fd => s.devices this = none ∧ s.Tries this (· = .reading fd) s' r
  | .constructPath this _ _ =>
      s.devices this = none ∧ s.Tries this (fun D => ∃ fd, 1 ≤ fd ∧ D = .reading fd) s' r
  | .moveConstruct this other => r = none ∧ s.devices this = none ∧
      (this = other ∧ s' = s.setDevice this (some {}) ∨
        ∃ E, s.devices other = some E ∧ s' = (s.setDevice other (some {})).setDevice this (some E))
  | .moveAssign this other => r = none ∧ s.devices this ≠ none ∧
      (this = other ∧ s' = s ∨ this ≠ other ∧
        ∃ E, s.devices other = some E ∧ s' = (s.setDevice other (some {})).setDevice this (some E))
  | .create this => s.devices this ≠ none ∧ s.Tries this (· = .new) s' r
  | .createFd this fd => s.devices this ≠ none ∧ s.Tries this (· = .reading fd) s' r
  | .createPath this _ _ =>
      s.devices this ≠ none ∧ s.Tries this (fun D => ∃ fd, 1 ≤ fd ∧ D = .reading fd) s' r
  | .openPath this filename _ => s.Opens this filename s' r
  | .setFd this fd => ∃ e own, s.Valid this e own ∧ s.Ends
      (e.initialized = false ∧ s' = s.write this { e with fd := fd, initialized := true } own) s' r
  | .changeFd this fd => ∃ e own, s.Valid this e own ∧ s.Ends
      (e.initialized = true ∧ ∃ g, (g = true → e.grabbed = true) ∧
        s' = s.write this { e with fd := fd, grabbed := g } own) s' r
  | .destroy this => r = none ∧ s.devices this ≠ none ∧ s' = s.setDevice this (some {})
  | .destruct this => r = none ∧ s.devices this ≠ none ∧ s' = s.setDevice this none

/-- What an action on a grabber makes of the values, if it ends by `r`. -/
def GrabberAct.Transforms (s : Values) (r : Option Exn) (s' : Values) : GrabberAct → Prop
  | .constructEmpty this =>
      r = none ∧ s.grabbers this = none ∧ s' = s.setGrabber this (some {})
  | .constructFrom this dev => s.grabbers this = none ∧ ∃ e fd, s.Valid dev e fd ∧ s.Ends
      (s' = (s.write dev { e with grabbed := true } fd).setGrabber this (some { dev := some dev }))
      s' r
  | .moveConstruct this other => r = none ∧ s.grabbers this = none ∧
      (this = other ∧ s' = s.setGrabber this (some {}) ∨
        ∃ E, s.grabbers other = some E ∧ s' = (s.setGrabber other (some {})).setGrabber this (some E))
  | .moveAssign this other => this = other ∧ r = none ∧ s' = s ∨ this ≠ other ∧ s.Ends
      (∃ s₁ E, s.LetsGo this s₁ ∧ s.grabbers other = some E ∧
        s' = (s₁.setGrabber other (some {})).setGrabber this (some E)) s' r
  | .ungrab this => s.Ends (s.LetsGo this s') s' r
  | .destruct this => r = none ∧ ∃ s₁, s.LetsGo this s₁ ∧ s' = s₁.setGrabber this none

/-- What an action makes of the values: the label is the action, with the exception that it ends with,
if it does. -/
def Act.Transforms (s : Values) (l : Act × Option Exn) (s' : Values) : Prop :=
  match l.1 with
  | .device a => a.Transforms s l.2 s'
  | .uinput _ => s' = s
  | .grabber a => a.Transforms s l.2 s'

end Evdevxx
