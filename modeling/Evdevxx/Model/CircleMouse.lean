import Evdevxx.Logic.Scope
import Evdevxx.Model.Beside
import Evdevxx.Model.Describing
import Evdevxx.Model.Injection
import Evdevxx.Model.Scripted

/-!
# CircleMouse — `main` of the example that moves a virtual mouse

The program as it is written, statement by statement, on the world, the events written so far and the
text on `cout`.  The coordinates are computed in floating point; `point i` stands for the two of the
`i`-th step.  There is no handler: an exception leaves `main`, and with it the blocks of the two objects,
whose destructors run.  That is what happens where the stack is unwound for an exception that nobody
catches; C++ leaves it open, and nothing is stated about the objects then.
-/

namespace Evdevxx

/-- `LIBEVDEV_UINPUT_OPEN_MANAGED` -/
def uinputOpenManaged : Fd := -2

/-- `REL_X` -/
def relX : Code := Code.ofNumber 0
/-- `REL_Y` -/
def relY : Code := Code.ofNumber 1
/-- `BTN_LEFT` -/
def btnLeft : Code := Code.ofNumber 0x110

/-- What the program asks libevdev and the system. -/
structure Drawing (σ : Type) where
  injection : Injection σ
  enabling : Enabling σ
  names : NameTables
  libevdevSetName : Handle → Text → σ → σ
  sleepFor : σ → σ

namespace CircleMouse

/-- `out << path`: quoted, with a backslash in front of quotes and backslashes. -/
def quoted (path : Text) : Text :=
  ['"'] ++ path.flatMap (fun c => if c = '"' ∨ c = '\\' then ['\\', c] else [c]) ++ ['"']

/-- A part of the program. -/
abbrev Action (σ α : Type) := Prog Exn ((World σ × List Emission) × Text) α

section

variable {σ : Type} (P : Platform σ) (G : Drawing σ) (point : Nat → Int32 × Int32)
variable (dev : DeviceId) (udev : UinputId)

/-- `cout << t;` -/
def out (t : Text) : Action σ Unit :=
  Prog.modify fun s => (s.1, s.2 ++ t)

/-- The body of the loop. -/
def drawPoint (i : Nat) : Emitter σ Unit := do
  Uinput.writeRel G.injection udev relX (point i).1
  Uinput.writeRel G.injection udev relY (point i).2
  Uinput.flush G.injection udev
  -- `std::this_thread::sleep_for(16ms);`
  Prog.onFst (Prog.modify fun w => w.withEnv (G.sleepFor w.env))

/-- What is done with the device before the `Uinput` is made from it. -/
def setUp : Op σ Unit := do
  Device.setName G.libevdevSetName dev "Fake Mouse".toList
  Device.enableRel G.enabling G.names dev relX
  Device.enableRel G.enabling G.names dev relY
  Device.enableKey G.enabling G.names dev btnLeft

/-- What is done with the `Uinput`. -/
def draw : Action σ Int := do
  out "Created uinput device at ".toList
  let path ← Prog.onFst (Prog.onFst (Uinput.getDevnode G.injection udev))
  out (quoted path ++ ['\n'])
  out "Doing a circle... ".toList
  Prog.onFst (Prog.forEach (drawPoint G point udev) (List.range 100))
  out "done.\n".toList
  pure 0

/-- The block of `udev`, which lives on the stack, at the address `udev`. -/
def session : Action σ Int :=
  Prog.withObject (Prog.onFst (Prog.onFst (Uinput.constructFrom P udev dev uinputOpenManaged)))
    (Prog.onFst (Prog.onFst (Uinput.destruct P udev))) (draw G point udev)

/-- `main()`; the device lives on the stack, at the address `dev`. -/
def main : Action σ Int :=
  Prog.withObject (Prog.onFst (Prog.onFst (Device.constructDefault P dev)))
    (Prog.onFst (Prog.onFst (Device.destruct P dev))) do
      Prog.onFst (Prog.onFst (setUp G dev))
      session P G point dev udev

end

/-! ## A mouse that is unplugged -/

/-- A script, the codes that are enabled, and how many events will be written. -/
abbrev Plugged := (Script × EnabledBits.Bits) × Nat

def platform : Platform Plugged :=
  (Script.platform.beside EnabledBits.Bits).beside Nat

def views : Views Plugged :=
  (Script.views.beside EnabledBits.Bits).beside Nat

def capabilities : Capabilities Plugged where
  libevdevHasEventType := fun h t s => EnabledBits.capabilities.libevdevHasEventType h t s.1.2
  libevdevHasEventCode := fun h t c s => EnabledBits.capabilities.libevdevHasEventCode h t c s.1.2

def mouse : Drawing Plugged where
  injection := Injection.limited (Script × EnabledBits.Bits)
  enabling :=
    { libevdevEnableEventCode := fun h t c data s =>
        let r := EnabledBits.enabling.libevdevEnableEventCode h t c data s.1.2
        (r.1, ((s.1.1, r.2), s.2)) }
  names := EnabledBits.tables
  libevdevSetName := fun _ _ s => s
  sleepFor := fun s => s

/-- One address for a device and one for a `Uinput`, and four events before the mouse is unplugged.
Irreducible, since elaboration would run the program on it. -/
@[irreducible] def plugged : World Plugged :=
  World.init (({ handles := [0], uhandles := [7] }, [], []), 4)

end CircleMouse

end Evdevxx
