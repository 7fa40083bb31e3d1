import Evdevxx.Model.System

/-!
# Logging — the protected constructors of `Device` that install a log callback

The overloads of `create` that take a `LogLevel` call one another, so each of them takes a budget on
the depth of the call stack: a call uses up one unit, and `Prog.exhausted` is what happens when
there is none left.  The suffixes are those of the overloads without logging.

`logStep` is the step of a program whose classes derive from `Device`, and so may call them too.
-/

namespace Evdevxx

namespace Device

variable {σ : Type} (P : Platform σ)

open Op

mutual

/-- `create(LogLevel)` -/
def createLog (this : DeviceId) (priority : LogLevel) : Nat → Op σ Unit
  | 0 => Prog.exhausted
  -- `create(priority, -1)`: the overload that takes an `int`.
  | depth + 1 => createLogFd this priority (-1) depth

/-- `create(LogLevel, int)` -/
def createLogFd (this : DeviceId) (priority : LogLevel) (fd : Fd) : Nat → Op σ Unit
  | 0 => Prog.exhausted
  | depth + 1 => do
      -- `create(priority)`, before anything else.
      createLog this priority depth
      setFd P this fd
      let dev ← libevdevNew P
      match dev with
      | none => throwRuntimeError "Could not construct libevdev device."
      | some h => do
          if priority ≠ .none then libevdevSetDeviceLogFunction P h priority this else pure ()
          destroy P this
          acquire this dev fd

end

/-- `create(LogLevel, path, flags)` -/
def createLogPath (this : DeviceId) (priority : LogLevel) (filename : String)
    (flags : BitVec 32) : Nat → Op σ Unit
  | 0 => Prog.exhausted
  | depth + 1 =>
      Prog.catchRethrow
        (do
          createLog P this priority depth
          openPath P this filename flags)
        (destroy P this)

/-- `Device(LogLevel)` -/
def constructLog (this : DeviceId) (priority : LogLevel) (depth : Nat) : Op σ Unit :=
  construct this (createLog P this priority depth)

/-- `Device(LogLevel, int)` -/
def constructLogFd (this : DeviceId) (priority : LogLevel) (fd : Fd) (depth : Nat) :
    Op σ Unit :=
  construct this (createLogFd P this priority fd depth)

/-- `Device(LogLevel, path, flags)` -/
def constructLogPath (this : DeviceId) (priority : LogLevel) (filename : String)
    (flags : BitVec 32) (depth : Nat) : Op σ Unit :=
  construct this (createLogPath P this priority filename flags depth)

end Device

/-- An action of a program whose classes derive from `Device`. -/
inductive LogAct where
  | plain (a : Act)
  | createLog (this : DeviceId) (priority : LogLevel)
  | createLogFd (this : DeviceId) (priority : LogLevel) (fd : Fd)
  | createLogPath (this : DeviceId) (priority : LogLevel) (filename : String) (flags : BitVec 32)
  | constructLog (this : DeviceId) (priority : LogLevel)
  | constructLogFd (this : DeviceId) (priority : LogLevel) (fd : Fd)
  | constructLogPath (this : DeviceId) (priority : LogLevel) (filename : String) (flags : BitVec 32)
  deriving DecidableEq, Repr

variable {σ : Type} (P : Platform σ)

def LogAct.exec (depth : Nat) : LogAct → Op σ Unit
  | .plain a => a.exec P
  | .createLog this priority => Device.createLog P this priority depth
  | .createLogFd this priority fd => Device.createLogFd P this priority fd depth
  | .createLogPath this priority filename flags =>
      Device.createLogPath P this priority filename flags depth
  | .constructLog this priority => Device.constructLog P this priority depth
  | .constructLogFd this priority fd => Device.constructLogFd P this priority fd depth
  | .constructLogPath this priority filename flags =>
      Device.constructLogPath P this priority filename flags depth

end Evdevxx
