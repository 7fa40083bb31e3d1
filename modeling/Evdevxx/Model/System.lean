import Evdevxx.Logic.Run
import Evdevxx.Model.Uinput
import Evdevxx.Model.Grabber

/-!
# System — programs that use the three classes

An action is one call of a public member function (for `Device` the non-logging ones that manage
the handle and the descriptor).  `step` relates the worlds before and after an action that returns
or throws; there is no step where the action is undefined or the program terminates.
-/

namespace Evdevxx

inductive DeviceAct where
  | constructInvalid (this : DeviceId)
  | constructDefault (this : DeviceId)
  | constructFd (this : DeviceId) (fd : Fd)
  | constructPath (this : DeviceId) (filename : String) (flags : BitVec 32)
  | moveConstruct (this other : DeviceId)
  | moveAssign (this other : DeviceId)
  | create (this : DeviceId)
  | createFd (this : DeviceId) (fd : Fd)
  | createPath (this : DeviceId) (filename : String) (flags : BitVec 32)
  | openPath (this : DeviceId) (filename : String) (flags : BitVec 32)
  | setFd (this : DeviceId) (fd : Fd)
  | changeFd (this : DeviceId) (fd : Fd)
  | destroy (this : DeviceId)
  | destruct (this : DeviceId)
  deriving DecidableEq, Repr

inductive UinputAct where
  | constructInvalid (this : UinputId)
  | constructFrom (this : UinputId) (dev : DeviceId) (fd : Fd)
  | moveConstruct (this other : UinputId)
  | moveAssign (this other : UinputId)
  | create (this : UinputId) (dev : DeviceId) (fd : Fd)
  | destroy (this : UinputId)
  | destruct (this : UinputId)
  deriving DecidableEq, Repr

inductive GrabberAct where
  | constructEmpty (this : GrabberId)
  | constructFrom (this : GrabberId) (dev : DeviceId)
  | moveConstruct (this other : GrabberId)
  | moveAssign (this other : GrabberId)
  | ungrab (this : GrabberId)
  | destruct (this : GrabberId)
  deriving DecidableEq, Repr

inductive Act where
  | device (a : DeviceAct)
  | uinput (a : UinputAct)
  | grabber (a : GrabberAct)
  deriving DecidableEq, Repr

variable {σ : Type} (P : Platform σ)

def DeviceAct.exec : DeviceAct → Op σ Unit
  | .constructInvalid this => Device.constructInvalid this
  | .constructDefault this => Device.constructDefault P this
  | .constructFd this fd => Device.constructFd P this fd
  | .constructPath this filename flags => Device.constructPath P this filename flags
  | .moveConstruct this other => Device.moveConstruct this other
  | .moveAssign this other => Device.moveAssign P this other
  | .create this => Device.create P this
  | .createFd this fd => Device.createFd P this fd
  | .createPath this filename flags => Device.createPath P this filename flags
  | .openPath this filename flags => Device.openPath P this filename flags
  | .setFd this fd => Device.setFd P this fd
  | .changeFd this fd => Device.changeFd P this fd
  | .destroy this => Device.destroy P this
  | .destruct this => Device.destruct P this

def UinputAct.exec : UinputAct → Op σ Unit
  | .constructInvalid this => Uinput.constructInvalid this
  | .constructFrom this dev fd => Uinput.constructFrom P this dev fd
  | .moveConstruct this other => Uinput.moveConstruct this other
  | .moveAssign this other => Uinput.moveAssign P this other
  | .create this dev fd => Uinput.create P this dev fd
  | .destroy this => Uinput.destroy P this
  | .destruct this => Uinput.destruct P this

def GrabberAct.exec : GrabberAct → Op σ Unit
  | .constructEmpty this => Grabber.constructEmpty this
  | .constructFrom this dev => Grabber.constructFrom P this dev
  | .moveConstruct this other => Grabber.moveConstruct this other
  | .moveAssign this other => Grabber.moveAssign P this other
  | .ungrab this => Grabber.ungrab P this
  | .destruct this => Grabber.destruct P this

def Act.exec : Act → Op σ Unit
  | .device a => a.exec P
  | .uinput a => a.exec P
  | .grabber a => a.exec P

/-- One action of a program. -/
def step (w : World σ) (a : Act) (w' : World σ) : Prop :=
  (a.exec P w).after = some w'

/-- One action of a program that uses `Device` only. -/
def deviceStep (w : World σ) (a : DeviceAct) (w' : World σ) : Prop :=
  (a.exec P w).after = some w'

end Evdevxx
