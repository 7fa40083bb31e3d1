import Evdevxx.Model.Device
import Evdevxx.Model.Names

/-!
# Identity — what a `Device` says about itself

The queries of libevdev about the identity of a device are functions of the platform's state, with
the types of libevdev; a name is never a null pointer, the physical location and the unique
identifier may be.
-/

namespace Evdevxx

/-- The queries about the identity. -/
structure Identity (σ : Type) where
  libevdevGetName : Handle → σ → Text
  libevdevGetPhys : Handle → σ → Option Text
  libevdevGetUniq : Handle → σ → Option Text
  libevdevGetIdProduct : Handle → σ → Int
  libevdevGetIdVendor : Handle → σ → Int
  libevdevGetIdBustype : Handle → σ → Int
  libevdevGetIdVersion : Handle → σ → Int
  libevdevGetDriverVersion : Handle → σ → Int

/-- A device whose only field is its name. -/
def Identity.named {σ : Type} (name : Text) : Identity σ where
  libevdevGetName := fun _ _ => name
  libevdevGetPhys := fun _ _ => none
  libevdevGetUniq := fun _ _ => none
  libevdevGetIdProduct := fun _ _ => 0
  libevdevGetIdVendor := fun _ _ => 0
  libevdevGetIdBustype := fun _ _ => 0
  libevdevGetIdVersion := fun _ _ => 0
  libevdevGetDriverVersion := fun _ _ => 0

namespace Device

variable {σ α : Type} (I : Identity σ) (this : DeviceId)

open Op

/-- A call of libevdev that reads something off the object behind `raw`. -/
def query (ask : Handle → σ → α) : Op σ α := do
  let D ← load this
  let raw ← deref D.raw
  Prog.gets fun w => ask raw w.env

/-- `get_name()` -/
def getName : Op σ Text :=
  query this I.libevdevGetName

/-- `get_phys()` -/
def getPhys : Op σ (Option Text) :=
  query this I.libevdevGetPhys

/-- `get_uniq()` -/
def getUniq : Op σ (Option Text) :=
  query this I.libevdevGetUniq

/-- `get_product()`; the `int` of libevdev is cut to 16 bits. -/
def getProduct : Op σ UInt16 :=
  Prog.noexcept (query this fun h s => UInt16.ofInt (I.libevdevGetIdProduct h s))

/-- `get_vendor()` -/
def getVendor : Op σ UInt16 :=
  Prog.noexcept (query this fun h s => UInt16.ofInt (I.libevdevGetIdVendor h s))

/-- `get_bustype()` -/
def getBustype : Op σ UInt16 :=
  Prog.noexcept (query this fun h s => UInt16.ofInt (I.libevdevGetIdBustype h s))

/-- `get_version()` -/
def getVersion : Op σ UInt16 :=
  Prog.noexcept (query this fun h s => UInt16.ofInt (I.libevdevGetIdVersion h s))

/-- `get_driver_version()` -/
def getDriverVersion : Op σ Int :=
  Prog.noexcept (query this I.libevdevGetDriverVersion)

end Device

end Evdevxx
