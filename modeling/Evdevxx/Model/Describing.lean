import Evdevxx.Model.Beside
import Evdevxx.Model.Details
import Evdevxx.Model.Facets
import Evdevxx.Model.Scripted

/-!
# Describing — the names, numbers and properties that a program gives a device

The functions of libevdev are not part of the repository; `Describing σ` is any functions with their
types, and `Describing.Documented` says what they do with the `Description` that libevdev keeps of each
object.

`DescriptionOp` is a call of one of the member functions, and `DescriptionOp.onDescription` what it is
for.
-/

namespace Evdevxx

/-- What libevdev reads from `text.data()`. -/
def cString (text : Text) : Text :=
  text.takeWhile (· ≠ '\x00')

/-- The calls about what a device says about itself. -/
structure Describing (σ : Type) where
  identity : Identity σ
  details : Details σ
  libevdevSetName : Handle → Text → σ → σ
  libevdevSetPhys : Handle → Text → σ → σ
  libevdevSetUniq : Handle → Text → σ → σ
  libevdevSetIdProduct : Handle → Int → σ → σ
  libevdevSetIdVendor : Handle → Int → σ → σ
  libevdevSetIdBustype : Handle → Int → σ → σ
  libevdevSetIdVersion : Handle → Int → σ → σ
  libevdevEnableProperty : Handle → UInt32 → σ → Int × σ
  libevdevDisableProperty : Handle → UInt32 → σ → Int × σ

/-- What libevdev keeps; an object that was not made for a file has neither `phys` nor `uniq`. -/
structure Description where
  name : Text := []
  phys : Option Text := none
  uniq : Option Text := none
  product : UInt16 := 0
  vendor : UInt16 := 0
  bustype : UInt16 := 0
  version : UInt16 := 0
  driverVersion : Int := 0
  properties : UInt32 → Bool := fun _ => false

/-- The documented behaviour: the numbers of a device have 16 bits, and a number that is no property can
be neither enabled nor disabled. -/
structure Describing.Documented {σ : Type} (B : Describing σ) (V : Views σ)
    (view : σ → Handle → Description) : Prop where
  getName : ∀ h s, B.identity.libevdevGetName h s = (view s h).name
  getPhys : ∀ h s, B.identity.libevdevGetPhys h s = (view s h).phys
  getUniq : ∀ h s, B.identity.libevdevGetUniq h s = (view s h).uniq
  getProduct : ∀ h s, B.identity.libevdevGetIdProduct h s = ((view s h).product.toNat : Int)
  getVendor : ∀ h s, B.identity.libevdevGetIdVendor h s = ((view s h).vendor.toNat : Int)
  getBustype : ∀ h s, B.identity.libevdevGetIdBustype h s = ((view s h).bustype.toNat : Int)
  getVersion : ∀ h s, B.identity.libevdevGetIdVersion h s = ((view s h).version.toNat : Int)
  getDriverVersion : ∀ h s, B.identity.libevdevGetDriverVersion h s = (view s h).driverVersion
  hasProperty : ∀ h p s, B.details.libevdevHasProperty h p s = (view s h).properties p
  setName : ∀ h t s, V.Writes view h { view s h with name := t } s (B.libevdevSetName h t s)
  setPhys : ∀ h t s, V.Writes view h { view s h with phys := some t } s (B.libevdevSetPhys h t s)
  setUniq : ∀ h t s, V.Writes view h { view s h with uniq := some t } s (B.libevdevSetUniq h t s)
  setProduct : ∀ h n s,
    V.Writes view h { view s h with product := UInt16.ofInt n } s (B.libevdevSetIdProduct h n s)
  setVendor : ∀ h n s,
    V.Writes view h { view s h with vendor := UInt16.ofInt n } s (B.libevdevSetIdVendor h n s)
  setBustype : ∀ h n s,
    V.Writes view h { view s h with bustype := UInt16.ofInt n } s (B.libevdevSetIdBustype h n s)
  setVersion : ∀ h n s,
    V.Writes view h { view s h with version := UInt16.ofInt n } s (B.libevdevSetIdVersion h n s)
  enable : ∀ h p s, p ≤ inputPropMax → (B.libevdevEnableProperty h p s).1 = 0 ∧
    V.Writes view h { view s h with properties := Function.update (view s h).properties p true } s
      (B.libevdevEnableProperty h p s).2
  notEnabled : ∀ h p s, ¬ p ≤ inputPropMax → (B.libevdevEnableProperty h p s).1 ≠ 0 ∧
    V.Writes view h (view s h) s (B.libevdevEnableProperty h p s).2
  disable : ∀ h p s, p ≤ inputPropMax → (B.libevdevDisableProperty h p s).1 = 0 ∧
    V.Writes view h { view s h with properties := Function.update (view s h).properties p false } s
      (B.libevdevDisableProperty h p s).2
  notDisabled : ∀ h p s, ¬ p ≤ inputPropMax → (B.libevdevDisableProperty h p s).1 ≠ 0 ∧
    V.Writes view h (view s h) s (B.libevdevDisableProperty h p s).2

/-! ## Device -/

namespace Device

variable {σ : Type}

/-- `set_name(name)` -/
def setName (libevdevSetName : Handle → Text → σ → σ) (this : DeviceId) (name : Text) : Op σ Unit :=
  Prog.noexcept (command this fun h => libevdevSetName h (cString name))

variable (B : Describing σ) (this : DeviceId)

/-- `set_phys(phys)` -/
def setPhys (phys : Text) : Op σ Unit :=
  Prog.noexcept (command this fun h => B.libevdevSetPhys h (cString phys))

/-- `set_uniq(uniq)` -/
def setUniq (uniq : Text) : Op σ Unit :=
  Prog.noexcept (command this fun h => B.libevdevSetUniq h (cString uniq))

/-- `set_product(pid)` -/
def setProduct (pid : UInt16) : Op σ Unit :=
  Prog.noexcept (command this fun h => B.libevdevSetIdProduct h pid.toNat)

/-- `set_vendor(vid)` -/
def setVendor (vid : UInt16) : Op σ Unit :=
  Prog.noexcept (command this fun h => B.libevdevSetIdVendor h vid.toNat)

/-- `set_bustype(bus)` -/
def setBustype (bus : UInt16) : Op σ Unit :=
  Prog.noexcept (command this fun h => B.libevdevSetIdBustype h bus.toNat)

/-- `set_version(ver)` -/
def setVersion (ver : UInt16) : Op σ Unit :=
  Prog.noexcept (command this fun h => B.libevdevSetIdVersion h ver.toNat)

/-- `enable(Property)` -/
def enableProperty (prop : Property) : Op σ Unit :=
  require this "libevdev_enable_property() failed." fun h => B.libevdevEnableProperty h prop.value

/-- `disable(Property)` -/
def disableProperty (prop : Property) : Op σ Unit :=
  require this "libevdev_disable_property() failed." fun h => B.libevdevDisableProperty h prop.value

end Device

/-! ## Calls and descriptions -/

/-- The texts that a device may be without. -/
inductive TextField where
  | phys
  | uniq
  deriving DecidableEq, Repr

/-- The numbers of 16 bits. -/
inductive NumberField where
  | product
  | vendor
  | bustype
  | version
  deriving DecidableEq, Repr

/-- A call of a member function of the device at `dev`. -/
inductive DescriptionOp where
  | getName (dev : DeviceId)
  | setName (dev : DeviceId) (name : Text)
  | getText (field : TextField) (dev : DeviceId)
  | setText (field : TextField) (dev : DeviceId) (text : Text)
  | getNumber (field : NumberField) (dev : DeviceId)
  | setNumber (field : NumberField) (dev : DeviceId) (n : UInt16)
  | getDriverVersion (dev : DeviceId)
  | has (dev : DeviceId) (prop : Property)
  | enable (dev : DeviceId) (prop : Property)
  | disable (dev : DeviceId) (prop : Property)
  deriving DecidableEq, Repr

/-- What a call returns. -/
inductive DescriptionAnswer where
  | text (t : Text)
  | optional (t : Option Text)
  | number (n : UInt16)
  | version (n : Int)
  | flag (b : Bool)
  | done
  deriving DecidableEq, Repr

namespace TextField

def read : TextField → Description → Option Text
  | phys => Description.phys
  | uniq => Description.uniq

def write (text : Text) : TextField → Description → Description
  | phys => fun r => { r with phys := some text }
  | uniq => fun r => { r with uniq := some text }

end TextField

namespace NumberField

def read : NumberField → Description → UInt16
  | product => Description.product
  | vendor => Description.vendor
  | bustype => Description.bustype
  | version => Description.version

def write (n : UInt16) : NumberField → Description → Description
  | product => fun r => { r with product := n }
  | vendor => fun r => { r with vendor := n }
  | bustype => fun r => { r with bustype := n }
  | version => fun r => { r with version := n }

end NumberField

namespace DescriptionOp

def dev : DescriptionOp → DeviceId
  | getName dev => dev
  | setName dev _ => dev
  | getText _ dev => dev
  | setText _ dev _ => dev
  | getNumber _ dev => dev
  | setNumber _ dev _ => dev
  | getDriverVersion dev => dev
  | has dev _ => dev
  | enable dev _ => dev
  | disable dev _ => dev

/-- The member function. -/
def exec {σ : Type} (B : Describing σ) : DescriptionOp → Op σ DescriptionAnswer
  | getName dev => do return .text (← Device.getName B.identity dev)
  | setName dev name => do Device.setName B.libevdevSetName dev name; return .done
  | getText .phys dev => do return .optional (← Device.getPhys B.identity dev)
  | getText .uniq dev => do return .optional (← Device.getUniq B.identity dev)
  | setText .phys dev text => do Device.setPhys B dev text; return .done
  | setText .uniq dev text => do Device.setUniq B dev text; return .done
  | getNumber .product dev => do return .number (← Device.getProduct B.identity dev)
  | getNumber .vendor dev => do return .number (← Device.getVendor B.identity dev)
  | getNumber .bustype dev => do return .number (← Device.getBustype B.identity dev)
  | getNumber .version dev => do return .number (← Device.getVersion B.identity dev)
  | setNumber .product dev n => do Device.setProduct B dev n; return .done
  | setNumber .vendor dev n => do Device.setVendor B dev n; return .done
  | setNumber .bustype dev n => do Device.setBustype B dev n; return .done
  | setNumber .version dev n => do Device.setVersion B dev n; return .done
  | getDriverVersion dev => do return .version (← Device.getDriverVersion B.identity dev)
  | has dev prop => do return .flag (← Device.hasProperty B.details dev prop)
  | enable dev prop => do Device.enableProperty B dev prop; return .done
  | disable dev prop => do Device.disableProperty B dev prop; return .done

/-- The result of a call on a description, and the description afterwards. -/
def onDescription (r : Description) : DescriptionOp → Except Exn DescriptionAnswer × Description
  | getName _ => (.ok (.text r.name), r)
  | setName _ name => (.ok .done, { r with name := cString name })
  | getText field _ => (.ok (.optional (field.read r)), r)
  | setText field _ text => (.ok .done, field.write (cString text) r)
  | getNumber field _ => (.ok (.number (field.read r)), r)
  | setNumber field _ n => (.ok .done, field.write n r)
  | getDriverVersion _ => (.ok (.version r.driverVersion), r)
  | has _ prop => (.ok (.flag (r.properties prop.value)), r)
  | enable _ prop =>
      if prop.value ≤ inputPropMax then
        (.ok .done, { r with properties := Function.update r.properties prop.value true })
      else
        (.error (.std (.runtimeError "libevdev_enable_property() failed.")), r)
  | disable _ prop =>
      if prop.value ≤ inputPropMax then
        (.ok .done, { r with properties := Function.update r.properties prop.value false })
      else
        (.error (.std (.runtimeError "libevdev_disable_property() failed.")), r)

end DescriptionOp

/-- The description as a facet. -/
def Describing.facet {σ : Type} (B : Describing σ) : Facet σ Description where
  Call := DescriptionOp
  Answer := DescriptionAnswer
  dev := DescriptionOp.dev
  exec := DescriptionOp.exec B
  on := DescriptionOp.onDescription

/-! ## Attributes -/

/-- What one call asks for, or sets. -/
inductive Attribute where
  | name
  | text (field : TextField)
  | number (field : NumberField)
  | driverVersion
  | property (prop : Property)
  deriving DecidableEq, Repr

def Attribute.read (r : Description) : Attribute → DescriptionAnswer
  | name => .text r.name
  | text field => .optional (field.read r)
  | number field => .number (field.read r)
  | driverVersion => .version r.driverVersion
  | property prop => .flag (r.properties prop.value)

namespace DescriptionOp

/-- The attribute that the call asks for. -/
def gets : DescriptionOp → Option Attribute
  | getName _ => some .name
  | getText field _ => some (.text field)
  | getNumber field _ => some (.number field)
  | getDriverVersion _ => some .driverVersion
  | has _ prop => some (.property prop)
  | _ => none

end DescriptionOp

/-! ## A platform with descriptions -/

namespace Labelled

/-- The descriptions of the objects. -/
abbrev Labels := Handle → Description

def platform : Platform (Script × Labels) :=
  Script.platform.beside Labels

def views : Views (Script × Labels) :=
  Script.views.beside Labels

def labels : Script × Labels → Handle → Description :=
  fun s => s.2

/-- Replace the description of an object. -/
def change (f : Description → Description) (h : Handle) (s : Script × Labels) : Script × Labels :=
  (s.1, Function.update s.2 h (f (s.2 h)))

/-- Write a property, if the number is one. -/
def changeProperty (b : Bool) (h : Handle) (p : UInt32) (s : Script × Labels) :
    Int × (Script × Labels) :=
  if p ≤ inputPropMax then
    (0, change (fun r => { r with properties := Function.update r.properties p b }) h s)
  else
    (-1, s)

def describing : Describing (Script × Labels) where
  identity :=
    { libevdevGetName := fun h s => (s.2 h).name
      libevdevGetPhys := fun h s => (s.2 h).phys
      libevdevGetUniq := fun h s => (s.2 h).uniq
      libevdevGetIdProduct := fun h s => (s.2 h).product.toNat
      libevdevGetIdVendor := fun h s => (s.2 h).vendor.toNat
      libevdevGetIdBustype := fun h s => (s.2 h).bustype.toNat
      libevdevGetIdVersion := fun h s => (s.2 h).version.toNat
      libevdevGetDriverVersion := fun h s => (s.2 h).driverVersion }
  details :=
    { libevdevHasProperty := fun h p s => (s.2 h).properties p
      libevdevGetAbsInfo := fun _ _ _ => none }
  libevdevSetName := fun h t => change (fun r => { r with name := t }) h
  libevdevSetPhys := fun h t => change (fun r => { r with phys := some t }) h
  libevdevSetUniq := fun h t => change (fun r => { r with uniq := some t }) h
  libevdevSetIdProduct := fun h n => change (fun r => { r with product := UInt16.ofInt n }) h
  libevdevSetIdVendor := fun h n => change (fun r => { r with vendor := UInt16.ofInt n }) h
  libevdevSetIdBustype := fun h n => change (fun r => { r with bustype := UInt16.ofInt n }) h
  libevdevSetIdVersion := fun h n => change (fun r => { r with version := UInt16.ofInt n }) h
  libevdevEnableProperty := changeProperty true
  libevdevDisableProperty := changeProperty false

end Labelled

end Evdevxx
