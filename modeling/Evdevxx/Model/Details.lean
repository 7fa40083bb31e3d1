import Evdevxx.Model.Capabilities
import Evdevxx.Model.Formats
import Evdevxx.Model.Identity
import Evdevxx.Model.Property

/-!
# Details — the properties and the axes of a `Device`

The queries of libevdev change nothing, like those about capabilities; the range of an axis comes
through a pointer that may be null.
-/

namespace Evdevxx

/-- The queries about properties and axes. -/
structure Details (σ : Type) where
  libevdevHasProperty : Handle → UInt32 → σ → Bool
  libevdevGetAbsInfo : Handle → UInt32 → σ → Option InputAbsinfo

/-- `INPUT_PROP_CNT` -/
def inputPropCnt : UInt32 :=
  inputPropMax + 1

namespace Device

variable {σ : Type} (A : Details σ) (this : DeviceId)

open Op

/-- `has(Property)` -/
def hasProperty (prop : Property) : Op σ Bool :=
  Prog.noexcept (query this fun h s => A.libevdevHasProperty h prop.value s)

/-- `if (Property prop{p}; has(prop)) result.push_back(prop);` -/
def pushProperty (p : UInt32) (result : List Property) : Op σ (List Property) := do
  let prop ← Prog.ofExcept ((Property.ofNumber p).mapError Exn.std)
  Prog.pushIf (hasProperty A this) prop result

/-- `get_properties()` -/
def getProperties (budget : Nat) : Op σ (List Property) :=
  Prog.forLoop (fun p => p < inputPropCnt) (· + 1) (pushProperty A this) budget 0 []

/-- `get_abs_info(code)` -/
def getAbsInfo (code : Code) : Op σ AbsInfo := do
  match ← query this fun h s => A.libevdevGetAbsInfo h code.value.toUInt32 s with
  | none => throwRuntimeError "libevdev_get_abs_info() failed."
  | some info => pure (AbsInfo.ofInput info)

end Device

end Evdevxx
