import Evdevxx.Logic.Tables
import Evdevxx.Model.Beside
import Evdevxx.Model.Details
import Evdevxx.Model.Enabling
import Evdevxx.Model.Facets
import Evdevxx.Model.Scripted

/-!
# Axes — the member functions about absolute axes

The functions of libevdev are not part of the repository; `Axes σ` is any functions with their types,
and `Axes.Documented` says what they do with what libevdev keeps of each object: a table of its axes,
which is off while the object does not have the type `EV_ABS`.

`AxisOp` is a call of one of the member functions.  `AxisOp.onTable` is what such a call is for: the
device has a table, from which the call answers, or which it changes.
-/

namespace Evdevxx

/-- The calls about axes. -/
structure Axes (σ : Type) where
  details : Details σ
  enabling : Enabling σ
  libevdevGetAbsMinimum : Handle → UInt32 → σ → Int32
  libevdevGetAbsMaximum : Handle → UInt32 → σ → Int32
  libevdevGetAbsFuzz : Handle → UInt32 → σ → Int32
  libevdevGetAbsFlat : Handle → UInt32 → σ → Int32
  libevdevGetAbsResolution : Handle → UInt32 → σ → Int32
  libevdevSetAbsMinimum : Handle → UInt32 → Int32 → σ → σ
  libevdevSetAbsMaximum : Handle → UInt32 → Int32 → σ → σ
  libevdevSetAbsFuzz : Handle → UInt32 → Int32 → σ → σ
  libevdevSetAbsFlat : Handle → UInt32 → Int32 → σ → σ
  libevdevSetAbsResolution : Handle → UInt32 → Int32 → σ → σ
  libevdevSetAbsInfo : Handle → UInt32 → InputAbsinfo → σ → σ
  libevdevEnableEventType : Handle → UInt32 → σ → Int × σ
  libevdevDisableEventType : Handle → UInt32 → σ → Int × σ
  libevdevDisableEventCode : Handle → UInt32 → UInt32 → σ → Int × σ

/-- The tables of the axes that libevdev keeps. -/
abbrev AxisView (σ : Type) := σ → Handle → Table UInt32 InputAbsinfo

/-- The documented behaviour: an axis that the object does not have reads as 0, and writing to it has
no effect.  A code above the largest one can be neither enabled nor disabled; the type is enabled
before the code is looked at. -/
structure Axes.Documented {σ : Type} (A : Axes σ) (T : NameTables) (V : Views σ) (view : AxisView σ) :
    Prop where
  getInfo : ∀ h c s, A.details.libevdevGetAbsInfo h c s = (view s h).get c
  getMinimum : ∀ h c s, A.libevdevGetAbsMinimum h c s = (((view s h).get c).map (·.minimum)).getD 0
  getMaximum : ∀ h c s, A.libevdevGetAbsMaximum h c s = (((view s h).get c).map (·.maximum)).getD 0
  getFuzz : ∀ h c s, A.libevdevGetAbsFuzz h c s = (((view s h).get c).map (·.fuzz)).getD 0
  getFlat : ∀ h c s, A.libevdevGetAbsFlat h c s = (((view s h).get c).map (·.flat)).getD 0
  getResolution : ∀ h c s,
    A.libevdevGetAbsResolution h c s = (((view s h).get c).map (·.resolution)).getD 0
  setMinimum : ∀ h c v s, V.Writes view h ((view s h).modify (fun a => { a with minimum := v }) c) s
    (A.libevdevSetAbsMinimum h c v s)
  setMaximum : ∀ h c v s, V.Writes view h ((view s h).modify (fun a => { a with maximum := v }) c) s
    (A.libevdevSetAbsMaximum h c v s)
  setFuzz : ∀ h c v s, V.Writes view h ((view s h).modify (fun a => { a with fuzz := v }) c) s
    (A.libevdevSetAbsFuzz h c v s)
  setFlat : ∀ h c v s, V.Writes view h ((view s h).modify (fun a => { a with flat := v }) c) s
    (A.libevdevSetAbsFlat h c v s)
  setResolution : ∀ h c v s,
    V.Writes view h ((view s h).modify (fun a => { a with resolution := v }) c) s
      (A.libevdevSetAbsResolution h c v s)
  setInfo : ∀ h c info s, V.Writes view h ((view s h).modify (fun _ => info) c) s
    (A.libevdevSetAbsInfo h c info s)
  enableType : ∀ h s, (A.libevdevEnableEventType h 3 s).1 = 0 ∧
    V.Writes view h ((view s h).switch true) s (A.libevdevEnableEventType h 3 s).2
  disableType : ∀ h s, (A.libevdevDisableEventType h 3 s).1 = 0 ∧
    V.Writes view h ((view s h).switch false) s (A.libevdevDisableEventType h 3 s).2
  enable : ∀ h (c : UInt32) info s, (c.toNat : Int) ≤ T.eventTypeGetMax 3 →
    (A.enabling.libevdevEnableEventCode h 3 c (some (.absinfo info)) s).1 = 0 ∧
      V.Writes view h ((view s h).insert c info) s
        (A.enabling.libevdevEnableEventCode h 3 c (some (.absinfo info)) s).2
  notEnabled : ∀ h (c : UInt32) info s, ¬ (c.toNat : Int) ≤ T.eventTypeGetMax 3 →
    (A.enabling.libevdevEnableEventCode h 3 c (some (.absinfo info)) s).1 ≠ 0 ∧
      V.Writes view h ((view s h).switch true) s
        (A.enabling.libevdevEnableEventCode h 3 c (some (.absinfo info)) s).2
  disable : ∀ h (c : UInt32) s, (c.toNat : Int) ≤ T.eventTypeGetMax 3 →
    (A.libevdevDisableEventCode h 3 c s).1 = 0 ∧
      V.Writes view h ((view s h).put c none) s (A.libevdevDisableEventCode h 3 c s).2
  notDisabled : ∀ h (c : UInt32) s, ¬ (c.toNat : Int) ≤ T.eventTypeGetMax 3 →
    (A.libevdevDisableEventCode h 3 c s).1 ≠ 0 ∧
      V.Writes view h (view s h) s (A.libevdevDisableEventCode h 3 c s).2

/-! ## Device -/

namespace Device

variable {σ : Type} (A : Axes σ) (this : DeviceId) (code : Code)

open Op

/-- `get_abs_min(code)` -/
def getAbsMin : Op σ Int32 :=
  Prog.noexcept (query this fun h => A.libevdevGetAbsMinimum h code.value.toUInt32)

/-- `get_abs_max(code)` -/
def getAbsMax : Op σ Int32 :=
  Prog.noexcept (query this fun h => A.libevdevGetAbsMaximum h code.value.toUInt32)

/-- `get_abs_fuzz(code)` -/
def getAbsFuzz : Op σ Int32 :=
  Prog.noexcept (query this fun h => A.libevdevGetAbsFuzz h code.value.toUInt32)

/-- `get_abs_flat(code)` -/
def getAbsFlat : Op σ Int32 :=
  Prog.noexcept (query this fun h => A.libevdevGetAbsFlat h code.value.toUInt32)

/-- `get_abs_res(code)` -/
def getAbsRes : Op σ Int32 :=
  Prog.noexcept (query this fun h => A.libevdevGetAbsResolution h code.value.toUInt32)

/-- `set_abs_min(code, val)` -/
def setAbsMin (val : Int32) : Op σ Unit :=
  Prog.noexcept (command this fun h => A.libevdevSetAbsMinimum h code.value.toUInt32 val)

/-- `set_abs_max(code, val)` -/
def setAbsMax (val : Int32) : Op σ Unit :=
  Prog.noexcept (command this fun h => A.libevdevSetAbsMaximum h code.value.toUInt32 val)

/-- `set_abs_fuzz(code, val)` -/
def setAbsFuzz (val : Int32) : Op σ Unit :=
  Prog.noexcept (command this fun h => A.libevdevSetAbsFuzz h code.value.toUInt32 val)

/-- `set_abs_flat(code, val)` -/
def setAbsFlat (val : Int32) : Op σ Unit :=
  Prog.noexcept (command this fun h => A.libevdevSetAbsFlat h code.value.toUInt32 val)

/-- `set_abs_res(code, val)` -/
def setAbsRes (val : Int32) : Op σ Unit :=
  Prog.noexcept (command this fun h => A.libevdevSetAbsResolution h code.value.toUInt32 val)

/-- `set_abs_info(code, info)` -/
def setAbsInfo (info : AbsInfo) : Op σ Unit :=
  Prog.noexcept (command this fun h => A.libevdevSetAbsInfo h code.value.toUInt32 info.toInput)

/-- `enable(Type)` -/
def enableType (type : EventType) : Op σ Unit :=
  require this "libevdev_enable_event_type() failed." fun h =>
    A.libevdevEnableEventType h type.value.toUInt32

/-- `disable(Type)` -/
def disableType (type : EventType) : Op σ Unit :=
  require this "libevdev_disable_event_type() failed." fun h =>
    A.libevdevDisableEventType h type.value.toUInt32

/-- `disable(Type, Code)` -/
def disableCode (type : EventType) : Op σ Unit :=
  require this "libevdev_disable_event_code() failed." fun h =>
    A.libevdevDisableEventCode h type.value.toUInt32 code.value.toUInt32

/-- `disable(const TypeCode&)` -/
def disableTypeCode (tc : TypeCode) : Op σ Unit :=
  disableCode A this tc.code tc.type

end Device

/-! ## Calls and tables -/

/-- The fields that have functions of their own. -/
inductive AxisField where
  | min
  | max
  | fuzz
  | flat
  | res
  deriving DecidableEq, Repr

/-- A call of a member function of the device at `dev`, for the type `abs`. -/
inductive AxisOp where
  | get (field : AxisField) (dev : DeviceId) (code : Code)
  | set (field : AxisField) (dev : DeviceId) (code : Code) (val : Int32)
  | getInfo (dev : DeviceId) (code : Code)
  | setInfo (dev : DeviceId) (code : Code) (info : AbsInfo)
  | enableType (dev : DeviceId)
  | disableType (dev : DeviceId)
  | enable (dev : DeviceId) (code : Code) (info : AbsInfo)
  | disable (dev : DeviceId) (code : Code)
  deriving DecidableEq, Repr

/-- What a call returns. -/
inductive AxisAnswer where
  | number (n : Int32)
  | info (a : AbsInfo)
  | done
  deriving DecidableEq, Repr

/-- The axes of a device, as the library gives them. -/
abbrev AxisTable := Table Code AbsInfo

namespace AxisField

def read : AxisField → AbsInfo → Int32
  | min => AbsInfo.min
  | max => AbsInfo.max
  | fuzz => AbsInfo.fuzz
  | flat => AbsInfo.flat
  | res => AbsInfo.res

def write (val : Int32) : AxisField → AbsInfo → AbsInfo
  | min => fun a => { a with min := val }
  | max => fun a => { a with max := val }
  | fuzz => fun a => { a with fuzz := val }
  | flat => fun a => { a with flat := val }
  | res => fun a => { a with res := val }

end AxisField

namespace AxisOp

def dev : AxisOp → DeviceId
  | get _ dev _ => dev
  | set _ dev _ _ => dev
  | getInfo dev _ => dev
  | setInfo dev _ _ => dev
  | enableType dev => dev
  | disableType dev => dev
  | enable dev _ _ => dev
  | disable dev _ => dev

/-- The member function. -/
def exec {σ : Type} (A : Axes σ) : AxisOp → Op σ AxisAnswer
  | get .min dev code => do return .number (← Device.getAbsMin A dev code)
  | get .max dev code => do return .number (← Device.getAbsMax A dev code)
  | get .fuzz dev code => do return .number (← Device.getAbsFuzz A dev code)
  | get .flat dev code => do return .number (← Device.getAbsFlat A dev code)
  | get .res dev code => do return .number (← Device.getAbsRes A dev code)
  | set .min dev code val => do Device.setAbsMin A dev code val; return .done
  | set .max dev code val => do Device.setAbsMax A dev code val; return .done
  | set .fuzz dev code val => do Device.setAbsFuzz A dev code val; return .done
  | set .flat dev code val => do Device.setAbsFlat A dev code val; return .done
  | set .res dev code val => do Device.setAbsRes A dev code val; return .done
  | getInfo dev code => do return .info (← Device.getAbsInfo A.details dev code)
  | setInfo dev code info => do Device.setAbsInfo A dev code info; return .done
  | enableType dev => do Device.enableType A dev .abs; return .done
  | disableType dev => do Device.disableType A dev .abs; return .done
  | enable dev code info => do Device.enableAbsInfo A.enabling dev code info; return .done
  | disable dev code => do Device.disableTypeCode A dev ⟨.abs, code⟩; return .done

/-- The result of a call on a table, and the table afterwards; `max` is the largest code. -/
def onTable (max : Int) (t : AxisTable) : AxisOp → Except Exn AxisAnswer × AxisTable
  | get field _ code => (.ok (.number (((t.get code).map field.read).getD 0)), t)
  | set field _ code val => (.ok .done, t.modify (field.write val) code)
  | getInfo _ code =>
      match t.get code with
      | some a => (.ok (.info a), t)
      | none => (.error (.std (.runtimeError "libevdev_get_abs_info() failed.")), t)
  | setInfo _ code info => (.ok .done, t.modify (fun _ => info) code)
  | enableType _ => (.ok .done, t.switch true)
  | disableType _ => (.ok .done, t.switch false)
  | enable _ code info =>
      if (code.value.toNat : Int) ≤ max then
        (.ok .done, t.insert code info)
      else
        (.error (.std (.runtimeError "libevdev_enable_event_code() failed.")), t.switch true)
  | disable _ code =>
      if (code.value.toNat : Int) ≤ max then
        (.ok .done, t.put code none)
      else
        (.error (.std (.runtimeError "libevdev_disable_event_code() failed.")), t)

end AxisOp

/-- The axes as a facet. -/
def Axes.facet {σ : Type} (A : Axes σ) (T : NameTables) : Facet σ AxisTable where
  Call := AxisOp
  Answer := AxisAnswer
  dev := AxisOp.dev
  exec := AxisOp.exec A
  on := AxisOp.onTable (T.eventTypeGetMax 3)

/-- The axes of an object, as the library gives them. -/
def AxisView.table {σ : Type} (view : AxisView σ) (s : σ) (h : Handle) : AxisTable :=
  (view s h).map (fun c => c.value.toUInt32) AbsInfo.ofInput

/-! ## A platform with tables -/

namespace TableAxes

/-- The tables of the objects. -/
abbrev Tables := Handle → Table UInt32 InputAbsinfo

def platform : Platform (Script × Tables) :=
  Script.platform.beside Tables

def views : Views (Script × Tables) :=
  Script.views.beside Tables

def tables : AxisView (Script × Tables) :=
  fun s => s.2

/-- Replace the table of an object. -/
def change (f : Table UInt32 InputAbsinfo → Table UInt32 InputAbsinfo) (h : Handle)
    (s : Script × Tables) : Script × Tables :=
  (s.1, Function.update s.2 h (f (s.2 h)))

def number (f : InputAbsinfo → Int32) (h : Handle) (c : UInt32) (s : Script × Tables) : Int32 :=
  (((s.2 h).get c).map f).getD 0

def InRange (c : UInt32) : Prop :=
  (c.toNat : Int) ≤ EnabledBits.tables.eventTypeGetMax 3

instance (c : UInt32) : Decidable (InRange c) :=
  inferInstanceAs (Decidable (_ ≤ _))

def axes : Axes (Script × Tables) where
  details :=
    { libevdevHasProperty := fun _ _ _ => false
      libevdevGetAbsInfo := fun h c s => (s.2 h).get c }
  enabling :=
    { libevdevEnableEventCode := fun h _ c data s =>
        match data with
        | some (.absinfo info) =>
            if InRange c then (0, change (Table.insert c info) h s)
            else (-1, change (Table.switch true) h s)
        | _ => (-1, s) }
  libevdevGetAbsMinimum := number (·.minimum)
  libevdevGetAbsMaximum := number (·.maximum)
  libevdevGetAbsFuzz := number (·.fuzz)
  libevdevGetAbsFlat := number (·.flat)
  libevdevGetAbsResolution := number (·.resolution)
  libevdevSetAbsMinimum := fun h c v => change (Table.modify (fun a => { a with minimum := v }) c) h
  libevdevSetAbsMaximum := fun h c v => change (Table.modify (fun a => { a with maximum := v }) c) h
  libevdevSetAbsFuzz := fun h c v => change (Table.modify (fun a => { a with fuzz := v }) c) h
  libevdevSetAbsFlat := fun h c v => change (Table.modify (fun a => { a with flat := v }) c) h
  libevdevSetAbsResolution := fun h c v =>
    change (Table.modify (fun a => { a with resolution := v }) c) h
  libevdevSetAbsInfo := fun h c info => change (Table.modify (fun _ => info) c) h
  libevdevEnableEventType := fun h _ s => (0, change (Table.switch true) h s)
  libevdevDisableEventType := fun h _ s => (0, change (Table.switch false) h s)
  libevdevDisableEventCode := fun h _ c s =>
    if InRange c then (0, change (Table.put c none) h s) else (-1, s)

def facet : Facet (Script × Tables) AxisTable :=
  axes.facet EnabledBits.tables

end TableAxes

end Evdevxx
