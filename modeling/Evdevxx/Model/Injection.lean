import Evdevxx.Model.Enabling
import Evdevxx.Model.Uinput

/-!
# Injection — the member functions of `evdev::Uinput` that write events

The calls of libevdev on a `libevdev_uinput` are not part of the repository; `Injection σ` is any
functions with their types.  The calls of `libevdev_uinput_write_event` are recorded with their
answers, oldest first.
-/

namespace Evdevxx

namespace EventType

/-- `Type::msc` -/
def msc : EventType := ⟨⟨4⟩⟩
/-- `Type::sw` -/
def sw : EventType := ⟨⟨5⟩⟩
/-- `Type::led` -/
def led : EventType := ⟨⟨0x11⟩⟩
/-- `Type::snd` -/
def snd : EventType := ⟨⟨0x12⟩⟩
/-- `Type::ff` -/
def ff : EventType := ⟨⟨0x15⟩⟩
/-- `Type::pwr` -/
def pwr : EventType := ⟨⟨0x16⟩⟩
/-- `Type::ff_status` -/
def ffStatus : EventType := ⟨⟨0x17⟩⟩

end EventType

/-- `SYN_REPORT` -/
def synReport : Code := Code.ofNumber 0

/-- The calls on a `libevdev_uinput`; a path may be a null pointer. -/
structure Injection (σ : Type) where
  libevdevUinputWriteEvent : UinputHandle → UInt32 → UInt32 → Int32 → σ → Int × σ
  libevdevUinputGetFd : UinputHandle → σ → Int
  libevdevUinputGetSyspath : UinputHandle → σ → Option Text
  libevdevUinputGetDevnode : UinputHandle → σ → Option Text

/-- A `libevdev_uinput` that is unplugged after a number of events; then `-ENODEV` is returned. -/
def Injection.limited (σ : Type) : Injection (σ × Nat) where
  libevdevUinputWriteEvent := fun _ _ _ _ s =>
    match s.2 with
    | 0 => (-19, s)
    | n + 1 => (0, (s.1, n))
  libevdevUinputGetFd := fun _ _ => 4
  libevdevUinputGetSyspath := fun _ _ => none
  libevdevUinputGetDevnode := fun _ _ => some "/dev/input/event9".toList

/-- A call of `libevdev_uinput_write_event`, with its answer. -/
structure Emission where
  udev : UinputHandle
  type : UInt32
  code : UInt32
  value : Int32
  ret : Int
  deriving DecidableEq, Repr

/-- A part of a program: on the world, and on the events written so far. -/
abbrev Emitter (σ α : Type) := Prog Exn (World σ × List Emission) α

def Op.libevdevUinputWriteEvent {σ : Type} (J : Injection σ) (udev : UinputHandle) (type code : UInt32)
    (value : Int32) : Emitter σ Int := fun s =>
  let r := J.libevdevUinputWriteEvent udev type code value s.1.env
  .returned r.1 (s.1.withEnv r.2, s.2 ++ [⟨udev, type, code, value, r.1⟩])

namespace Uinput

variable {σ α : Type} (J : Injection σ) (this : UinputId)

open Op

/-! ## Queries -/

/-- A call of libevdev that reads something off the object behind `raw`. -/
def query (ask : UinputHandle → σ → α) : Op σ α := do
  let U ← load this
  let raw ← deref U.raw
  Prog.gets fun w => ask raw w.env

/-- `get_fd()` -/
def getFd : Op σ Int :=
  Prog.noexcept (query this J.libevdevUinputGetFd)

/-- `try_get_syspath()` -/
def tryGetSyspath : Op σ (Option Text) :=
  query this J.libevdevUinputGetSyspath

/-- `try_get_devnode()` -/
def tryGetDevnode : Op σ (Option Text) :=
  query this J.libevdevUinputGetDevnode

/-- `if (!result) throw runtime_error{what};` -/
def required (tryGet : Op σ (Option Text)) (what : String) : Op σ Text := do
  let result ← tryGet
  match result with
  | some path => pure path
  | none => throwRuntimeError what

/-- `get_syspath()` -/
def getSyspath : Op σ Text :=
  required (tryGetSyspath J this) "No syspath for this uinput device."

/-- `get_devnode()` -/
def getDevnode : Op σ Text :=
  required (tryGetDevnode J this) "No devnode for this uinput device."

/-! ## Writing -/

/-- `write(Type, Code, int)` -/
def write (type : EventType) (code : Code) (value : Int32) : Emitter σ Unit := do
  let U ← Prog.onFst (load this)
  let raw ← Prog.onFst (deref U.raw)
  let e ← libevdevUinputWriteEvent J raw type.value.toUInt32 code.value.toUInt32 value
  if e < 0 then
    Prog.throw (.std (.systemError (-e) (some "from libevdev_uinput_write_event")))
  else
    pure ()

/-- `write(TypeCode, int)` -/
def writeTypeCode (tc : TypeCode) (value : Int32) : Emitter σ Unit :=
  write J this tc.type tc.code value

/-- `write(const Event&)` -/
def writeEvent (event : Event) : Emitter σ Unit :=
  write J this event.type event.code event.value

/-- `write_syn(Code, int)` -/
def writeSyn (code : Code) (value : Int32) : Emitter σ Unit :=
  write J this .syn code value

/-- `write_key(Code, int)` -/
def writeKey (code : Code) (value : Int32) : Emitter σ Unit :=
  write J this .key code value

/-- `write_rel(Code, int)` -/
def writeRel (code : Code) (value : Int32) : Emitter σ Unit :=
  write J this .rel code value

/-- `write_abs(Code, int)` -/
def writeAbs (code : Code) (value : Int32) : Emitter σ Unit :=
  write J this .abs code value

/-- `write_msc(Code, int)` -/
def writeMsc (code : Code) (value : Int32) : Emitter σ Unit :=
  write J this .msc code value

/-- `write_sw(Code, int)` -/
def writeSw (code : Code) (value : Int32) : Emitter σ Unit :=
  write J this .sw code value

/-- `write_led(Code, int)` -/
def writeLed (code : Code) (value : Int32) : Emitter σ Unit :=
  write J this .led code value

/-- `write_snd(Code, int)` -/
def writeSnd (code : Code) (value : Int32) : Emitter σ Unit :=
  write J this .snd code value

/-- `write_rep(Code, int)` -/
def writeRep (code : Code) (value : Int32) : Emitter σ Unit :=
  write J this .rep code value

/-- `write_ff(Code, int)` -/
def writeFf (code : Code) (value : Int32) : Emitter σ Unit :=
  write J this .ff code value

/-- `write_pwr(Code, int)` -/
def writePwr (code : Code) (value : Int32) : Emitter σ Unit :=
  write J this .pwr code value

/-- `write_ff_status(Code, int)` -/
def writeFfStatus (code : Code) (value : Int32) : Emitter σ Unit :=
  write J this .ffStatus code value

/-- `flush()` -/
def flush : Emitter σ Unit :=
  writeSyn J this synReport 0

end Uinput

/-- A call of one of the functions that write an event. -/
inductive WriteOp where
  | write (type : EventType) (code : Code) (value : Int32)
  | writeTypeCode (tc : TypeCode) (value : Int32)
  | writeEvent (event : Event)
  | writeSyn (code : Code) (value : Int32)
  | writeKey (code : Code) (value : Int32)
  | writeRel (code : Code) (value : Int32)
  | writeAbs (code : Code) (value : Int32)
  | writeMsc (code : Code) (value : Int32)
  | writeSw (code : Code) (value : Int32)
  | writeLed (code : Code) (value : Int32)
  | writeSnd (code : Code) (value : Int32)
  | writeRep (code : Code) (value : Int32)
  | writeFf (code : Code) (value : Int32)
  | writePwr (code : Code) (value : Int32)
  | writeFfStatus (code : Code) (value : Int32)
  | flush
  deriving DecidableEq, Repr

def WriteOp.exec {σ : Type} (J : Injection σ) (this : UinputId) : WriteOp → Emitter σ Unit
  | .write type code value => Uinput.write J this type code value
  | .writeTypeCode tc value => Uinput.writeTypeCode J this tc value
  | .writeEvent event => Uinput.writeEvent J this event
  | .writeSyn code value => Uinput.writeSyn J this code value
  | .writeKey code value => Uinput.writeKey J this code value
  | .writeRel code value => Uinput.writeRel J this code value
  | .writeAbs code value => Uinput.writeAbs J this code value
  | .writeMsc code value => Uinput.writeMsc J this code value
  | .writeSw code value => Uinput.writeSw J this code value
  | .writeLed code value => Uinput.writeLed J this code value
  | .writeSnd code value => Uinput.writeSnd J this code value
  | .writeRep code value => Uinput.writeRep J this code value
  | .writeFf code value => Uinput.writeFf J this code value
  | .writePwr code value => Uinput.writePwr J this code value
  | .writeFfStatus code value => Uinput.writeFfStatus J this code value
  | .flush => Uinput.flush J this

end Evdevxx
