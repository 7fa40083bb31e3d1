import Evdevxx.Model.Device

/-!
# Reading — the two overloads of `Device::read`

`read(Event&, ReadFlag)` works on the world and on the caller's `Event`, the second part of its
state.  Its local `::input_event` is not initialised, so what is in it is a parameter: it keeps the
content `buffer` unless `libevdev_next_event` writes it.
-/

namespace Evdevxx

namespace Device

variable {σ : Type} (P : Platform σ)

open Op

/-- `libevdev_next_event(raw, flags, &raw_event)` -/
def nextEvent (this : DeviceId) (flags : ReadFlag) : Op σ (Int × Option InputEvent) := do
  let D ← load this
  let raw ← deref D.raw
  libevdevNextEvent P raw flags

/-- `read(event, flags)` -/
def readInto (this : DeviceId) (buffer : InputEvent) (flags : ReadFlag) :
    Prog Exn (World σ × Event) ReadStatus :=
  Prog.noexcept do
    let (val, stored) ← Prog.onFst (nextEvent P this flags)
    -- What the local event holds after the call.
    let rawEvent := stored.getD buffer
    if 0 ≤ val then do
      Prog.onSnd Exn.std (Event.assign rawEvent)
      pure ⟨val⟩
    else
      pure ⟨val⟩

/-- `read(flags)` -/
def read (this : DeviceId) (buffer : InputEvent) (flags : ReadFlag) : Op σ Event := do
  let (status, event) ← Prog.withLocal {} (readInto P this buffer flags)
  if status = ReadStatus.dropped ∧ flags &&& ReadFlag.resync = 0 then
    Prog.throw (.syncError event)
  else if status.val < 0 then
    throwSysError (-status.val) "libevdev_next_event()"
  else
    pure event

end Device

end Evdevxx
