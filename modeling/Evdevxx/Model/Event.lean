import Evdevxx.Logic.Outcome

/-!
# Event — event types, codes, events and the exceptions of the library

* `StdError`, `Exn` — what the library throws: the standard exceptions with their texts, and
  `SyncError`, which carries an event;
* `NumberBase`, `EventType`, `Code` — the type-safe integers (`Type` is a keyword here);
* `InputEvent`, `Event` — the kernel's `::input_event` and the library's `Event`, with the
  conversions between them;
* `ReadFlag`, `ReadStatus` — the two enumerations of `Device::read`.
-/

namespace Evdevxx

/-! ## Exceptions -/

/-- The standard exceptions thrown by the library.  A `std::system_error` keeps its error code and
the message it was given, if any. -/
inductive StdError where
  | systemError (code : Int) (what : Option String)
  | runtimeError (what : String)
  | logicError (what : String)
  | invalidArgument (what : String)
  deriving DecidableEq, Repr

/-! ## Type-safe integers -/

/-- `detail::NumberBase<T, D>`: the stored number. -/
structure NumberBase (T : Type) where
  value : T
  deriving DecidableEq, Repr

/-- `evdev::Type` -/
structure EventType extends NumberBase UInt16
  deriving DecidableEq, Repr

/-- `evdev::Code` -/
structure Code extends NumberBase UInt16
  deriving DecidableEq, Repr

/-- `EV_MAX` -/
def evMax : UInt16 := 0x1f

/-- `Type::Type(std::uint16_t)` -/
def EventType.ofNumber (number : UInt16) : Except StdError EventType :=
  if number > evMax then
    .error (.invalidArgument "invalid event type number")
  else
    .ok ⟨⟨number⟩⟩

/-- `Code::Code(std::uint16_t)`, inherited from `NumberBase`. -/
def Code.ofNumber (number : UInt16) : Code :=
  ⟨⟨number⟩⟩

theorem EventType.ofNumber_of_le {n : UInt16} (h : n ≤ evMax) :
    EventType.ofNumber n = .ok ⟨⟨n⟩⟩ := by
  have hn : ¬ n > evMax := by simpa using h
  simp [EventType.ofNumber, hn]

theorem EventType.ofNumber_of_gt {n : UInt16} (h : ¬ n ≤ evMax) :
    EventType.ofNumber n = .error (.invalidArgument "invalid event type number") := by
  have hn : n > evMax := by simpa using h
  simp [EventType.ofNumber, hn]

theorem EventType.le_of_ofNumber {n : UInt16} {type : EventType}
    (h : EventType.ofNumber n = .ok type) : type.value ≤ evMax := by
  by_cases hn : n ≤ evMax
  · rw [EventType.ofNumber_of_le hn] at h
    cases h
    exact hn
  · rw [EventType.ofNumber_of_gt hn] at h
    cases h

/-! ## Events -/

/-- The kernel's `::input_event`. -/
structure InputEvent where
  sec : Int64
  usec : Int64
  type : UInt16
  code : UInt16
  value : Int32
  deriving DecidableEq, Repr

/-- `evdev::Event` -/
structure Event where
  sec : Int64 := 0
  usec : Int64 := 0
  type : EventType := ⟨⟨0⟩⟩
  code : Code := ⟨⟨0⟩⟩
  value : Int32 := 0
  deriving DecidableEq, Repr

/-- Everything the library throws. -/
inductive Exn where
  | std (e : StdError)
  | syncError (event : Event)
  deriving DecidableEq, Repr

namespace Event

/-- `Event::operator ::input_event()` -/
def toInput (e : Event) : InputEvent where
  sec := e.sec
  usec := e.usec
  type := e.type.value
  code := e.code.value
  value := e.value

/-- The event with the fields of `e`, none of them checked. -/
def ofFields (e : InputEvent) : Event where
  sec := e.sec
  usec := e.usec
  type := ⟨⟨e.type⟩⟩
  code := ⟨⟨e.code⟩⟩
  value := e.value

@[simp] theorem toInput_ofFields (e : InputEvent) : (ofFields e).toInput = e := rfl

@[simp] theorem ofFields_toInput (e : Event) : ofFields e.toInput = e := rfl

/-- `Event::operator =(const ::input_event&)`, on the state of the assigned `Event`.  The fields are
written one by one and the `Type` is built, and checked, after the time stamp is written. -/
def assign (e : InputEvent) : Prog StdError Event Unit :=
  Prog.noexcept fun this =>
    let this := { this with sec := e.sec }
    let this := { this with usec := e.usec }
    match EventType.ofNumber e.type with
    -- Only the time stamp has been written when `Type{e.type}` throws.
    | .error x => .threw x this
    | .ok type =>
        let this := { this with type := type }
        let this := { this with code := Code.ofNumber e.code }
        let this := { this with value := e.value }
        .returned () this

theorem assign_of_le {e : InputEvent} (h : e.type ≤ evMax) (this : Event) :
    assign e this = .returned () (ofFields e) := by
  simp [assign, Prog.noexcept, EventType.ofNumber_of_le h, ofFields, Code.ofNumber]

theorem assign_of_gt {e : InputEvent} (h : ¬ e.type ≤ evMax) (this : Event) :
    assign e this = .terminated := by
  simp [assign, Prog.noexcept, EventType.ofNumber_of_gt h]

/-- `Event::Event(const ::input_event&)`; the members are initialised in the order of their
declaration. -/
def ofInput (e : InputEvent) : Prog StdError Unit Event :=
  Prog.noexcept fun s =>
    match EventType.ofNumber e.type with
    | .error x => .threw x s
    | .ok type =>
        .returned
          { sec := e.sec
            usec := e.usec
            type := type
            code := Code.ofNumber e.code
            value := e.value } s

theorem ofInput_of_le {e : InputEvent} (h : e.type ≤ evMax) (s : Unit) :
    ofInput e s = .returned (ofFields e) s := by
  simp [ofInput, Prog.noexcept, EventType.ofNumber_of_le h, ofFields, Code.ofNumber]

theorem ofInput_of_gt {e : InputEvent} (h : ¬ e.type ≤ evMax) (s : Unit) :
    ofInput e s = .terminated := by
  simp [ofInput, Prog.noexcept, EventType.ofNumber_of_gt h]

/-- Building an `Event` from `e` and assigning `e` to the `Event` `this` both end normally, and both
give an `Event` that converts back to `e`. -/
structure Lossless (e : InputEvent) (this : Event) : Prop where
  constructed : ∃ event, ofInput e () = .returned event () ∧ event.toInput = e
  assigned : ∃ event, assign e this = .returned () event ∧ event.toInput = e

/-- The conversions from `::input_event` are total and lossless on the types that exist, and on no
others: there the `Type` constructor throws inside a `noexcept` function. -/
theorem lossless_iff (e : InputEvent) (this : Event) : Lossless e this ↔ e.type ≤ evMax := by
  constructor
  · intro hlossless
    by_cases htype : e.type ≤ evMax
    · exact htype
    · rcases hlossless.constructed with ⟨event, hret, _⟩
      rw [ofInput_of_gt htype] at hret
      cases hret
  · intro htype
    refine ⟨⟨ofFields e, ofInput_of_le htype (), ?_⟩, ⟨ofFields e, assign_of_le htype this, ?_⟩⟩
    · exact toInput_ofFields e
    · exact toInput_ofFields e

/-- An event of the first type number above `EV_MAX`. -/
theorem not_lossless_of_unknown_type : ¬ Lossless ⟨1, 2, 0x20, 3, 4⟩ {} := by
  intro hlossless
  have hterminated : ofInput ⟨1, 2, 0x20, 3, 4⟩ () = .terminated := ofInput_of_gt (by decide) ()
  rcases hlossless.constructed with ⟨event, hret, _⟩
  rw [hterminated] at hret
  cases hret

end Event

/-! ## Reading -/

/-- `evdev::ReadFlag`, a set of the bits below. -/
abbrev ReadFlag := BitVec 32

namespace ReadFlag

/-- `LIBEVDEV_READ_FLAG_SYNC` -/
def resync : ReadFlag := 1
/-- `LIBEVDEV_READ_FLAG_NORMAL` -/
def normal : ReadFlag := 2
/-- `LIBEVDEV_READ_FLAG_FORCE_SYNC` -/
def forceSync : ReadFlag := 4
/-- `LIBEVDEV_READ_FLAG_BLOCKING` -/
def blocking : ReadFlag := 8

end ReadFlag

/-- `evdev::ReadStatus`, an enumeration over every `int`. -/
structure ReadStatus where
  val : Int
  deriving DecidableEq, Repr

namespace ReadStatus

/-- `LIBEVDEV_READ_STATUS_SUCCESS` -/
def success : ReadStatus := ⟨0⟩
/-- `LIBEVDEV_READ_STATUS_SYNC` -/
def dropped : ReadStatus := ⟨1⟩
/-- `-EAGAIN` -/
def again : ReadStatus := ⟨-11⟩

end ReadStatus

end Evdevxx
