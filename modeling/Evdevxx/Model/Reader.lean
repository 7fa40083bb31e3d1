import Evdevxx.Logic.Monitor
import Evdevxx.Model.Reading

/-!
# Reader — the main loop of the reader tool

The loop as a state machine: `Position` is where it stands, and one step goes to the next position
at which it asks something of its surroundings (the flag that a signal sets, libevdev), with the
answer as its label.  What it prints is a list of lines; an `Event` stands for its text.

The exceptions go where the two `try` blocks send them: a `SyncError` to the inner handler, and every
other one, also one thrown by that handler, to the outer one, which ends the program.
-/

namespace Evdevxx

/-- What the loop asks, beside the platform's calls: the flag `should_quit`, which a signal may set at
any time, `sleep_for`, and whether events are pending. -/
structure Polling (σ : Type) where
  shouldQuit : σ → Bool × σ
  sleepFor : σ → σ
  libevdevHasEventPending : Handle → σ → Int × σ

namespace Device

variable {σ : Type} (R : Polling σ)

open Op

/-- `has_pending()` -/
def hasPending (this : DeviceId) : Op σ Bool := do
  let D ← load this
  let raw ← deref D.raw
  let val ← (Prog.gets fun w => (R.libevdevHasEventPending raw w.env).1 : Op σ Int)
  Prog.modify fun w => w.withEnv (R.libevdevHasEventPending raw w.env).2
  if val < 0 then
    throwSysError (-val) "libevdev_has_event_pending()"
  else
    pure (val ≠ 0)

end Device

namespace Reader

/-- Where the loop stands. -/
inductive Position where
  /-- `while (!should_quit)` -/
  | outer
  /-- `while (!should_quit && ..)` -/
  | waiting
  /-- `.. !dev.has_pending())` -/
  | polling
  /-- `if (should_quit)` -/
  | checking
  /-- `auto event = dev.read();` -/
  | reading
  /-- `while (dev.read(delta, evdev::ReadFlag::resync) == evdev::ReadStatus::dropped)` -/
  | draining
  /-- `main` has returned -/
  | exited (code : Int)
  /-- the program was terminated, or its behaviour is undefined -/
  | crashed
  deriving DecidableEq, Repr

/-- What is printed on a line. -/
inductive Line where
  | event (e : Event)
  | lostSync
  | delta (e : Event)
  | syncRestored
  | exiting
  | error (e : Exn)
  deriving DecidableEq, Repr

/-- What the loop was told. -/
inductive Answer where
  | quit (b : Bool)
  | pending (val : Int)
  | read (flags : ReadFlag) (val : Int) (stored : Option InputEvent)
  deriving DecidableEq, Repr

/-- The state of the program: the local `delta` is the handler's, and `out` what was printed, the
first line first. -/
structure State (σ : Type) where
  position : Position
  world : World σ
  delta : Event
  out : List Line

/-- Before the first iteration. -/
def start {σ : Type} (w : World σ) : State σ where
  position := .outer
  world := w
  delta := {}
  out := []

namespace State

variable {σ : Type}

/-- Print a line. -/
def print (s : State σ) (line : Line) : State σ :=
  { s with out := s.out ++ [line] }

/-- `catch (std::exception& e)` of `main` -/
def failed (s : State σ) (e : Exn) (w : World σ) : State σ :=
  { s with position := .exited (-1), world := w }.print (.error e)

/-- An exception in the inner `try` block. -/
def caught (s : State σ) (e : Exn) (w : World σ) : State σ :=
  match e with
  | .syncError _ => { s with position := .draining, world := w, delta := {} }.print .lostSync
  | .std _ => s.failed e w

def crash (s : State σ) : State σ :=
  { s with position := .crashed }

end State

variable {σ : Type} (P : Platform σ) (R : Polling σ) (dev : DeviceId)
variable (buffer : World σ → InputEvent)

/-- The handle that the calls get. -/
def handle (w : World σ) : Handle :=
  ((w.devices dev).bind (·.raw)).getD 0

/-- `should_quit` is read, and the loop goes on at `stop` if it is set, and else at `go`. -/
def checkQuit (s : State σ) (stop go : State σ → State σ) : Answer × State σ :=
  let r := R.shouldQuit s.world.env
  let s := { s with world := s.world.withEnv r.2 }
  (.quit r.1, if r.1 then stop s else go s)

/-- Behind the loop. -/
def leave (s : State σ) : State σ :=
  { s with position := .exited 0 }.print .exiting

/-- One step, with the answer that the loop got; the uninitialised event of a call of `read` holds
`buffer`. -/
def next (s : State σ) : Option (Answer × State σ) :=
  match s.position with
  | .outer => some (checkQuit R s leave fun s => { s with position := .waiting })
  | .waiting =>
      some (checkQuit R s (fun s => { s with position := .checking })
        fun s => { s with position := .polling })
  | .polling =>
      some (.pending (R.libevdevHasEventPending (handle dev s.world) s.world.env).1,
        match Device.hasPending R dev s.world with
        | .returned true w => { s with position := .checking, world := w }
        | .returned false w => { s with position := .waiting, world := w.withEnv (R.sleepFor w.env) }
        | .threw e w => s.caught e w
        | _ => s.crash)
  | .checking => some (checkQuit R s leave fun s => { s with position := .reading })
  | .reading =>
      let answer := (P.libevdevNextEvent (handle dev s.world) ReadFlag.normal s.world.env).1
      some (.read ReadFlag.normal answer.1 answer.2,
        match Device.read P dev (buffer s.world) ReadFlag.normal s.world with
        | .returned event w => { s with position := .outer, world := w }.print (.event event)
        | .threw e w => s.caught e w
        | _ => s.crash)
  | .draining =>
      let answer := (P.libevdevNextEvent (handle dev s.world) ReadFlag.resync s.world.env).1
      some (.read ReadFlag.resync answer.1 answer.2,
        match Device.readInto P dev (buffer s.world) ReadFlag.resync (s.world, s.delta) with
        | .returned status (w, delta) =>
            let s := { s with world := w, delta := delta }
            if status = ReadStatus.dropped then
              s.print (.delta delta)
            else
              { s with position := .outer }.print .syncRestored
        | .threw e (w, delta) => { s with delta := delta }.failed e w
        | _ => s.crash)
  | .exited _ => none
  | .crashed => none

/-- The steps of the program. -/
def Step (s : State σ) (l : Answer) (s' : State σ) : Prop :=
  next P R dev buffer s = some (l, s')

end Reader

end Evdevxx
