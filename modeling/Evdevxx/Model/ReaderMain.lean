import Evdevxx.Logic.Scope
import Evdevxx.Model.Formats
import Evdevxx.Model.Identity
import Evdevxx.Model.Reader

/-!
# ReaderMain — `main` of the reader tool

The program as it is written, statement by statement.  It runs on the world and on what was printed;
each of its loops has a budget on the number of its iterations.  The handlers of the signals only set
the flag `should_quit`, which `Polling` has.

The library's default for the flags of `Device(path)` is `O_RDONLY | O_NONBLOCK`.
-/

namespace Evdevxx

/-- `O_RDONLY | O_NONBLOCK` -/
def Device.defaultFlags : BitVec 32 :=
  oNonblock

namespace Reader

/-- What is printed on a line, by the loop or around it. -/
inductive Output where
  | usage
  | opened (name : Text)
  | line (l : Line)
  deriving DecidableEq, Repr

/-- A part of the program: on the world, and on the lines printed so far. -/
abbrev Action (σ α : Type) := Prog Exn (World σ × List Output) α

section

variable {σ : Type}

/-- `cout << .. << endl;`, or the same on `cerr` -/
def say (o : Output) : Action σ Unit :=
  Prog.modify fun s => (s.1, s.2 ++ [o])

variable (P : Platform σ) (R : Polling σ) (I : Identity σ) (dev : DeviceId)
variable (buffer : World σ → InputEvent)

/-- `should_quit` -/
def shouldQuit : Action σ Bool := fun s =>
  .returned (R.shouldQuit s.1.env).1 (s.1.withEnv (R.shouldQuit s.1.env).2, s.2)

/-- `std::this_thread::sleep_for(10ms);` -/
def sleep : Action σ Unit :=
  Prog.modify fun s => (s.1.withEnv (R.sleepFor s.1.env), s.2)

/-- `while (!should_quit && !dev.has_pending()) std::this_thread::sleep_for(10ms);` -/
def waitLoop : Nat → Action σ Unit
  | 0 => Prog.exhausted
  | budget + 1 => do
      if ← shouldQuit R then
        pure ()
      else if ← Prog.onFst (Device.hasPending R dev) then
        pure ()
      else do
        sleep R
        waitLoop budget

/-- `dev.read(delta, evdev::ReadFlag::resync)`, with the local `delta` -/
def readDelta : Prog Exn ((World σ × List Output) × Event) ReadStatus := do
  let raw ← Prog.gets fun s => buffer s.1.1
  Prog.zoom (fun s => (s.1.1, s.2)) (fun s x => ((x.1, s.1.2), x.2))
    (Device.readInto P dev raw ReadFlag.resync)

/-- `while (dev.read(delta, evdev::ReadFlag::resync) == evdev::ReadStatus::dropped)
cout << "delta: " << delta << endl;` -/
def drainLoop : Nat → Prog Exn ((World σ × List Output) × Event) Unit
  | 0 => Prog.exhausted
  | budget + 1 => do
      let status ← readDelta P dev buffer
      if status = ReadStatus.dropped then do
        let delta ← Prog.gets Prod.snd
        Prog.onFst (say (.line (.delta delta)))
        drainLoop budget
      else
        pure ()

/-- `catch (evdev::SyncError& se)`; the other exceptions go on. -/
def resync (budget : Nat) : Exn → Action σ Unit
  | .syncError _ => do
      say (.line .lostSync)
      let _ ← Prog.withLocal {} (drainLoop P dev buffer budget)
      say (.line .syncRestored)
  | .std e => Prog.throw (.std e)

/-- The inner `try` block: whether it is left by `break`. -/
def tryRead (budget : Nat) : Action σ Bool := do
  waitLoop R dev budget
  if ← shouldQuit R then
    pure true
  else do
    let raw ← Prog.gets fun s => buffer s.1
    let event ← Prog.onFst (Device.read P dev raw ReadFlag.normal)
    say (.line (.event event))
    pure false

/-- `while (!should_quit) ..` -/
def mainLoop (inner : Nat) : Nat → Action σ Unit
  | 0 => Prog.exhausted
  | budget + 1 => do
      if ← shouldQuit R then
        pure ()
      else if ← Prog.tryCatch (tryRead P R dev buffer inner) (fun e => do
          resync P dev buffer inner e
          pure false) then
        pure ()
      else
        mainLoop inner budget

/-- The rest of the outer `try` block, after the construction of `dev`. -/
def session (inner budget : Nat) : Action σ Int := do
  let name ← Prog.onFst (Device.getName I dev)
  say (.opened name)
  mainLoop P R dev buffer inner budget
  say (.line .exiting)
  pure 0

/-- `main(argc, argv)`: `args` are the arguments behind the name of the program.  The device lives on
the stack, at the address `dev`. -/
def main (inner budget : Nat) (args : List String) : Action σ Int :=
  match args with
  | [path] =>
      Prog.tryCatch
        (Prog.withObject (Prog.onFst (Device.constructPath P dev path Device.defaultFlags))
          (Prog.onFst (Device.destruct P dev)) (session P R I dev buffer inner budget))
        (fun e => do
          say (.line (.error e))
          pure (-1))
  | _ => do
      say .usage
      pure (-1)

end

/-! ## What is on `cout` -/

/-- The lines that the loop writes on `cout` for what it prints; an error goes to `cerr`. -/
def Line.texts (T : NameTables) : Line → List Text
  | .event e => [e.toText T]
  | .lostSync => ["lost sync".toList]
  | .delta e => ["delta: ".toList ++ e.toText T]
  | .syncRestored => ["sync restored".toList]
  -- `"\nExiting."` ends an empty line first.
  | .exiting => [[], "Exiting.".toList]
  | .error _ => []

/-- What the loop has written on `cout`, with `endl` behind each line. -/
def cout (T : NameTables) (lines : List Line) : Text :=
  terminated '\n' (lines.flatMap (Line.texts T))

end Reader

end Evdevxx
