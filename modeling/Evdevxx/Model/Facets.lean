import Evdevxx.Model.Identity
import Evdevxx.Model.System

/-!
# Facets — what libevdev keeps of an object, and the calls about it

A facet is a part of what libevdev keeps of each object: its axes, for example, or its names and
numbers.  Some of the member functions of a `Device` ask for it or change it, and do nothing else.

`Facet.on` says what such a call is for: what is kept of the device is a value, from which the call
answers, or which it changes.
-/

namespace Evdevxx

variable {σ τ : Type}

/-- From `s` to `s'` what is kept of the object `h` is replaced, and nothing else. -/
def Views.Writes (V : Views σ) (obs : σ → Handle → τ) (h : Handle) (t : τ) (s s' : σ) : Prop :=
  obs s' = Function.update (obs s) h t ∧ V.Same s s'

/-! ## Device -/

namespace Device

variable (this : DeviceId)

open Op

/-- A call of libevdev that writes something to the object behind `raw`. -/
def command (tell : Handle → σ → σ) : Op σ Unit := do
  let D ← load this
  let raw ← deref D.raw
  Prog.modify fun w => w.withEnv (tell raw w.env)

/-- `if (call(raw, ..)) throw runtime_error{what};` -/
def require (what : String) (call : Handle → σ → Int × σ) : Op σ Unit := do
  let D ← load this
  let raw ← deref D.raw
  let ret ← fun w =>
    let r := call raw w.env
    .returned r.1 (w.withEnv r.2)
  if ret ≠ 0 then
    throwRuntimeError what
  else
    pure ()

end Device

/-! ## Calls and programs -/

/-- The calls about something that is kept of each object, a `τ`. -/
structure Facet (σ τ : Type) where
  Call : Type
  Answer : Type
  /-- the device that the call is made on -/
  dev : Call → DeviceId
  exec : Call → Op σ Answer
  /-- the result, which may be an exception, and what is kept afterwards -/
  on : τ → Call → Except Exn Answer × τ

namespace Facet

variable (F : Facet σ τ)

/-- What is kept answers the call. -/
def Answers (t : τ) (l : F.Call × Except Exn F.Answer) (t' : τ) : Prop :=
  F.on t l.1 = (l.2, t')

/-- What a program does next: it acts on an object, or makes a call of the facet and gets a result. -/
inductive Action where
  | act (a : Act)
  | call (c : F.Call) (r : Except Exn F.Answer)

def Step (P : Platform σ) (w : World σ) (a : F.Action) (w' : World σ) : Prop :=
  match a with
  | .act a => step P w a w'
  | .call c r => F.exec c w = Prog.ofExcept r w'

variable {F} in
/-- The call on the device at `d`, with its result, if it is one. -/
def Action.callOn (d : DeviceId) : F.Action → Option (F.Call × Except Exn F.Answer)
  | .act _ => none
  | .call c r => if F.dev c = d then some (c, r) else none

end Facet

end Evdevxx
