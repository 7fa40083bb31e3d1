import Mathlib.Data.List.Basic
import Evdevxx.Logic.Delivery
import Evdevxx.Model.Injection
import Evdevxx.Model.Scripted
import Evdevxx.Uinput.Evaluation

/-!
# Injection — what is written reaches libevdev, in order and once

Each function of `Uinput` that writes an event makes one call of `libevdev_uinput_write_event`, on the
handle of the object.  A sequence of them delivers its events until one is refused.
-/

namespace Evdevxx

/-- What libevdev is asked to write. -/
abbrev Posted := UinputHandle × UInt32 × UInt32 × Int32

def posted (udev : UinputHandle) (type : EventType) (code : Code) (value : Int32) : Posted :=
  (udev, type.value.toUInt32, code.value.toUInt32, value)

/-- The calls of `libevdev_uinput_write_event`; the library throws when one returns an error. -/
def emissions : Channel Exn Emission Posted where
  asked := fun c => (c.udev, c.type, c.code, c.value)
  accepted := fun c => 0 ≤ c.ret
  refusal := fun c => .std (.systemError (-c.ret) (some "from libevdev_uinput_write_event"))

/-- What a function is there to write. -/
def WriteOp.posted (udev : UinputHandle) : WriteOp → Posted
  | .write type code value => Evdevxx.posted udev type code value
  | .writeTypeCode tc value => Evdevxx.posted udev tc.type tc.code value
  | .writeEvent event => Evdevxx.posted udev event.type event.code event.value
  | .writeSyn code value => Evdevxx.posted udev .syn code value
  | .writeKey code value => Evdevxx.posted udev .key code value
  | .writeRel code value => Evdevxx.posted udev .rel code value
  | .writeAbs code value => Evdevxx.posted udev .abs code value
  | .writeMsc code value => Evdevxx.posted udev .msc code value
  | .writeSw code value => Evdevxx.posted udev .sw code value
  | .writeLed code value => Evdevxx.posted udev .led code value
  | .writeSnd code value => Evdevxx.posted udev .snd code value
  | .writeRep code value => Evdevxx.posted udev .rep code value
  | .writeFf code value => Evdevxx.posted udev .ff code value
  | .writePwr code value => Evdevxx.posted udev .pwr code value
  | .writeFfStatus code value => Evdevxx.posted udev .ffStatus code value
  | .flush => Evdevxx.posted udev .syn synReport 0

namespace Uinput

variable {σ : Type} {J : Injection σ} {this : UinputId} {U : Uinput} {p : UinputHandle}
variable {w : World σ} {I : World σ → Prop}

theorem query_apply {α : Type} (hU : w.uinputs this = some U) (hraw : U.raw = some p)
    (ask : UinputHandle → σ → α) : query this ask w = .returned (ask p w.env) w := by
  simp [query, load_apply hU, hraw]

/-- A path that the object has to have. -/
theorem required_apply {tryGet : Op σ (Option Text)} {path : Option Text}
    (hget : tryGet w = .returned path w) (what : String) :
    required tryGet what w =
      path.elim (.threw (.std (.runtimeError what)) w) fun path => .returned path w := by
  rw [required, Prog.bind_apply, hget, Outcome.returned_andThen]
  cases path with
  | none => rfl
  | some path => rfl

theorem write_apply (hU : w.uinputs this = some U) (hraw : U.raw = some p) (type : EventType)
    (code : Code) (value : Int32) (done : List Emission) :
    write J this type code value (w, done) =
      let r := J.libevdevUinputWriteEvent p type.value.toUInt32 code.value.toUInt32 value w.env
      let c : Emission := ⟨p, type.value.toUInt32, code.value.toUInt32, value, r.1⟩
      if r.1 < 0 then .threw (emissions.refusal c) (w.withEnv r.2, done ++ [c])
      else .returned () (w.withEnv r.2, done ++ [c]) := by
  have hload : Prog.onFst (load this) (w, done) = .returned U (w, done) := by
    simp [Prog.onFst, load_apply hU]
  have hderef : Prog.onFst (Op.deref U.raw) (w, done) = .returned p (w, done) := by
    simp [Prog.onFst, Op.deref, hraw]
  simp only [write, Prog.bind_apply, hload, hderef, Outcome.returned_andThen,
    Op.libevdevUinputWriteEvent, Prog.ite_apply']
  rfl

/-- Each function delivers its event, if `I` knows the handle and survives the call. -/
theorem write_delivers (hvalid : ∀ w, I w → ∃ U, w.uinputs this = some U ∧ U.raw = some p)
    (hkept : ∀ w type code value, I w →
      I (w.withEnv (J.libevdevUinputWriteEvent p type code value w.env).2))
    (type : EventType) (code : Code) (value : Int32) :
    Prog.Delivers emissions I (write J this type code value) [posted p type code value] := by
  intro w done hI
  rcases hvalid w hI with ⟨U, hU, hraw⟩
  have hwrite := write_apply (J := J) hU hraw type code value done
  have hI' := hkept w type.value.toUInt32 code.value.toUInt32 value hI
  by_cases hneg : (J.libevdevUinputWriteEvent p type.value.toUInt32 code.value.toUInt32 value
      w.env).1 < 0
  · rw [if_pos hneg] at hwrite
    refine Prog.ends_of_threw hwrite ⟨hI', _, rfl, List.prefix_rfl, [], _, rfl, nofun, ?_, rfl⟩
    exact Int.not_le.2 hneg
  · rw [if_neg hneg] at hwrite
    refine Prog.ends_of_returned hwrite ⟨hI', _, rfl, rfl, fun c hc => ?_⟩
    rw [List.mem_singleton.1 hc]
    exact Int.not_lt.1 hneg

theorem exec_delivers (hvalid : ∀ w, I w → ∃ U, w.uinputs this = some U ∧ U.raw = some p)
    (hkept : ∀ w type code value, I w →
      I (w.withEnv (J.libevdevUinputWriteEvent p type code value w.env).2)) (op : WriteOp) :
    Prog.Delivers emissions I (op.exec J this) [op.posted p] := by
  cases op with
  | _ => exact write_delivers hvalid hkept _ _ _

/-- Whatever a program writes on a valid `Uinput`, with whatever functions: libevdev gets those events,
in their order and each once, on the handle of the object; behind the first one that is refused the
program gets the error of that call.  Nothing but the platform changes. -/
theorem session_delivers (hU : w.uinputs this = some U) (hraw : U.raw = some p)
    (ops : List WriteOp) (done : List Emission) :
    (Prog.forEach (fun op : WriteOp => op.exec J this) ops).Ends False
      (fun _ t => (∃ s, t.1 = w.withEnv s) ∧ ∃ calls, t.2 = done ++ calls ∧
        emissions.Complete (ops.map (WriteOp.posted p)) calls)
      (fun e t => (∃ s, t.1 = w.withEnv s) ∧ ∃ calls, t.2 = done ++ calls ∧
        emissions.Stopped (ops.map (WriteOp.posted p)) e calls) (w, done) := by
  have hdelivers : Prog.Delivers emissions (fun w' => ∃ s, w' = w.withEnv s)
      (Prog.forEach (fun op : WriteOp => op.exec J this) ops) (ops.flatMap fun op => [op.posted p]) := by
    refine Prog.delivers_forEach (fun op => exec_delivers ?_ ?_ op) ops
    · rintro _ ⟨s, rfl⟩
      exact ⟨U, hU, hraw⟩
    · rintro _ type code value ⟨s, rfl⟩
      exact ⟨_, rfl⟩
  rw [← List.map_eq_flatMap] at hdelivers
  exact hdelivers w done ⟨w.env, rfl⟩

/-- A key is pressed and reported, and the device is unplugged. -/
theorem session_delivers_unplugged :
    ∃ t, Prog.forEach (fun op : WriteOp => op.exec (Injection.limited Unit) 0)
        [.writeKey (Code.ofNumber 30) 1, .flush, .writeKey (Code.ofNumber 30) 0, .flush]
        ((World.init ((), 2)).setUinput 0 (some { raw := some 7 }), []) =
          .threw (.std (.systemError 19 (some "from libevdev_uinput_write_event"))) t ∧
      t.2.map Emission.ret = [0, 0, -19] ∧
      ∃ calls, t.2 = calls ∧ emissions.Stopped
        ([WriteOp.writeKey (Code.ofNumber 30) 1, .flush, .writeKey (Code.ofNumber 30) 0, .flush].map
          (WriteOp.posted 7))
        (.std (.systemError 19 (some "from libevdev_uinput_write_event"))) calls := by
  have hU : ((World.init ((), 2)).setUinput 0 (some { raw := some 7 })).uinputs 0 =
      some { raw := some 7 } := rfl
  have hends := session_delivers (J := Injection.limited Unit) hU rfl
    [.writeKey (Code.ofNumber 30) 1, .flush, .writeKey (Code.ofNumber 30) 0, .flush] []
  exact ⟨_, rfl, rfl, (hends.of_threw rfl).2⟩

end Uinput

end Evdevxx
