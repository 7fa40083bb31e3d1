import Evdevxx.Device.Capabilities
import Evdevxx.Model.Enabling

/-!
# Enabling — which functions can enable the codes of their type

Every call of `libevdev_enable_event_code` in the library is one that libevdev accepts for a code in
range.  But `enable_abs(Code)` does not get that far: it calls `enable(Type::abs, code)`, which
refuses the type.
-/

namespace Evdevxx

namespace Device

variable {σ : Type} {E : Enabling σ} {Q : Capabilities σ} {T : NameTables} {w : World σ}
variable {d : DeviceId} {type : EventType} {code : Code} {data : Option EventData}

/-- The call `p` returns; then the device has the type and the code, and for other types it has the
same codes as before. -/
def Enables (Q : Capabilities σ) (w : World σ) (d : DeviceId) (type : EventType) (code : Code)
    (p : Op σ Unit) : Prop :=
  ∃ w', p w = .returned () w' ∧ HasType Q w' d type ∧ HasCode Q w' d type code ∧
    ∀ type' code', type' ≠ type → (HasCode Q w' d type' code' ↔ HasCode Q w d type' code')

theorem enableEventCode_enables (hdoc : E.Documented Q T) (hvalid : Valid w d)
    (haccepts : Enabling.Accepts T type code data) :
    Enables Q w d type code (enableEventCode E d type code data) := by
  rcases hvalid with ⟨D, h, hD, hraw⟩
  rcases hdoc.accepted h type code data w.env haccepts with ⟨s', hcall, htype, hcode, hothers⟩
  have hD' : (w.withEnv s').devices d = some D := hD
  refine ⟨w.withEnv s', ?_, (hasType_iff type hD' hraw).2 htype,
    (hasCode_iff type code hD' hraw).2 hcode, fun type' code' hne => ?_⟩
  · have hret : Op.libevdevEnableEventCode E h type code data w = .returned 0 (w.withEnv s') := by
      rw [Op.libevdevEnableEventCode, hcall]
    simp [enableEventCode, hD, hraw, hret]
  · rw [hasCode_iff type' code' hD' hraw, hasCode_iff type' code' hD hraw, World.withEnv_env,
      hothers type' code' hne]

/-- For the types without data, `enable` is the call without data. -/
theorem enableCode_enables (hdoc : E.Documented Q T) (hvalid : Valid w d)
    (hgeneric : type ≠ .abs ∧ type ≠ .rep)
    (hrange : (code.value.toNat : Int) ≤ T.eventTypeGetMax type.value.toUInt32) :
    Enables Q w d type code (enableCode E T d type code) := by
  have hnot : ¬ (type = .abs ∨ type = .rep) := fun hor => hor.elim hgeneric.1 hgeneric.2
  rw [enableCode, if_neg hnot]
  exact enableEventCode_enables hdoc hvalid ⟨hrange, by simp [hnot]⟩

/-- In every state, `enable_abs(Code)` throws. -/
theorem enableAbs_apply (code : Code) (w : World σ) :
    enableAbs E T d code w =
      .threw (.std (.logicError
        ("Wrong overload for type \"" ++ String.ofList (EventType.abs.toText T) ++ "\"."))) w := by
  rw [enableAbs, enableCode, if_pos (Or.inl rfl)]
  rfl

/-- A call with a code in range enables it exactly if it is not one of `enable_abs(Code)`. -/
theorem enable_iff (hdoc : E.Documented Q T) (hvalid : Valid w d) (op : EnableOp)
    (hgeneric : op.Generic) (hrange : op.InRange T) :
    Enables Q w d op.type op.code (op.exec E T d) ↔ ∀ code, op ≠ .enableAbs code := by
  cases op with
  | enable type code =>
      exact iff_of_true (enableCode_enables hdoc hvalid hgeneric hrange) fun _ h => nomatch h
  | enableTypeCode tc =>
      exact iff_of_true (enableCode_enables hdoc hvalid hgeneric hrange) fun _ h => nomatch h
  | enableKey code =>
      have hgeneric : EventType.key ≠ EventType.abs ∧ EventType.key ≠ EventType.rep := by decide
      exact iff_of_true (enableCode_enables hdoc hvalid hgeneric hrange) fun _ h => nomatch h
  | enableRel code =>
      have hgeneric : EventType.rel ≠ EventType.abs ∧ EventType.rel ≠ EventType.rep := by decide
      exact iff_of_true (enableCode_enables hdoc hvalid hgeneric hrange) fun _ h => nomatch h
  | enableAbs code =>
      refine iff_of_false (fun henables => ?_) fun hnot => hnot code rfl
      rcases henables with ⟨w', hret, _⟩
      rw [EnableOp.exec, enableAbs_apply] at hret
      cases hret
  | enableAbsInfo code info =>
      refine iff_of_true (enableEventCode_enables hdoc hvalid ⟨hrange, ?_⟩) fun _ h => nomatch h
      simp [EnableOp.type]
  | enableRep code arg =>
      refine iff_of_true (enableEventCode_enables hdoc hvalid ⟨hrange, ?_⟩) fun _ h => nomatch h
      simp [EnableOp.type]

/-- A key, and an axis with its range. -/
theorem enable_iff_key_axis :
    (Enables EnabledBits.capabilities EnabledBits.device 0 .key ⟨⟨30⟩⟩
        ((EnableOp.enableKey ⟨⟨30⟩⟩).exec EnabledBits.enabling EnabledBits.tables 0) ↔
      ∀ code, EnableOp.enableKey ⟨⟨30⟩⟩ ≠ .enableAbs code) ∧
    (Enables EnabledBits.capabilities EnabledBits.device 0 .abs ⟨⟨0⟩⟩
        ((EnableOp.enableAbsInfo ⟨⟨0⟩⟩ { max := 255 }).exec EnabledBits.enabling
          EnabledBits.tables 0) ↔
      ∀ code, EnableOp.enableAbsInfo ⟨⟨0⟩⟩ { max := 255 } ≠ .enableAbs code) := by
  have hvalid : Valid EnabledBits.device 0 := ⟨{ raw := some 0 }, 0, rfl, rfl⟩
  exact ⟨enable_iff EnabledBits.documented hvalid (.enableKey ⟨⟨30⟩⟩) trivial (by decide),
    enable_iff EnabledBits.documented hvalid (.enableAbsInfo ⟨⟨0⟩⟩ { max := 255 }) trivial
      (by decide)⟩

/-- The first absolute axis is in range, and cannot be enabled without its range of values. -/
theorem enable_abs_throws :
    (EnableOp.enableAbs ⟨⟨0⟩⟩).InRange EnabledBits.tables ∧
      ¬ Enables EnabledBits.capabilities EnabledBits.device 0 .abs ⟨⟨0⟩⟩
        ((EnableOp.enableAbs ⟨⟨0⟩⟩).exec EnabledBits.enabling EnabledBits.tables 0) := by
  refine ⟨by decide, fun henables => ?_⟩
  rcases henables with ⟨w', hret, _⟩
  rw [EnableOp.exec, enableAbs_apply] at hret
  cases hret

end Device

end Evdevxx
