import Evdevxx.Device.Evaluation
import Evdevxx.Model.Reading
import Evdevxx.Model.Scripted

/-!
# Reading — what a read leaves in the event

Whenever `libevdev_next_event` stores an event or reports an error, both overloads of `read` do
what they should.  With `LIBEVDEV_READ_FLAG_FORCE_SYNC` it may report a status without storing
anything, and then the uninitialised local event is taken for the one that was read.
-/

namespace Evdevxx

namespace Device

variable {σ : Type} {P : Platform σ} {V : Views σ} {w : World σ} {d : DeviceId} {D : Device}
variable {h : Handle} {flags : ReadFlag} {buffer : InputEvent} {prev : Event}

/-! ## How the two overloads end -/

/-- A negative status leaves the event alone. -/
theorem readInto_apply_negative (hD : w.devices d = some D) (hraw : D.raw = some h) (prev : Event)
    (hneg : (P.libevdevNextEvent h flags w.env).1.1 < 0) :
    readInto P d buffer flags (w, prev) =
      .returned ⟨(P.libevdevNextEvent h flags w.env).1.1⟩
        (w.withEnv (P.libevdevNextEvent h flags w.env).2, prev) := by
  apply Prog.noexcept_of_returned
  have hnot : ¬ 0 ≤ (P.libevdevNextEvent h flags w.env).1.1 := Int.not_le.2 hneg
  simp [nextEvent, Prog.onFst, hD, hraw, hnot]

/-- Otherwise the local event is assigned, and has to be one that exists. -/
theorem readInto_apply_of_le (hD : w.devices d = some D) (hraw : D.raw = some h) (prev : Event)
    (hok : 0 ≤ (P.libevdevNextEvent h flags w.env).1.1)
    (htype : ((P.libevdevNextEvent h flags w.env).1.2.getD buffer).type ≤ evMax) :
    readInto P d buffer flags (w, prev) =
      .returned ⟨(P.libevdevNextEvent h flags w.env).1.1⟩
        (w.withEnv (P.libevdevNextEvent h flags w.env).2,
          Event.ofFields ((P.libevdevNextEvent h flags w.env).1.2.getD buffer)) := by
  apply Prog.noexcept_of_returned
  simp [nextEvent, Prog.onFst, Prog.onSnd, hD, hraw, hok, Event.assign_of_le htype]

theorem readInto_apply_of_gt (hD : w.devices d = some D) (hraw : D.raw = some h) (prev : Event)
    (hok : 0 ≤ (P.libevdevNextEvent h flags w.env).1.1)
    (htype : ¬ ((P.libevdevNextEvent h flags w.env).1.2.getD buffer).type ≤ evMax) :
    readInto P d buffer flags (w, prev) = .terminated := by
  simp [readInto, Prog.noexcept, nextEvent, Prog.onFst, Prog.onSnd, hD, hraw, hok,
    Event.assign_of_gt htype]

/-- `read(flags)` turns the status of `read(event, flags)` on a default event into its end. -/
theorem read_apply {status : Int} {w' : World σ} {ev : Event}
    (hinto : readInto P d buffer flags (w, {}) = .returned ⟨status⟩ (w', ev)) :
    read P d buffer flags w =
      if status = 1 ∧ flags &&& ReadFlag.resync = 0 then
        .threw (.syncError ev) w'
      else if status < 0 then
        .threw (.std (.systemError (-status) (some "libevdev_next_event()"))) w'
      else
        .returned ev w' := by
  have hstatus : (⟨status⟩ : ReadStatus) = ReadStatus.dropped ↔ status = 1 := by
    simp [ReadStatus.dropped]
  simp only [read, Prog.bind_apply, Prog.withLocal, hinto, Outcome.returned_andThen, hstatus]
  by_cases hdrop : status = 1 ∧ flags &&& ReadFlag.resync = 0
  · rw [if_pos hdrop, if_pos hdrop]
    rfl
  · rw [if_neg hdrop, if_neg hdrop]
    by_cases hneg : status < 0
    · rw [if_pos hneg, if_pos hneg]
      rfl
    · rw [if_neg hneg, if_neg hneg]
      rfl

theorem read_apply_terminated (hinto : readInto P d buffer flags (w, {}) = .terminated) :
    read P d buffer flags w = .terminated := by
  simp [read, Prog.withLocal, hinto]

/-! ## Faithful reads -/

/-- The event after a read: the one that was stored, or else the one that was there. -/
def EventAfter (stored : Option InputEvent) (prev ev : Event) : Prop :=
  match stored with
  | some e => ev.toInput = e
  | none => ev = prev

/-- `read(flags)` ends as the status says, with the event `ev`. -/
structure ReadAgrees (status : Int) (flags : ReadFlag) (ev : Event) (w' : World σ)
    (r : Outcome Exn (World σ) Event) : Prop where
  success : status = 0 ∨ (status = 1 ∧ flags &&& ReadFlag.resync ≠ 0) → r = .returned ev w'
  dropped : status = 1 ∧ flags &&& ReadFlag.resync = 0 → r = .threw (.syncError ev) w'
  error : status < 0 → ∃ what, r = .threw (.std (.systemError (-status) what)) w'

/-- With the given `answer` of `libevdev_next_event`, `read(event, flags)` on the event `prev`
completes, returns the status and leaves the stored event, and `read(flags)` agrees with it.  The
uninitialised events of the two calls hold `buffer₁` and `buffer₂`. -/
structure FaithfulReads (P : Platform σ) (w : World σ) (d : DeviceId) (flags : ReadFlag)
    (prev : Event) (buffer₁ buffer₂ : InputEvent)
    (answer : (Int × Option InputEvent) × σ) : Prop where
  into : ∃ ev, readInto P d buffer₁ flags (w, prev) =
      .returned ⟨answer.1.1⟩ (w.withEnv answer.2, ev) ∧ EventAfter answer.1.2 prev ev
  value : ∃ ev, EventAfter answer.1.2 {} ev ∧
    ReadAgrees answer.1.1 flags ev (w.withEnv answer.2) (read P d buffer₂ flags w)

theorem readAgrees_of_into {status : Int} {w' : World σ} {ev : Event}
    (hinto : readInto P d buffer flags (w, {}) = .returned ⟨status⟩ (w', ev)) :
    ReadAgrees status flags ev w' (read P d buffer flags w) := by
  rw [read_apply hinto]
  -- The three cases of the status exclude each other.
  refine ⟨fun hcase => ?_, fun hcase => ?_, fun hneg => ?_⟩
  · rcases hcase with hzero | ⟨hone, hsync⟩
    · simp [hzero]
    · rw [if_neg fun hbad => hsync hbad.2, if_neg (hone ▸ by decide)]
  · rw [if_pos hcase]
  · have hne : ¬ (status = 1 ∧ flags &&& ReadFlag.resync = 0) := by
      intro hbad
      rw [hbad.1] at hneg
      exact absurd hneg (by decide)
    exact ⟨_, by rw [if_neg hne, if_pos hneg]⟩

/-- An event that was read where none was stored is the one expected only by accident. -/
theorem buffer_of_ofFields {ev : Event} (h : Event.ofFields buffer = ev) :
    buffer = ev.toInput := by
  rw [← h, Event.toInput_ofFields]

/-- A forced synchronisation without an event goes well only if the uninitialised events happen to
hold the events that should have been left. -/
theorem faithful_of_not_stored (hD : w.devices d = some D) (hraw : D.raw = some h)
    {buffer₁ buffer₂ : InputEvent} (hone : (P.libevdevNextEvent h flags w.env).1.1 = 1)
    (hnone : (P.libevdevNextEvent h flags w.env).1.2 = none) :
    FaithfulReads P w d flags prev buffer₁ buffer₂ (P.libevdevNextEvent h flags w.env) ↔
      buffer₁ = prev.toInput ∧ prev.type.value ≤ evMax ∧ buffer₂ = ({} : Event).toInput := by
  have hok : 0 ≤ (P.libevdevNextEvent h flags w.env).1.1 := by
    rw [hone]
    decide
  -- Both calls take the buffer for the event.
  have hends : ∀ (buffer : InputEvent) (prev : Event),
      (buffer.type ≤ evMax → readInto P d buffer flags (w, prev) =
        .returned ⟨(P.libevdevNextEvent h flags w.env).1.1⟩
          (w.withEnv (P.libevdevNextEvent h flags w.env).2, Event.ofFields buffer)) ∧
      (¬ buffer.type ≤ evMax → readInto P d buffer flags (w, prev) = .terminated) := by
    intro buffer prev
    have hget : (P.libevdevNextEvent h flags w.env).1.2.getD buffer = buffer := by simp [hnone]
    refine ⟨fun htype => ?_, fun htype => ?_⟩
    · have hinto := readInto_apply_of_le hD hraw prev hok (hget.symm ▸ htype)
      rw [hget] at hinto
      exact hinto
    · exact readInto_apply_of_gt hD hraw prev hok (hget.symm ▸ htype)
  constructor
  · intro hfaithful
    have hinto : buffer₁ = prev.toInput ∧ prev.type.value ≤ evMax := by
      rcases hfaithful.into with ⟨ev, hret, hafter⟩
      by_cases htype : buffer₁.type ≤ evMax
      · rw [(hends buffer₁ prev).1 htype] at hret
        cases hret
        rw [hnone] at hafter
        have hbuffer : buffer₁ = prev.toInput := buffer_of_ofFields hafter
        rw [hbuffer] at htype
        exact ⟨hbuffer, htype⟩
      · rw [(hends buffer₁ prev).2 htype] at hret
        cases hret
    -- `read(flags)` reads into an event of its own, which starts as the default one.
    have hvalue : buffer₂ = ({} : Event).toInput := by
      rcases hfaithful.value with ⟨ev, hafter, hagrees⟩
      rw [hnone] at hafter
      have hev : ev = {} := hafter
      subst hev
      by_cases htype : buffer₂.type ≤ evMax
      · rw [read_apply ((hends buffer₂ {}).1 htype)] at hagrees
        by_cases hsync : flags &&& ReadFlag.resync = 0
        · have hthrew := hagrees.dropped ⟨hone, hsync⟩
          rw [if_pos ⟨hone, hsync⟩] at hthrew
          exact buffer_of_ofFields (by simpa using hthrew)
        · have hret := hagrees.success (Or.inr ⟨hone, hsync⟩)
          rw [if_neg (fun hbad => hsync hbad.2), if_neg (Int.not_lt.2 hok)] at hret
          exact buffer_of_ofFields (by simpa using hret)
      · rw [read_apply_terminated ((hends buffer₂ {}).2 htype)] at hagrees
        by_cases hsync : flags &&& ReadFlag.resync = 0
        · have hthrew := hagrees.dropped ⟨hone, hsync⟩
          cases hthrew
        · have hret := hagrees.success (Or.inr ⟨hone, hsync⟩)
          cases hret
    exact ⟨hinto.1, hinto.2, hvalue⟩
  · intro hcond
    rcases hcond with ⟨rfl, htype, rfl⟩
    -- With those contents the assignment writes what was there before.
    have hzero : ({} : Event).toInput.type ≤ evMax := by decide
    refine ⟨⟨_, (hends _ prev).1 htype, ?_⟩, ⟨_, ?_, readAgrees_of_into ((hends _ {}).1 hzero)⟩⟩
    · rw [hnone]
      exact Event.ofFields_toInput prev
    · rw [hnone]
      exact Event.ofFields_toInput {}

/-- The reads are faithful exactly when an event is stored or the status is negative, or else the
uninitialised events happen to hold what was there before. -/
theorem faithful_reads_iff (hdoc : P.Documented V) (hD : w.devices d = some D)
    (hvalid : D.raw = some h) {buffer₁ buffer₂ : InputEvent} :
    FaithfulReads P w d flags prev buffer₁ buffer₂ (P.libevdevNextEvent h flags w.env) ↔
      ((P.libevdevNextEvent h flags w.env).1.2 = none →
        0 ≤ (P.libevdevNextEvent h flags w.env).1.1 →
          buffer₁ = prev.toInput ∧ prev.type.value ≤ evMax ∧
            buffer₂ = ({} : Event).toInput) := by
  rcases hdoc.libevdevNextEvent h flags w.env with ⟨hstored, hforced, hexists⟩
  by_cases hneg : (P.libevdevNextEvent h flags w.env).1.1 < 0
  · have hnone := hstored hneg
    refine ⟨fun _ _ hok => absurd hneg (Int.not_lt.2 hok), fun _ => ?_⟩
    refine ⟨⟨prev, readInto_apply_negative hD hvalid prev hneg, ?_⟩, ⟨{}, ?_, readAgrees_of_into
      (readInto_apply_negative hD hvalid {} hneg)⟩⟩
    · rw [hnone]
      rfl
    · rw [hnone]
      rfl
  · have hok : 0 ≤ (P.libevdevNextEvent h flags w.env).1.1 := Int.not_lt.1 hneg
    cases hev : (P.libevdevNextEvent h flags w.env).1.2 with
    | none =>
        rw [faithful_of_not_stored hD hvalid (hforced hev hok).2 hev]
        exact ⟨fun hcond _ _ => hcond, fun hcond => hcond rfl hok⟩
    | some e =>
        -- The stored event replaces whatever the local event held.
        have hget : ∀ buffer, (P.libevdevNextEvent h flags w.env).1.2.getD buffer = e := by
          intro buffer
          simp [hev]
        have hinto : ∀ (buffer : InputEvent) (prev : Event),
            readInto P d buffer flags (w, prev) =
              .returned ⟨(P.libevdevNextEvent h flags w.env).1.1⟩
                (w.withEnv (P.libevdevNextEvent h flags w.env).2, Event.ofFields e) := by
          intro buffer prev
          have htype : ((P.libevdevNextEvent h flags w.env).1.2.getD buffer).type ≤ evMax := by
            rw [hget buffer]
            exact hexists e hev
          have hret := readInto_apply_of_le hD hvalid prev hok htype
          rw [hget buffer] at hret
          exact hret
        refine ⟨fun _ hbad => (by cases hbad), fun _ => ?_⟩
        refine ⟨⟨_, hinto buffer₁ prev, ?_⟩, ⟨_, ?_, readAgrees_of_into (hinto buffer₂ {})⟩⟩
        · rw [hev]
          exact Event.toInput_ofFields e
        · rw [hev]
          exact Event.toInput_ofFields e

/-- A key press is stored. -/
theorem faithful_reads_iff_stored :
    FaithfulReads Script.platform
        (Script.withDevice { events := [(0, some ⟨1, 2, 1, 30, 1⟩)] }) 0 ReadFlag.normal {}
        ⟨0, 0, 0xffff, 0, 0⟩ ⟨0, 0, 0xffff, 0, 0⟩
        (Script.platform.libevdevNextEvent 0 ReadFlag.normal
          (Script.withDevice { events := [(0, some ⟨1, 2, 1, 30, 1⟩)] }).env) ↔
      ((Script.platform.libevdevNextEvent 0 ReadFlag.normal
          (Script.withDevice { events := [(0, some ⟨1, 2, 1, 30, 1⟩)] }).env).1.2 = none →
        0 ≤ (Script.platform.libevdevNextEvent 0 ReadFlag.normal
          (Script.withDevice { events := [(0, some ⟨1, 2, 1, 30, 1⟩)] }).env).1.1 →
        (⟨0, 0, 0xffff, 0, 0⟩ : InputEvent) = ({} : Event).toInput ∧
          ({} : Event).type.value ≤ evMax ∧
          (⟨0, 0, 0xffff, 0, 0⟩ : InputEvent) = ({} : Event).toInput) :=
  faithful_reads_iff Script.documented rfl rfl

/-- A forced synchronisation reports `LIBEVDEV_READ_STATUS_SYNC` and stores nothing: an event type
that does not exist in the uninitialised event terminates the program. -/
theorem forced_read_terminates :
    ¬ FaithfulReads Script.platform (Script.withDevice { events := [(1, none)] }) 0
        ReadFlag.forceSync {} ⟨0, 0, 0xffff, 0, 0⟩ ⟨0, 0, 0xffff, 0, 0⟩
        (Script.platform.libevdevNextEvent 0 ReadFlag.forceSync
          (Script.withDevice { events := [(1, none)] }).env) := by
  intro hfaithful
  have hterminated : readInto Script.platform 0 ⟨0, 0, 0xffff, 0, 0⟩ ReadFlag.forceSync
      (Script.withDevice { events := [(1, none)] }, {}) = .terminated :=
    readInto_apply_of_gt (h := 0) rfl rfl {} (by decide) (by decide)
  rcases hfaithful.into with ⟨ev, hret, _⟩
  rw [hterminated] at hret
  cases hret

end Device

end Evdevxx
