import Evdevxx.Tools.Reader

/-!
# Transcript — what the reader prints, whatever it is told

Libevdev may report any error, also -EAGAIN where no event is left, and a signal may arrive at any
time.  `Move` lists the moves of the loop for every answer; it is `Turn` without the promise that
nothing goes wrong.

An error ends the program, but for one that ends a drain: it is not looked at, and the loop takes the
synchronisation for restored.
-/

namespace Evdevxx

namespace Device

/-- `has_pending()` returns what libevdev answers, or throws its error. -/
theorem hasPending_apply_negative {σ : Type} (R : Polling σ) {w : World σ} {d : DeviceId}
    {D : Device} {h : Handle} (hD : w.devices d = some D) (hraw : D.raw = some h)
    (hneg : (R.libevdevHasEventPending h w.env).1 < 0) :
    hasPending R d w =
      .threw (.std (.systemError (-(R.libevdevHasEventPending h w.env).1)
          (some "libevdev_has_event_pending()")))
        (w.withEnv (R.libevdevHasEventPending h w.env).2) := by
  simp [hasPending, hD, hraw, hneg]

end Device

theorem ReadFlag.normal_ne_resync : ReadFlag.normal ≠ ReadFlag.resync := by decide

namespace Reader

namespace Answer

/-- The error that an answer reports, as the exception for it.  A drain ends with -EAGAIN. -/
def failure : Answer → Option StdError
  | .quit _ => none
  | .pending val =>
      if val < 0 then some (.systemError (-val) (some "libevdev_has_event_pending()")) else none
  | .read flags val _ =>
      if val < 0 ∧ ¬ (flags = ReadFlag.resync ∧ val = -11) then
        some (.systemError (-val) (some "libevdev_next_event()"))
      else
        none

/-- The drain ends, but not with -EAGAIN: libevdev has not restored the synchronisation. -/
def CutsShort : Answer → Prop
  | .read flags val _ => flags = ReadFlag.resync ∧ val ≠ 1 ∧ val ≠ -11
  | _ => False

instance : DecidablePred CutsShort
  | .quit _ => inferInstanceAs (Decidable False)
  | .pending _ => inferInstanceAs (Decidable False)
  | .read flags val _ =>
      inferInstanceAs (Decidable (flags = ReadFlag.resync ∧ val ≠ 1 ∧ val ≠ -11))

/-- The answer reports no error, or one that cuts a drain short, which the loop does not look at. -/
def Unnoticed (l : Answer) : Prop :=
  l.failure ≠ none → l.CutsShort

/-- The lines that are printed for an answer while the loop goes on.  What ends a drain is printed as
restored, also if it cuts it short. -/
def printed : Answer → List Line
  | .read flags val (some e) =>
      if flags = ReadFlag.resync then
        if val = 1 then [.delta (Event.ofFields e)] else [.syncRestored]
      else if val = 1 then
        [.lostSync]
      else
        [.event (Event.ofFields e)]
  | .read flags _ none => if flags = ReadFlag.resync then [.syncRestored] else []
  | _ => []

end Answer

/-- The lines of the loop and the next position, for every position and every answer. -/
inductive Move : Position → Answer → List Line → Position → Prop where
  | outer : Move .outer (.quit false) [] .waiting
  | waiting : Move .waiting (.quit false) [] .polling
  | interrupted : Move .waiting (.quit true) [] .checking
  | idle : Move .polling (.pending 0) [] .waiting
  | ready {val : Int} : 0 < val → Move .polling (.pending val) [] .checking
  | checking : Move .checking (.quit false) [] .reading
  | quitOuter : Move .outer (.quit true) [.exiting] (.exited 0)
  | quitChecking : Move .checking (.quit true) [.exiting] (.exited 0)
  | pendingFailed {val : Int} {e : StdError} : (Answer.pending val).failure = some e →
      Move .polling (.pending val) [.error (.std e)] (.exited (-1))
  | readFailed {val : Int} {e : StdError} :
      (Answer.read ReadFlag.normal val none).failure = some e →
      Move .reading (.read ReadFlag.normal val none) [.error (.std e)] (.exited (-1))
  | success {val : Int} (e : InputEvent) : 0 ≤ val → val ≠ 1 →
      Move .reading (.read ReadFlag.normal val (some e)) [.event (Event.ofFields e)] .outer
  | dropped (e : InputEvent) :
      Move .reading (.read ReadFlag.normal 1 (some e)) [.lostSync] .draining
  | delta (e : InputEvent) :
      Move .draining (.read ReadFlag.resync 1 (some e)) [.delta (Event.ofFields e)] .draining
  | restored : Move .draining (.read ReadFlag.resync (-11) none) [.syncRestored] .outer
  | cutShort {val : Int} (stored : Option InputEvent) :
      (Answer.read ReadFlag.resync val stored).CutsShort →
      Move .draining (.read ReadFlag.resync val stored) [.syncRestored] .outer

/-- From a dropped notification on the loop is in the drain, whatever ends it, and no event may be read
in normal mode. -/
def drainMonitor : Monitor Answer Bool where
  start := false
  next draining
    | .read flags val _ =>
        if flags = ReadFlag.resync then decide (val = 1) else draining || decide (val = 1)
    | _ => draining
  allowed draining
    | .read flags _ _ => flags = ReadFlag.normal → draining = false
    | _ => True

/-- Behind a drain that was cut short no event may be read in normal mode. -/
def cutMonitor : Monitor Answer Bool where
  start := false
  next cut l := cut || decide l.CutsShort
  allowed cut
    | .read flags _ _ => flags = ReadFlag.normal → cut = false
    | _ => True

/-! ## The steps of the loop are moves -/

section Steps

variable {σ : Type} {P : Platform σ} {V : Views σ} {R : Polling σ} {dev : DeviceId}
variable {buffer : World σ → InputEvent} {s s' : State σ} {l : Answer}

/-- From `s` to `s'` the loop makes a move, and its device stays valid. -/
structure Moves (dev : DeviceId) (s : State σ) (l : Answer) (s' : State σ) : Prop where
  valid : Device.Valid s'.world dev
  move : ∃ ls, Move s.position l ls s'.position ∧ s'.out = s.out ++ ls

theorem moves_polling (hpos : s.position = .polling) (hvalid : Device.Valid s.world dev)
    (hstep : Step P R dev buffer s l s') : Moves dev s l s' := by
  rcases hvalid with ⟨D, h, hD, hraw⟩
  have hvalid : Device.Valid s.world dev := ⟨D, h, hD, hraw⟩
  simp only [Step, next, hpos, handle_eq hD hraw, Option.some.injEq, Prod.mk.injEq] at hstep
  rcases hstep with ⟨rfl, rfl⟩
  by_cases hneg : (R.libevdevHasEventPending h s.world.env).1 < 0
  · rw [Device.hasPending_apply_negative R hD hraw hneg]
    exact ⟨hvalid, _, hpos ▸ Move.pendingFailed (if_pos hneg), rfl⟩
  · have hok : 0 ≤ (R.libevdevHasEventPending h s.world.env).1 := Int.not_lt.1 hneg
    rw [Device.hasPending_apply R hD hraw hok]
    by_cases hzero : (R.libevdevHasEventPending h s.world.env).1 = 0
    · rw [hzero]
      exact ⟨hvalid, [], hpos ▸ Move.idle, (List.append_nil _).symm⟩
    · rw [decide_eq_true hzero]
      have hready : 0 < (R.libevdevHasEventPending h s.world.env).1 := by omega
      exact ⟨hvalid, [], hpos ▸ Move.ready hready, (List.append_nil _).symm⟩

theorem moves_reading (hdoc : P.Documented V) (hpos : s.position = .reading)
    (hvalid : Device.Valid s.world dev) (hstep : Step P R dev buffer s l s') :
    Moves dev s l s' := by
  rcases hvalid with ⟨D, h, hD, hraw⟩
  have hvalid : Device.Valid s.world dev := ⟨D, h, hD, hraw⟩
  simp only [Step, next, hpos, handle_eq hD hraw, Option.some.injEq, Prod.mk.injEq] at hstep
  rcases hstep with ⟨rfl, rfl⟩
  rcases nextEvent_cases hdoc h ReadFlag.normal s.world.env (by decide) with
    ⟨val, env', hans, hneg⟩ | ⟨val, e, env', hans, hok⟩
  · have hval : ¬ val = 1 := fun h => absurd (h ▸ hneg) (by decide)
    rw [hans, Device.read_apply (readInto_of_error hD hraw hans hneg), if_neg (by simp [hval]),
      if_pos hneg]
    exact ⟨hvalid, _,
      hpos ▸ Move.readFailed (if_pos ⟨hneg, fun h => ReadFlag.normal_ne_resync h.1⟩), rfl⟩
  · rw [hans, Device.read_apply (readInto_of_stored hdoc hD hraw hans hok)]
    by_cases hval : val = 1
    · subst hval
      exact ⟨hvalid, _, hpos ▸ Move.dropped e, rfl⟩
    · rw [if_neg (by simp [hval]), if_neg (Int.not_lt.2 hok)]
      exact ⟨hvalid, _, hpos ▸ Move.success e hok hval, rfl⟩

theorem moves_draining (hdoc : P.Documented V) (hpos : s.position = .draining)
    (hvalid : Device.Valid s.world dev) (hstep : Step P R dev buffer s l s') :
    Moves dev s l s' := by
  rcases hvalid with ⟨D, h, hD, hraw⟩
  have hvalid : Device.Valid s.world dev := ⟨D, h, hD, hraw⟩
  simp only [Step, next, hpos, handle_eq hD hraw, Option.some.injEq, Prod.mk.injEq] at hstep
  rcases hstep with ⟨rfl, rfl⟩
  rcases nextEvent_cases hdoc h ReadFlag.resync s.world.env (by decide) with
    ⟨val, env', hans, hneg⟩ | ⟨val, e, env', hans, hok⟩
  · have hval : val ≠ 1 := fun h => absurd (h ▸ hneg) (by decide)
    have hdrop : (⟨val⟩ : ReadStatus) ≠ ReadStatus.dropped := by simp [ReadStatus.dropped, hval]
    rw [hans, readInto_of_error hD hraw hans hneg]
    simp only [hdrop, if_false]
    by_cases hagain : val = -11
    · subst hagain
      exact ⟨hvalid, _, hpos ▸ Move.restored, rfl⟩
    · exact ⟨hvalid, _, hpos ▸ Move.cutShort none ⟨rfl, hval, hagain⟩, rfl⟩
  · rw [hans, readInto_of_stored hdoc hD hraw hans hok]
    by_cases hval : val = 1
    · subst hval
      exact ⟨hvalid, _, hpos ▸ Move.delta e, rfl⟩
    · have hdrop : (⟨val⟩ : ReadStatus) ≠ ReadStatus.dropped := by simp [ReadStatus.dropped, hval]
      have hagain : val ≠ -11 := fun h => absurd (h ▸ hok) (by decide)
      simp only [hdrop, if_false]
      exact ⟨hvalid, _, hpos ▸ Move.cutShort (some e) ⟨rfl, hval, hagain⟩, rfl⟩

theorem moves_checkQuit {stop : State σ → State σ} {p : Position}
    (hvalid : Device.Valid s.world dev)
    (hstep : some (checkQuit R s stop fun s => { s with position := p }) = some (l, s'))
    (hgo : Move s.position (.quit false) [] p)
    (hstop : ∀ w : World σ, w.devices = s.world.devices →
      Moves dev s (.quit true) (stop { s with world := w })) : Moves dev s l s' := by
  simp only [checkQuit, Option.some.injEq, Prod.mk.injEq] at hstep
  rcases hstep with ⟨rfl, rfl⟩
  cases hquit : (R.shouldQuit s.world.env).1 with
  | true => exact hstop _ rfl
  | false => exact ⟨hvalid, [], hgo, (List.append_nil _).symm⟩

/-- Every step of the loop is a move. -/
theorem step_moves (hdoc : P.Documented V) (hvalid : Device.Valid s.world dev)
    (hstep : Step P R dev buffer s l s') : Moves dev s l s' := by
  have hkeeps : ∀ w : World σ, w.devices = s.world.devices → Device.Valid w dev := by
    intro w hw
    rcases hvalid with ⟨D, h, hD, hraw⟩
    exact ⟨D, h, hw ▸ hD, hraw⟩
  cases hpos : s.position with
  | outer =>
      simp only [Step, next, hpos] at hstep
      exact moves_checkQuit hvalid hstep (hpos ▸ Move.outer) fun w hw =>
        ⟨hkeeps w hw, _, hpos ▸ Move.quitOuter, rfl⟩
  | waiting =>
      simp only [Step, next, hpos] at hstep
      exact moves_checkQuit hvalid hstep (hpos ▸ Move.waiting) fun w hw =>
        ⟨hkeeps w hw, [], hpos ▸ Move.interrupted, (List.append_nil _).symm⟩
  | polling => exact moves_polling hpos hvalid hstep
  | checking =>
      simp only [Step, next, hpos] at hstep
      exact moves_checkQuit hvalid hstep (hpos ▸ Move.checking) fun w hw =>
        ⟨hkeeps w hw, _, hpos ▸ Move.quitChecking, rfl⟩
  | reading => exact moves_reading hdoc hpos hvalid hstep
  | draining => exact moves_draining hdoc hpos hvalid hstep
  | exited code => simp [Step, next, hpos] at hstep
  | crashed => simp [Step, next, hpos] at hstep

end Steps

/-! ## Runs -/

/-- How the loop stands after the answers `labels`, and the last line if it has ended: the farewell
behind a set flag, or the first error that did not just cut a drain short. -/
inductive Ending (labels : List Answer) : Position → List Line → Prop where
  | running {p : Position} : p.Running → (∀ l ∈ labels, l.Unnoticed) → Ending labels p []
  | quit (before : List Answer) : labels = before ++ [.quit true] →
      (∀ l ∈ labels, l.Unnoticed) → Ending labels (.exited 0) [.exiting]
  | failed (before : List Answer) (l : Answer) (e : StdError) : labels = before ++ [l] →
      (∀ l' ∈ before, l'.Unnoticed) → l.failure = some e → ¬ l.CutsShort →
      Ending labels (.exited (-1)) [.error (.std e)]

/-- Everything that the loop has done, told by the answers alone. -/
structure Transcript {σ : Type} (labels : List Answer) (s : State σ) : Prop where
  /-- The lines owed for the answers, in their order, and then the last line. -/
  printed : ∃ last, s.out = labels.flatMap Answer.printed ++ last ∧ Ending labels s.position last
  /-- No read in normal mode happened in a drain. -/
  drained : drainMonitor.Accepts labels
  /-- One happened while the synchronisation was lost only behind a drain that was cut short. -/
  synced : syncMonitor.Accepts labels ↔ cutMonitor.Accepts labels

section Runs

variable {σ : Type} {P : Platform σ} {V : Views σ} {R : Polling σ} {dev : DeviceId}
variable {buffer : World σ → InputEvent} {s s' : State σ} {l : Answer} {labels : List Answer}
variable {w : World σ} {p p' : Position} {ls : List Line}

theorem Answer.unnoticed_of_none (h : l.failure = none) : l.Unnoticed :=
  fun hne => absurd h hne

theorem Answer.failure_pending {val : Int} (h : 0 ≤ val) : (Answer.pending val).failure = none :=
  if_neg (Int.not_lt.2 h)

theorem Answer.failure_read {flags : ReadFlag} {val : Int} {stored : Option InputEvent}
    (h : 0 ≤ val) : (Answer.read flags val stored).failure = none :=
  if_neg fun hbad => Int.not_lt.2 h hbad.1

/-- A move that the loop survives owes its lines to an answer whose error, if any, it does not look
at. -/
theorem Move.ending (h : Move p l ls p') (hbefore : ∀ l ∈ labels, l.Unnoticed) :
    ∃ last, ls = l.printed ++ last ∧ Ending (labels ++ [l]) p' last := by
  have hall : l.Unnoticed → ∀ l' ∈ labels ++ [l], l'.Unnoticed := by
    intro hl l' hl'
    rcases List.mem_append.1 hl' with hold | hnew
    · exact hbefore l' hold
    · exact List.mem_singleton.1 hnew ▸ hl
  have hquiet : l.Unnoticed → p'.Running → ls = l.printed →
      ∃ last, ls = l.printed ++ last ∧ Ending (labels ++ [l]) p' last :=
    fun hl hp hls => ⟨[], by rw [hls, List.append_nil], .running hp (hall hl)⟩
  have hrunning : l.failure = none → p'.Running → ls = l.printed →
      ∃ last, ls = l.printed ++ last ∧ Ending (labels ++ [l]) p' last :=
    fun hl => hquiet (Answer.unnoticed_of_none hl)
  cases h with
  | outer => exact hrunning rfl trivial rfl
  | waiting => exact hrunning rfl trivial rfl
  | interrupted => exact hrunning rfl trivial rfl
  | idle => exact hrunning rfl trivial rfl
  | ready hpos => exact hrunning (Answer.failure_pending (Int.le_of_lt hpos)) trivial rfl
  | checking => exact hrunning rfl trivial rfl
  | quitOuter => exact ⟨_, rfl, .quit labels rfl (hall (Answer.unnoticed_of_none rfl))⟩
  | quitChecking => exact ⟨_, rfl, .quit labels rfl (hall (Answer.unnoticed_of_none rfl))⟩
  | pendingFailed hfailed => exact ⟨_, rfl, .failed labels _ _ rfl hbefore hfailed id⟩
  | readFailed hfailed =>
      exact ⟨_, rfl, .failed labels _ _ rfl hbefore hfailed fun hcut =>
        ReadFlag.normal_ne_resync hcut.1⟩
  | success e hok hval =>
      refine hrunning (Answer.failure_read hok) trivial ?_
      simp [Answer.printed, hval, ReadFlag.normal_ne_resync]
  | dropped e => exact hrunning rfl trivial rfl
  | delta e => exact hrunning rfl trivial rfl
  | restored => exact hrunning rfl trivial rfl
  | cutShort stored hcut =>
      refine hquiet (fun _ => hcut) trivial ?_
      cases stored with
      | none => rfl
      | some e => simp [Answer.printed, hcut.2.1]

/-- A move follows the drain. -/
theorem Move.drained (h : Move p l ls p') :
    drainMonitor.allowed (decide (p = .draining)) l ∧
      drainMonitor.next (decide (p = .draining)) l = decide (p' = .draining) := by
  cases h with
  | success e hok hval => exact ⟨fun _ => rfl, by simp [drainMonitor, hval]⟩
  | @readFailed val e hfailed =>
      have hval : val ≠ 1 := by
        rintro rfl
        cases hfailed
      exact ⟨fun _ => rfl, by simp [drainMonitor, hval]⟩
  | dropped e => exact ⟨fun _ => rfl, rfl⟩
  | delta e => exact ⟨fun hbad => absurd hbad (by decide), rfl⟩
  | restored => exact ⟨fun hbad => absurd hbad (by decide), rfl⟩
  | cutShort stored hcut =>
      exact ⟨fun hbad => absurd hbad (by decide), by simp [drainMonitor, hcut.2.1]⟩
  | pendingFailed hfailed => exact ⟨trivial, rfl⟩
  | outer => exact ⟨trivial, rfl⟩
  | waiting => exact ⟨trivial, rfl⟩
  | interrupted => exact ⟨trivial, rfl⟩
  | idle => exact ⟨trivial, rfl⟩
  | ready hpos => exact ⟨trivial, rfl⟩
  | checking => exact ⟨trivial, rfl⟩
  | quitOuter => exact ⟨trivial, rfl⟩
  | quitChecking => exact ⟨trivial, rfl⟩

/-- The synchronisation is lost in the drain and behind one that was cut short, and no drain begins
behind such a one. -/
def Lost (p : Position) (lost cut : Bool) : Prop :=
  lost = (decide (p = .draining) || cut) ∧ (p = .draining → cut = false)

theorem Lost.outside (hp : p ≠ .draining) (cut : Bool) : Lost p cut cut :=
  ⟨by simp [hp], fun hbad => absurd hbad hp⟩

/-- A read in the drain is always allowed. -/
theorem allowed_resync {val : Int} {stored : Option InputEvent} (lost cut : Bool) :
    syncMonitor.allowed lost (.read ReadFlag.resync val stored) ↔
      cutMonitor.allowed cut (.read ReadFlag.resync val stored) :=
  ⟨fun _ hbad => absurd hbad.symm ReadFlag.normal_ne_resync,
    fun _ hbad => absurd hbad.symm ReadFlag.normal_ne_resync⟩

/-- A read in normal mode that loses nothing changes nothing. -/
theorem next_normal {val : Int} {stored : Option InputEvent} (hval : val ≠ 1) (cut : Bool) :
    syncMonitor.next cut (.read ReadFlag.normal val stored) = cut ∧
      cutMonitor.next cut (.read ReadFlag.normal val stored) = cut := by
  simp [syncMonitor, cutMonitor, Answer.CutsShort, hval, ReadFlag.normal_ne_resync]

/-- A move follows the synchronisation. -/
theorem Move.synced (h : Move p l ls p') {lost cut : Bool} (hlost : Lost p lost cut) :
    (syncMonitor.allowed lost l ↔ cutMonitor.allowed cut l) ∧
      (cutMonitor.allowed cut l → Lost p' (syncMonitor.next lost l) (cutMonitor.next cut l)) := by
  rcases hlost with ⟨rfl, hcut⟩
  cases h with
  | success e hok hval =>
      refine ⟨Iff.rfl, fun _ => ?_⟩
      rw [show (decide (Position.reading = .draining) || cut) = cut from Bool.false_or cut,
        (next_normal hval cut).1, (next_normal hval cut).2]
      exact Lost.outside (by decide) cut
  | @readFailed val e hfailed =>
      have hval : val ≠ 1 := by
        rintro rfl
        cases hfailed
      refine ⟨Iff.rfl, fun _ => ?_⟩
      rw [show (decide (Position.reading = .draining) || cut) = cut from Bool.false_or cut,
        (next_normal hval cut).1, (next_normal hval cut).2]
      exact Lost.outside (by simp) cut
  | dropped e =>
      -- No drain was cut short before a read that was allowed.
      refine ⟨Iff.rfl, fun hallowed => ?_⟩
      have hnone : cut = false := hallowed rfl
      subst hnone
      exact ⟨rfl, fun _ => rfl⟩
  | delta e =>
      have hnone := hcut rfl
      subst hnone
      exact ⟨allowed_resync _ _, fun _ => ⟨rfl, fun _ => rfl⟩⟩
  | restored =>
      have hnone := hcut rfl
      subst hnone
      exact ⟨allowed_resync _ _, fun _ => Lost.outside (by decide) false⟩
  | cutShort stored hshort =>
      -- The first drain that is cut short: the synchronisation stays lost.
      have hnone := hcut rfl
      subst hnone
      refine ⟨allowed_resync _ _, fun _ => ?_⟩
      exact ⟨by simp [syncMonitor, cutMonitor, hshort, hshort.2.2], fun hbad => by cases hbad⟩
  | _ =>
      refine ⟨Iff.rfl, fun _ => ?_⟩
      cases cut with
      | _ => exact Lost.outside (by simp) _

/-- What the moves keep. -/
structure Tracked (dev : DeviceId) (labels : List Answer) (s : State σ) : Prop where
  valid : Device.Valid s.world dev
  printed : ∃ last, s.out = labels.flatMap Answer.printed ++ last ∧ Ending labels s.position last
  drained : drainMonitor.Accepts labels
  draining : drainMonitor.state labels = decide (s.position = .draining)
  synced : syncMonitor.Accepts labels ↔ cutMonitor.Accepts labels
  lost : cutMonitor.Accepts labels →
    Lost s.position (syncMonitor.state labels) (cutMonitor.state labels)

/-- From where a step is possible no error was looked at and nothing is left to print. -/
theorem Ending.of_step {last : List Line} (h : Ending labels s.position last)
    (hstep : Step P R dev buffer s l s') : last = [] ∧ ∀ l ∈ labels, l.Unnoticed := by
  cases hpos : s.position with
  | exited code => exact absurd hstep (no_step hpos)
  | crashed => simp [Step, next, hpos] at hstep
  | _ =>
      rw [hpos] at h
      cases h with
      | running _ hnone => exact ⟨rfl, hnone⟩

theorem tracked_start (hvalid : Device.Valid w dev) : Tracked dev [] (start w) where
  valid := hvalid
  printed := ⟨[], rfl, .running trivial (by simp)⟩
  drained := drainMonitor.accepts_nil
  draining := rfl
  synced := ⟨fun _ => cutMonitor.accepts_nil, fun _ => syncMonitor.accepts_nil⟩
  lost := fun _ => Lost.outside (show Position.outer ≠ .draining by decide) false

theorem run_tracked (hdoc : P.Documented V) (hvalid : Device.Valid w dev)
    (run : Run (Step P R dev buffer) (start w) labels s) : Tracked dev labels s := by
  induction run with
  | nil => exact tracked_start hvalid
  | @snoc labels s s' l run hstep ih =>
      rcases ih.printed with ⟨last, hout, hending⟩
      rcases hending.of_step hstep with ⟨rfl, hnone⟩
      rcases step_moves hdoc ih.valid hstep with ⟨hvalid', ls, hmove, hout'⟩
      rcases hmove.ending hnone with ⟨last, hls, hending'⟩
      rcases hmove.drained with ⟨hallowed, hnext⟩
      refine ⟨hvalid', ⟨last, ?_, hending'⟩, ?_, ?_, ?_, ?_⟩
      · rw [hout', hout, hls, List.append_nil, List.flatMap_append, List.flatMap_singleton,
          List.append_assoc]
      · exact drainMonitor.accepts_snoc.2 ⟨ih.drained, ih.draining ▸ hallowed⟩
      · rw [Monitor.state_snoc, ih.draining, hnext]
      · rw [Monitor.accepts_snoc, Monitor.accepts_snoc, ih.synced]
        exact and_congr_right fun haccepts => (hmove.synced (ih.lost haccepts)).1
      · intro haccepts
        rcases cutMonitor.accepts_snoc.1 haccepts with ⟨hbefore, hcut⟩
        rw [Monitor.state_snoc, Monitor.state_snoc]
        exact (hmove.synced (ih.lost hbefore)).2 hcut

/-- Whatever the loop is told, it does not crash: it goes on, or it has ended with the code 0 behind
a set flag or with the code -1 at the first error that did not just cut a drain short, and its output is
what it owes for the answers.  It takes a drain that was cut short for one that has restored the
synchronisation, and there alone may it read while the synchronisation is lost. -/
theorem reader_transcript (hdoc : P.Documented V) (hvalid : Device.Valid w dev)
    (run : Run (Step P R dev buffer) (start w) labels s) : Transcript labels s :=
  let htracked := run_tracked hdoc hvalid run
  ⟨htracked.printed, htracked.drained, htracked.synced⟩

/-- The device is unplugged while the synchronisation is lost: the drain is cut short, and the next
read, with the synchronisation still lost, ends the program. -/
theorem reader_transcript_unplugged :
    ∃ (s : State Script) (labels : List Answer),
      labels = polled ++ [.read ReadFlag.normal 1 (some ⟨1, 3, 0, 3, 0⟩),
          .read ReadFlag.resync (-19) none] ++ polled ++ [.read ReadFlag.normal (-19) none] ∧
      s.position = .exited (-1) ∧ Transcript labels s ∧ ¬ syncMonitor.Accepts labels := by
  have hvalid : Device.Valid (Script.withDevice { events := [(1, some ⟨1, 3, 0, 3, 0⟩),
      (-19, none), (-19, none)] }) 0 := ⟨{ raw := some 0 }, 0, rfl, rfl⟩
  have hrun := run_firstSteps 11 [(1, some ⟨1, 3, 0, 3, 0⟩), (-19, none), (-19, none)]
  have htranscript := reader_transcript Script.documented hvalid hrun
  refine ⟨_, _, by decide, by decide, htranscript, fun haccepts => ?_⟩
  have hallowed := htranscript.synced.1 haccepts (firstSteps 10 [(1, some ⟨1, 3, 0, 3, 0⟩),
    (-19, none), (-19, none)]).1 (.read ReadFlag.normal (-19) none) [] (by decide) rfl
  revert hallowed
  decide

/-! ## Signals -/

/-- The answer is a dropped notification, read in normal mode. -/
def Answer.Dropped : Answer → Prop
  | .read flags val _ => flags = ReadFlag.normal ∧ val = 1
  | _ => False

/-- How many answers the loop can still get once the flag is set, outside of the drain. -/
def Position.left : Position → Nat
  | .polling => 3
  | .waiting => 2
  | .reading => 2
  | .outer => 1
  | .checking => 1
  | _ => 0

/-- With the flag set, every move that does not lose the synchronisation comes closer to the end. -/
theorem Move.closer (h : Move p l ls p') (hp : p ≠ .draining) (hset : l ≠ .quit false)
    (hsync : ¬ l.Dropped) : p'.left < p.left ∧ p' ≠ .draining := by
  cases h with
  | outer => exact absurd rfl hset
  | waiting => exact absurd rfl hset
  | checking => exact absurd rfl hset
  | dropped e => exact absurd ⟨rfl, rfl⟩ hsync
  | delta e => exact absurd rfl hp
  | restored => exact absurd rfl hp
  | cutShort stored hcut => exact absurd rfl hp
  | _ => exact ⟨by decide, by simp⟩

/-- A loop that can get no more answers has ended. -/
theorem exited_of_left (hp : p ≠ .draining) (hcrash : p ≠ .crashed) (hleft : p.left = 0) :
    ∃ code, p = .exited code := by
  cases p with
  | exited code => exact ⟨code, rfl⟩
  | draining => exact absurd rfl hp
  | crashed => exact absurd rfl hcrash
  | _ => cases hleft

/-- The flag is set from `s` on. -/
theorem run_closer (hdoc : P.Documented V) (hvalid : Device.Valid s.world dev)
    (hpos : s.position ≠ .draining) (run : Run (Step P R dev buffer) s labels s')
    (hset : ∀ l ∈ labels, l ≠ .quit false) (hsync : ∀ l ∈ labels, ¬ l.Dropped) :
    Device.Valid s'.world dev ∧ s'.position ≠ .draining ∧
      labels.length + s'.position.left ≤ s.position.left := by
  induction run with
  | nil => exact ⟨hvalid, hpos, by simp⟩
  | @snoc labels s₁ s₂ l run hstep ih =>
      rcases ih (fun l' hl' => hset l' (List.mem_append_left _ hl'))
        fun l' hl' => hsync l' (List.mem_append_left _ hl') with ⟨hvalid', hpos', hle⟩
      rcases step_moves hdoc hvalid' hstep with ⟨hvalid'', ls, hmove, _⟩
      rcases hmove.closer hpos' (hset l (by simp)) (hsync l (by simp)) with ⟨hlt, hpos''⟩
      refine ⟨hvalid'', hpos'', ?_⟩
      rw [List.length_append, List.length_singleton]
      omega

/-- Once the flag is set, and unless the loop is in a drain or gets into one, it gets at most three more
answers.  It has then ended, with the code 0 if libevdev has reported no error outside of a drain. -/
theorem reader_stops {labels' : List Answer} (hdoc : P.Documented V)
    (hvalid : Device.Valid w dev) (run : Run (Step P R dev buffer) (start w) (labels ++ labels') s)
    (hdrained : drainMonitor.state labels = false) (hset : ∀ l ∈ labels', l ≠ .quit false)
    (hsync : ∀ l ∈ labels', ¬ l.Dropped) :
    labels'.length ≤ 3 ∧ (labels'.length = 3 → ∃ code, s.position = .exited code) ∧
      ∀ code, s.position = .exited code →
        code = 0 ∨ code = -1 ∧ ∃ l ∈ labels ++ labels', l.failure ≠ none ∧ ¬ l.CutsShort := by
  rcases run.split with ⟨s₁, hbefore, hafter⟩
  have htracked := run_tracked hdoc hvalid hbefore
  have hpos : s₁.position ≠ .draining := by
    intro hbad
    rw [htracked.draining, hbad] at hdrained
    cases hdrained
  rcases run_closer hdoc htracked.valid hpos hafter hset hsync with ⟨_, hpos', hle⟩
  have hbound : s₁.position.left ≤ 3 := by
    cases s₁.position <;> simp [Position.left]
  rcases (run_tracked hdoc hvalid run).printed with ⟨last, _, hending⟩
  refine ⟨by omega, fun hthree => exited_of_left hpos' ?_ (by omega), fun code hcode => ?_⟩
  · intro hcrash
    rw [hcrash] at hending
    cases hending with
    | running hrunning _ => exact hrunning
  · rw [hcode] at hending
    cases hending with
    | running hrunning _ => exact hrunning.elim
    | quit before hlabels hnone => exact Or.inl rfl
    | failed before l e hlabels hnone hfailed hcut =>
        exact Or.inr ⟨rfl, l, by simp [hlabels], by simp [hfailed], hcut⟩

/-- A signal arrives when the script has ended. -/
def interrupted : Polling Script :=
  { scripted with shouldQuit := fun s => (s.events.isEmpty, s) }

/-- A key press is read, and the next check sees the flag. -/
theorem reader_stops_interrupted :
    ∃ s, Run (Step Script.platform interrupted 0 fun _ => ⟨0, 0, 0, 0, 0⟩)
        (start (Script.withDevice { events := [(0, some ⟨1, 2, 1, 30, 1⟩)] }))
        (polled ++ [.read ReadFlag.normal 0 (some ⟨1, 2, 1, 30, 1⟩)] ++ [.quit true]) s ∧
      s.position = .exited 0 ∧ [Answer.quit true].length ≤ 3 := by
  have hvalid : Device.Valid (Script.withDevice { events := [(0, some ⟨1, 2, 1, 30, 1⟩)] }) 0 :=
    ⟨{ raw := some 0 }, 0, rfl, rfl⟩
  have hrun : Run (Step Script.platform interrupted 0 fun _ => ⟨0, 0, 0, 0, 0⟩)
      (start (Script.withDevice { events := [(0, some ⟨1, 2, 1, 30, 1⟩)] }))
      (perform (next Script.platform interrupted 0 fun _ => ⟨0, 0, 0, 0, 0⟩) 6
        (start (Script.withDevice { events := [(0, some ⟨1, 2, 1, 30, 1⟩)] }))).1 _ :=
    Run.of_perform (fun _ _ _ h => h) 6
  refine ⟨_, hrun, by decide, ?_⟩
  exact (reader_stops Script.documented hvalid hrun (by decide) (by decide)
    (by simp [Answer.Dropped])).1

end Runs

end Reader

end Evdevxx
