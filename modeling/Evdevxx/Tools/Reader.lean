import Evdevxx.Device.Capabilities
import Evdevxx.Device.Reading
import Evdevxx.Logic.Run
import Evdevxx.Model.Reader

/-!
# Reader — when the reader tool survives and loses nothing

The loop takes part in an exchange: its surroundings answer, it prints, and it goes on somewhere else.
`Turn` lists all turns of this exchange, as long as libevdev reports no error but `-EAGAIN` and no
signal arrives.  One of them leaves the loop: a read in normal mode that finds no event after all is
reported by an exception, and that is not a `SyncError`.
-/

namespace Evdevxx

namespace Device

theorem hasPending_apply {σ : Type} (R : Polling σ) {w : World σ} {d : DeviceId} {D : Device}
    {h : Handle} (hD : w.devices d = some D) (hraw : D.raw = some h)
    (hok : 0 ≤ (R.libevdevHasEventPending h w.env).1) :
    hasPending R d w =
      .returned (decide ((R.libevdevHasEventPending h w.env).1 ≠ 0))
        (w.withEnv (R.libevdevHasEventPending h w.env).2) := by
  simp [hasPending, hD, hraw, Int.not_lt.2 hok]

end Device

namespace Reader

/-! ## The exchange -/

namespace Answer

/-- The answers that may come while nothing goes wrong. -/
def Expected : Answer → Prop
  | .quit b => b = false
  | .pending val => val = 0 ∨ val = 1
  | .read flags val _ =>
      if flags = ReadFlag.normal then val = 0 ∨ val = 1 ∨ val = -11 else val = 1 ∨ val = -11

/-- A read in normal mode finds that libevdev has filtered all the pending events. -/
def NothingLeft : Answer → Prop
  | .read flags val _ => flags = ReadFlag.normal ∧ val = -11
  | _ => False

/-- The lines that a reader owes its user for an answer: every event, every delta, and where the
synchronisation was lost and restored. -/
def lines : Answer → List Line
  | .read flags val (some e) =>
      if flags = ReadFlag.resync then [.delta (Event.ofFields e)]
      else if val = 0 then [.event (Event.ofFields e)]
      else [.lostSync]
  | .read flags _ none => if flags = ReadFlag.resync then [.syncRestored] else []
  | _ => []

instance : DecidablePred Expected
  | .quit b => inferInstanceAs (Decidable (b = false))
  | .pending val => inferInstanceAs (Decidable (val = 0 ∨ val = 1))
  | .read flags val _ => inferInstanceAs (Decidable
      (if flags = ReadFlag.normal then val = 0 ∨ val = 1 ∨ val = -11 else val = 1 ∨ val = -11))

end Answer

/-- Between a dropped notification and the -EAGAIN that ends the drain the synchronisation is lost, and
no event may be read in normal mode.  Another error that ends the drain restores nothing. -/
def syncMonitor : Monitor Answer Bool where
  start := false
  next lost
    | .read flags val _ =>
        if flags = ReadFlag.resync then lost && decide (val ≠ -11) else lost || decide (val = 1)
    | _ => lost
  allowed lost
    | .read flags _ _ => flags = ReadFlag.normal → lost = false
    | _ => True

/-- The lines of the loop and the next position, for every position and every expected answer. -/
inductive Turn : Position → Answer → List Line → Position → Prop where
  | outer : Turn .outer (.quit false) [] .waiting
  | waiting : Turn .waiting (.quit false) [] .polling
  | idle : Turn .polling (.pending 0) [] .waiting
  | ready : Turn .polling (.pending 1) [] .checking
  | checking : Turn .checking (.quit false) [] .reading
  | success (e : InputEvent) :
      Turn .reading (.read ReadFlag.normal 0 (some e)) [.event (Event.ofFields e)] .outer
  | dropped (e : InputEvent) :
      Turn .reading (.read ReadFlag.normal 1 (some e)) [.lostSync] .draining
  | nothingLeft (e : Exn) :
      Turn .reading (.read ReadFlag.normal (-11) none) [.error e] (.exited (-1))
  | delta (e : InputEvent) :
      Turn .draining (.read ReadFlag.resync 1 (some e)) [.delta (Event.ofFields e)] .draining
  | restored : Turn .draining (.read ReadFlag.resync (-11) none) [.syncRestored] .outer

/-- The loop has not been left. -/
def Position.Running : Position → Prop
  | .exited _ => False
  | .crashed => False
  | _ => True

section Exchange

variable {p p' : Position} {l : Answer} {ls : List Line}

/-- A turn prints what it owes and follows the synchronisation, unless nothing was left to read. -/
theorem Turn.faithful (h : Turn p l ls p') (hl : ¬ l.NothingLeft) :
    ls = l.lines ∧ p'.Running ∧ syncMonitor.allowed (decide (p = .draining)) l ∧
      syncMonitor.next (decide (p = .draining)) l = decide (p' = .draining) := by
  cases h with
  | nothingLeft e => exact absurd ⟨rfl, rfl⟩ hl
  | success e => exact ⟨rfl, trivial, fun _ => rfl, rfl⟩
  | dropped e => exact ⟨rfl, trivial, fun _ => rfl, rfl⟩
  | delta e => exact ⟨rfl, trivial, fun hbad => absurd hbad (by decide), rfl⟩
  | restored => exact ⟨rfl, trivial, fun hbad => absurd hbad (by decide), rfl⟩
  | outer => exact ⟨rfl, trivial, trivial, rfl⟩
  | waiting => exact ⟨rfl, trivial, trivial, rfl⟩
  | idle => exact ⟨rfl, trivial, trivial, rfl⟩
  | ready => exact ⟨rfl, trivial, trivial, rfl⟩
  | checking => exact ⟨rfl, trivial, trivial, rfl⟩

/-- And if nothing was left to read, the loop has been left. -/
theorem Turn.exits (h : Turn p l ls p') (hl : l.NothingLeft) : p' = .exited (-1) := by
  cases h with
  | nothingLeft e => rfl
  | success e => exact absurd hl.2 (by decide)
  | dropped e => exact absurd hl.2 (by decide)
  | delta e => exact absurd hl.2 (by decide)
  | restored => exact absurd hl.1 (by decide)
  | outer => exact hl.elim
  | waiting => exact hl.elim
  | idle => exact hl.elim
  | ready => exact hl.elim
  | checking => exact hl.elim

end Exchange

/-! ## The steps of the loop are turns -/

section Answers

variable {σ : Type} {P : Platform σ} {V : Views σ} {w : World σ} {d : DeviceId} {D : Device}
variable {h : Handle} {flags : ReadFlag} {buffer : InputEvent} {prev : Event} {val : Int}
variable {e : InputEvent} {env' : σ}

/-- Unless a synchronisation is forced, an event is stored exactly when there is no error. -/
theorem nextEvent_cases (hdoc : P.Documented V) (h : Handle) (flags : ReadFlag) (env : σ)
    (hflags : flags &&& ReadFlag.forceSync = 0) :
    (∃ val env', P.libevdevNextEvent h flags env = ((val, none), env') ∧ val < 0) ∨
      ∃ val e env', P.libevdevNextEvent h flags env = ((val, some e), env') ∧ 0 ≤ val := by
  rcases hdoc.libevdevNextEvent h flags env with ⟨hstored, hforced, _⟩
  rcases hans : P.libevdevNextEvent h flags env with ⟨⟨val, stored⟩, env'⟩
  rw [hans] at hstored hforced
  cases stored with
  | none =>
      refine Or.inl ⟨val, env', rfl, ?_⟩
      by_cases hok : 0 ≤ val
      · exact absurd hflags (hforced rfl hok).1
      · exact Int.not_le.1 hok
  | some e =>
      refine Or.inr ⟨val, e, env', rfl, ?_⟩
      by_cases hneg : val < 0
      · cases hstored hneg
      · exact Int.not_lt.1 hneg

theorem readInto_of_stored (hdoc : P.Documented V) (hD : w.devices d = some D)
    (hraw : D.raw = some h) (hans : P.libevdevNextEvent h flags w.env = ((val, some e), env'))
    (hok : 0 ≤ val) :
    Device.readInto P d buffer flags (w, prev) =
      .returned ⟨val⟩ (w.withEnv env', Event.ofFields e) := by
  have htype : e.type ≤ evMax := (hdoc.libevdevNextEvent h flags w.env).2.2 e (by rw [hans])
  rw [Device.readInto_apply_of_le hD hraw prev (by rw [hans]; exact hok)
    (by rw [hans]; exact htype), hans]
  rfl

theorem readInto_of_error (hD : w.devices d = some D) (hraw : D.raw = some h)
    (hans : P.libevdevNextEvent h flags w.env = ((val, none), env')) (hneg : val < 0) :
    Device.readInto P d buffer flags (w, prev) = .returned ⟨val⟩ (w.withEnv env', prev) := by
  rw [Device.readInto_apply_negative hD hraw prev (by rw [hans]; exact hneg), hans]

end Answers

section Steps

variable {σ : Type} {P : Platform σ} {V : Views σ} {R : Polling σ} {dev : DeviceId}
variable {buffer : World σ → InputEvent} {s s' : State σ} {l : Answer}

/-- From `s` to `s'` the loop takes a turn, and its device stays valid. -/
structure Turns (dev : DeviceId) (s : State σ) (l : Answer) (s' : State σ) : Prop where
  valid : Device.Valid s'.world dev
  turn : ∃ ls, Turn s.position l ls s'.position ∧ s'.out = s.out ++ ls

theorem handle_eq {w : World σ} {D : Device} {h : Handle} (hD : w.devices dev = some D)
    (hraw : D.raw = some h) : handle dev w = h := by
  simp [handle, hD, hraw]

/-- Without a signal the loop goes on behind a check of `should_quit`. -/
theorem turns_checkQuit {stop : State σ → State σ} {p : Position}
    (hvalid : Device.Valid s.world dev)
    (hstep : some (checkQuit R s stop fun s => { s with position := p }) = some (l, s'))
    (hexp : l.Expected) (hturn : Turn s.position (.quit false) [] p) : Turns dev s l s' := by
  simp only [checkQuit, Option.some.injEq, Prod.mk.injEq] at hstep
  rcases hstep with ⟨rfl, rfl⟩
  have hquit : (R.shouldQuit s.world.env).1 = false := hexp
  rw [hquit]
  exact ⟨hvalid, [], hturn, (List.append_nil _).symm⟩

theorem turns_polling (hpos : s.position = .polling) (hvalid : Device.Valid s.world dev)
    (hstep : Step P R dev buffer s l s') (hexp : l.Expected) : Turns dev s l s' := by
  rcases hvalid with ⟨D, h, hD, hraw⟩
  simp only [Step, next, hpos, handle_eq hD hraw, Option.some.injEq, Prod.mk.injEq] at hstep
  rcases hstep with ⟨rfl, rfl⟩
  have hval : (R.libevdevHasEventPending h s.world.env).1 = 0 ∨
    (R.libevdevHasEventPending h s.world.env).1 = 1 := hexp
  have hok : 0 ≤ (R.libevdevHasEventPending h s.world.env).1 := by omega
  rw [Device.hasPending_apply R hD hraw hok]
  have hvalid : Device.Valid s.world dev := ⟨D, h, hD, hraw⟩
  rcases hval with hzero | hone
  · rw [hzero]
    exact ⟨hvalid, [], hpos ▸ Turn.idle, (List.append_nil _).symm⟩
  · rw [hone]
    exact ⟨hvalid, [], hpos ▸ Turn.ready, (List.append_nil _).symm⟩

theorem turns_reading (hdoc : P.Documented V) (hpos : s.position = .reading)
    (hvalid : Device.Valid s.world dev) (hstep : Step P R dev buffer s l s')
    (hexp : l.Expected) : Turns dev s l s' := by
  rcases hvalid with ⟨D, h, hD, hraw⟩
  have hvalid : Device.Valid s.world dev := ⟨D, h, hD, hraw⟩
  simp only [Step, next, hpos, handle_eq hD hraw, Option.some.injEq, Prod.mk.injEq] at hstep
  rcases hstep with ⟨rfl, rfl⟩
  rcases nextEvent_cases hdoc h ReadFlag.normal s.world.env (by decide) with
    ⟨val, env', hans, hneg⟩ | ⟨val, e, env', hans, hok⟩
  · rw [hans] at hexp ⊢
    have hval : val = 0 ∨ val = 1 ∨ val = -11 := hexp
    have hval : val = -11 := by omega
    subst hval
    rw [Device.read_apply (readInto_of_error hD hraw hans hneg)]
    exact ⟨hvalid, _, hpos ▸ Turn.nothingLeft _, rfl⟩
  · rw [hans] at hexp ⊢
    have hval : val = 0 ∨ val = 1 ∨ val = -11 := hexp
    rw [Device.read_apply (readInto_of_stored hdoc hD hraw hans hok)]
    rcases hval with rfl | rfl | rfl
    · exact ⟨hvalid, _, hpos ▸ Turn.success e, rfl⟩
    · exact ⟨hvalid, _, hpos ▸ Turn.dropped e, rfl⟩
    · exact absurd hok (by decide)

theorem turns_draining (hdoc : P.Documented V) (hpos : s.position = .draining)
    (hvalid : Device.Valid s.world dev) (hstep : Step P R dev buffer s l s')
    (hexp : l.Expected) : Turns dev s l s' := by
  rcases hvalid with ⟨D, h, hD, hraw⟩
  have hvalid : Device.Valid s.world dev := ⟨D, h, hD, hraw⟩
  simp only [Step, next, hpos, handle_eq hD hraw, Option.some.injEq, Prod.mk.injEq] at hstep
  rcases hstep with ⟨rfl, rfl⟩
  rcases nextEvent_cases hdoc h ReadFlag.resync s.world.env (by decide) with
    ⟨val, env', hans, hneg⟩ | ⟨val, e, env', hans, hok⟩
  · rw [hans] at hexp ⊢
    have hval : val = 1 ∨ val = -11 := hexp
    have hval : val = -11 := by omega
    subst hval
    rw [readInto_of_error hD hraw hans hneg]
    exact ⟨hvalid, _, hpos ▸ Turn.restored, rfl⟩
  · rw [hans] at hexp ⊢
    have hval : val = 1 ∨ val = -11 := hexp
    have hval : val = 1 := by omega
    subst hval
    rw [readInto_of_stored hdoc hD hraw hans hok]
    exact ⟨hvalid, _, hpos ▸ Turn.delta e, rfl⟩

/-- Every step with an expected answer is a turn. -/
theorem step_turns (hdoc : P.Documented V) (hvalid : Device.Valid s.world dev)
    (hstep : Step P R dev buffer s l s') (hexp : l.Expected) : Turns dev s l s' := by
  cases hpos : s.position with
  | outer =>
      simp only [Step, next, hpos] at hstep
      exact turns_checkQuit hvalid hstep hexp (hpos ▸ Turn.outer)
  | waiting =>
      simp only [Step, next, hpos] at hstep
      exact turns_checkQuit hvalid hstep hexp (hpos ▸ Turn.waiting)
  | polling => exact turns_polling hpos hvalid hstep hexp
  | checking =>
      simp only [Step, next, hpos] at hstep
      exact turns_checkQuit hvalid hstep hexp (hpos ▸ Turn.checking)
  | reading => exact turns_reading hdoc hpos hvalid hstep hexp
  | draining => exact turns_draining hdoc hpos hvalid hstep hexp
  | exited code => simp [Step, next, hpos] at hstep
  | crashed => simp [Step, next, hpos] at hstep

end Steps

/-! ## Runs -/

/-- A reader that has survived the answers `labels` and lost nothing. -/
structure Faithful {σ : Type} (P : Platform σ) (R : Polling σ) (dev : DeviceId)
    (buffer : World σ → InputEvent) (labels : List Answer) (s : State σ) : Prop where
  /-- The program has not ended. -/
  goesOn : ∃ l s', Step P R dev buffer s l s'
  /-- Everything was printed once and in order, and nothing else was. -/
  printed : s.out = labels.flatMap Answer.lines
  /-- No read in normal mode happened while the synchronisation was lost. -/
  synced : syncMonitor.Accepts labels

/-- What the turns keep: the loop stands in the drain exactly while the synchronisation is lost. -/
structure InStep {σ : Type} (dev : DeviceId) (labels : List Answer) (s : State σ) : Prop where
  valid : Device.Valid s.world dev
  running : s.position.Running
  printed : s.out = labels.flatMap Answer.lines
  synced : syncMonitor.Accepts labels
  lost : syncMonitor.state labels = decide (s.position = .draining)

section Runs

variable {σ : Type} {P : Platform σ} {V : Views σ} {R : Polling σ} {dev : DeviceId}
variable {buffer : World σ → InputEvent} {s s' : State σ} {l : Answer} {labels : List Answer}
variable {w : World σ}

theorem exists_step (h : s.position.Running) : ∃ l s', Step P R dev buffer s l s' := by
  cases hpos : s.position with
  | exited code => exact (hpos ▸ h : Position.Running (.exited code)).elim
  | crashed => exact (hpos ▸ h : Position.Running .crashed).elim
  | outer => exact ⟨_, _, by rw [Step, next, hpos]⟩
  | waiting => exact ⟨_, _, by rw [Step, next, hpos]⟩
  | polling => exact ⟨_, _, by rw [Step, next, hpos]⟩
  | checking => exact ⟨_, _, by rw [Step, next, hpos]⟩
  | reading => exact ⟨_, _, by rw [Step, next, hpos]⟩
  | draining => exact ⟨_, _, by rw [Step, next, hpos]⟩

theorem no_step {code : Int} (h : s.position = .exited code) :
    ¬ Step P R dev buffer s l s' := by
  simp [Step, next, h]

theorem inStep_start (hvalid : Device.Valid w dev) : InStep dev [] (start w) where
  valid := hvalid
  running := trivial
  printed := rfl
  synced := syncMonitor.accepts_nil
  lost := rfl

/-- One turn, while there was something left to read. -/
theorem InStep.snoc (h : InStep dev labels s) (hturns : Turns dev s l s')
    (hl : ¬ l.NothingLeft) : InStep dev (labels ++ [l]) s' := by
  rcases hturns.turn with ⟨ls, hturn, hout⟩
  rcases hturn.faithful hl with ⟨hlines, hrunning, hallowed, hnext⟩
  refine ⟨hturns.valid, hrunning, ?_, ?_, ?_⟩
  · rw [hout, h.printed, hlines, List.flatMap_append, List.flatMap_singleton]
  · exact syncMonitor.accepts_snoc.2 ⟨h.synced, h.lost ▸ hallowed⟩
  · rw [Monitor.state_snoc, h.lost, hnext]

theorem run_inStep (hdoc : P.Documented V) (hvalid : Device.Valid w dev)
    (run : Run (Step P R dev buffer) (start w) labels s) (hexp : ∀ l ∈ labels, l.Expected)
    (hleft : ∀ l ∈ labels, ¬ l.NothingLeft) : InStep dev labels s := by
  induction run with
  | nil => exact inStep_start hvalid
  | @snoc labels s s' l run hstep ih =>
      have hbefore := ih (fun l' hl' => hexp l' (List.mem_append_left _ hl'))
        fun l' hl' => hleft l' (List.mem_append_left _ hl')
      have hlast : l ∈ labels ++ [l] := List.mem_append_right _ List.mem_cons_self
      exact hbefore.snoc (step_turns hdoc hbefore.valid hstep (hexp l hlast)) (hleft l hlast)

/-- Once nothing was left to read, the program has ended with an error. -/
theorem run_exited (hdoc : P.Documented V) (hvalid : Device.Valid w dev)
    (run : Run (Step P R dev buffer) (start w) labels s) (hexp : ∀ l ∈ labels, l.Expected)
    (hleft : ∃ l ∈ labels, l.NothingLeft) : s.position = .exited (-1) := by
  induction run with
  | nil =>
      rcases hleft with ⟨l, hl, _⟩
      cases hl
  | @snoc labels s s' l run hstep ih =>
      have hbefore : ∀ l' ∈ labels, l'.Expected := fun l' hl' => hexp l' (List.mem_append_left _ hl')
      by_cases hearlier : ∃ l ∈ labels, l.NothingLeft
      · exact absurd hstep (no_step (ih hbefore hearlier))
      · have hin := run_inStep hdoc hvalid run hbefore fun l' hl' hbad => hearlier ⟨l', hl', hbad⟩
        have hlast : l ∈ labels ++ [l] := List.mem_append_right _ List.mem_cons_self
        rcases (step_turns hdoc hin.valid hstep (hexp l hlast)).turn with ⟨ls, hturn, _⟩
        -- The step is the first one to which the hypothesis can apply.
        have hnow : l.NothingLeft := by
          rcases hleft with ⟨l', hl', hbad⟩
          rcases List.mem_append.1 hl' with hold | hnew
          · exact absurd ⟨l', hold, hbad⟩ hearlier
          · exact List.mem_singleton.1 hnew ▸ hbad
        exact hturn.exits hnow

/-- The scripted platform has events pending as long as its script has answers to come, also if they
will not be events.  No signal arrives. -/
def scripted : Polling Script where
  shouldQuit := fun s => (false, s)
  sleepFor := id
  libevdevHasEventPending := fun _ s =>
    (match s.events with
      | [] => 0
      | _ :: _ => 1, s)

/-- The first `n` steps of a reader of the events of a script, whose uninitialised events are zero. -/
def firstSteps (n : Nat) (events : List (Int × Option InputEvent)) : List Answer × State Script :=
  perform (next Script.platform scripted 0 fun _ => ⟨0, 0, 0, 0, 0⟩) n
    (start (Script.withDevice { events := events }))

theorem run_firstSteps (n : Nat) (events : List (Int × Option InputEvent)) :
    Run (Step Script.platform scripted 0 fun _ => ⟨0, 0, 0, 0, 0⟩)
      (start (Script.withDevice { events := events })) (firstSteps n events).1
      (firstSteps n events).2 :=
  Run.of_perform (fun _ _ _ h => h) n

/-- The answers before a read. -/
def polled : List Answer :=
  [.quit false, .quit false, .pending 1, .quit false]

/-- While libevdev reports no error but `-EAGAIN` and no signal arrives, the loop survives and loses
nothing exactly as long as every read in normal mode finds an event. -/
theorem reader_faithful_iff (hdoc : P.Documented V) (hvalid : Device.Valid w dev)
    (run : Run (Step P R dev buffer) (start w) labels s) (hexp : ∀ l ∈ labels, l.Expected) :
    Faithful P R dev buffer labels s ↔ ∀ l ∈ labels, ¬ l.NothingLeft := by
  constructor
  · intro hfaithful l hl hbad
    rcases hfaithful.goesOn with ⟨l', s', hstep⟩
    exact no_step (run_exited hdoc hvalid run hexp ⟨l, hl, hbad⟩) hstep
  · intro hleft
    have hin := run_inStep hdoc hvalid run hexp hleft
    exact ⟨exists_step hin.running, hin.printed, hin.synced⟩

/-- A key press is read, then events are dropped, and the drain has one delta. -/
theorem reader_faithful_iff_resync :
    ∃ s labels, labels = polled ++ [.read ReadFlag.normal 0 (some ⟨1, 2, 1, 30, 1⟩)] ++ polled ++
        [.read ReadFlag.normal 1 (some ⟨1, 3, 0, 3, 0⟩),
          .read ReadFlag.resync 1 (some ⟨1, 3, 1, 30, 0⟩), .read ReadFlag.resync (-11) none] ∧
      Run (Step Script.platform scripted 0 fun _ => ⟨0, 0, 0, 0, 0⟩)
        (start (Script.withDevice { events := [(0, some ⟨1, 2, 1, 30, 1⟩),
          (1, some ⟨1, 3, 0, 3, 0⟩), (1, some ⟨1, 3, 1, 30, 0⟩)] })) labels s ∧
      (Faithful Script.platform scripted 0 (fun _ => ⟨0, 0, 0, 0, 0⟩) labels s ↔
        ∀ l ∈ labels, ¬ l.NothingLeft) := by
  have hvalid : Device.Valid (Script.withDevice { events := [(0, some ⟨1, 2, 1, 30, 1⟩),
      (1, some ⟨1, 3, 0, 3, 0⟩), (1, some ⟨1, 3, 1, 30, 0⟩)] }) 0 := ⟨{ raw := some 0 }, 0, rfl, rfl⟩
  have hrun := run_firstSteps 12 [(0, some ⟨1, 2, 1, 30, 1⟩), (1, some ⟨1, 3, 0, 3, 0⟩),
    (1, some ⟨1, 3, 1, 30, 0⟩)]
  refine ⟨_, _, ?_, hrun, ?_⟩
  · decide
  · exact reader_faithful_iff Script.documented hvalid hrun (by decide)

/-- libevdev has events pending and filters them all: the read throws a `std::system_error`, the
handler for a `SyncError` does not catch it, and the program ends with an error. -/
theorem reader_exits_on_again :
    ∃ s, Run (Step Script.platform scripted 0 fun _ => ⟨0, 0, 0, 0, 0⟩)
        (start (Script.withDevice { events := [(-11, none)] }))
        (polled ++ [.read ReadFlag.normal (-11) none]) s ∧
      (∀ l ∈ polled ++ [.read ReadFlag.normal (-11) none], l.Expected) ∧
      s.position = .exited (-1) ∧
      ¬ Faithful Script.platform scripted 0 (fun _ => ⟨0, 0, 0, 0, 0⟩)
        (polled ++ [.read ReadFlag.normal (-11) none]) s := by
  have hposition : (firstSteps 5 [(-11, none)]).2.position = .exited (-1) := by decide
  refine ⟨_, run_firstSteps 5 [(-11, none)], by decide, hposition, fun hfaithful => ?_⟩
  rcases hfaithful.goesOn with ⟨l, s', hstep⟩
  exact no_step hposition hstep

end Runs

end Reader

end Evdevxx
