import Evdevxx.Device.Details
import Evdevxx.Device.Lifetime
import Evdevxx.Model.ReaderMain
import Evdevxx.Tools.Transcript

/-!
# ReaderMain — the reader program and its state machine

The statements of the program are taken apart into the steps of the state machine: what the loop of
`main` does is a run of it, and the budget of a loop is not used up before the machine has made as many
steps.  The rest is about the whole of `main`: it does not crash, it ends where the machine does, with
the right exit code, and nothing is left of its device.
-/

namespace Evdevxx

/-- What the loop calls opens, closes, creates and frees nothing. -/
structure Polling.Passive {σ : Type} (R : Polling σ) (P : Platform σ) (V : Views σ) : Prop where
  shouldQuit : ∀ s, V.Same s (R.shouldQuit s).2
  sleepFor : ∀ s, V.Same s (R.sleepFor s)
  libevdevHasEventPending : ∀ h s, V.Same s (R.libevdevHasEventPending h s).2
  libevdevNextEvent : ∀ h flags s, V.Same s (P.libevdevNextEvent h flags s).2

namespace Reader

section Refinement

variable {σ : Type} {P : Platform σ} {V : Views σ} {R : Polling σ} {dev : DeviceId}
variable {buffer : World σ → InputEvent} {w : World σ} {s s' s'' : State σ} {out : List Output}

/-! ## The statements are steps -/

/-- Some run of the state machine goes from `s` to `s'`. -/
def Reaches (P : Platform σ) (R : Polling σ) (dev : DeviceId) (buffer : World σ → InputEvent)
    (s s' : State σ) : Prop :=
  ∃ labels, Run (Step P R dev buffer) s labels s'

theorem Reaches.trans (h : Reaches P R dev buffer s s') (h' : Reaches P R dev buffer s' s'') :
    Reaches P R dev buffer s s'' := by
  rcases h with ⟨labels, run⟩
  rcases h' with ⟨labels', run'⟩
  exact ⟨labels ++ labels', run.append run'⟩

theorem reaches_of_next (h : (next P R dev buffer s).map Prod.snd = some s') :
    Reaches P R dev buffer s s' := by
  rcases Option.map_eq_some_iff.1 h with ⟨⟨l, t⟩, hnext, rfl⟩
  exact ⟨[l], Run.nil.snoc hnext⟩

/-- The program went from `s` to `t`, and the state machine from `p` to `p'`: it printed what the
program did, and the lines `last`. -/
structure Came (P : Platform σ) (R : Polling σ) (V : Views σ) (dev : DeviceId)
    (buffer : World σ → InputEvent) (p : Position) (delta : Event) (s : World σ × List Output)
    (p' : Position) (delta' : Event) (last : List Line) (t : World σ × List Output) : Prop where
  kept : s.1.Kept V t.1
  reached : ∃ ls, t.2 = s.2 ++ ls.map Output.line ∧ ∀ lines,
    Reaches P R dev buffer ⟨p, s.1, delta, lines⟩ ⟨p', t.1, delta', lines ++ ls ++ last⟩

/-- Whatever has been printed, the machine makes `n` steps from there. -/
def Lasting (P : Platform σ) (R : Polling σ) (dev : DeviceId) (buffer : World σ → InputEvent)
    (p : Position) (w : World σ) (delta : Event) (n : Nat) : Prop :=
  ∀ lines, Lasts (Step P R dev buffer) ⟨p, w, delta, lines⟩ n

section

variable {p p' p'' : Position} {delta delta' delta'' : Event} {last : List Line} {l : Line}
variable {n : Nat}
variable {t t' t'' : World σ × List Output} {w₁ : World σ}

theorem Came.trans (h : Came P R V dev buffer p delta t p' delta' [] t')
    (h' : Came P R V dev buffer p' delta' t' p'' delta'' last t'') :
    Came P R V dev buffer p delta t p'' delta'' last t'' := by
  rcases h with ⟨hkept, ls, hout, hreaches⟩
  rcases h' with ⟨hkept', ls', hout', hreaches'⟩
  refine ⟨hkept.trans hkept', ls ++ ls', ?_, fun lines => (hreaches lines).trans ?_⟩
  · rw [hout', hout, List.map_append, List.append_assoc]
  · rw [List.append_nil]
    simpa only [List.append_assoc] using hreaches' (lines ++ ls)

/-- One step of the machine, which prints the lines `last`. -/
theorem Came.of_next (hkept : w.Kept V w₁)
    (h : ∀ lines, (next P R dev buffer ⟨p, w, delta, lines⟩).map Prod.snd =
      some ⟨p', w₁, delta', lines ++ last⟩) :
    Came P R V dev buffer p delta (w, out) p' delta' last (w₁, out) :=
  ⟨hkept, [], by simp, fun lines => reaches_of_next (by simpa using h lines)⟩

/-- What the machine makes from where it came to, it makes from where it started. -/
theorem Came.lasting (h : Came P R V dev buffer p delta t p' delta' last t')
    (hlasting : Lasting P R dev buffer p' t'.1 delta' n) : Lasting P R dev buffer p t.1 delta n := by
  rcases h with ⟨_, ls, _, hreaches⟩
  intro lines
  rcases hreaches lines with ⟨labels, run⟩
  exact Lasts.of_run run (hlasting _)

theorem lasting_of_next (h : ∀ lines, (next P R dev buffer ⟨p, w, delta, lines⟩).map Prod.snd =
      some ⟨p', w₁, delta', lines ++ last⟩) (hlasting : Lasting P R dev buffer p' w₁ delta' n) :
    Lasting P R dev buffer p w delta (n + 1) := by
  intro lines
  rcases Option.map_eq_some_iff.1 (h lines) with ⟨⟨l, t⟩, hnext, rfl⟩
  exact Lasts.of_step hnext (hlasting _)

/-- The program prints what the machine has printed already. -/
theorem Came.say (h : Came P R V dev buffer p delta t p' delta' [l] t') :
    Came P R V dev buffer p delta t p' delta' [] (t'.1, t'.2 ++ [.line l]) := by
  rcases h with ⟨hkept, ls, hout, hreaches⟩
  refine ⟨hkept, ls ++ [l], ?_, fun lines => ?_⟩
  · rw [hout, List.map_append, List.append_assoc]
    rfl
  · simpa using hreaches lines

/-- A check of `should_quit`, in the program and in the machine. -/
theorem came_of_check (hR : R.Passive P V)
    (h : ∀ lines, (next P R dev buffer ⟨p, w, delta, lines⟩).map Prod.snd =
      some ⟨p', w.withEnv (R.shouldQuit w.env).2, delta, lines ++ last⟩) :
    Came P R V dev buffer p delta (w, out) p' delta last
      (w.withEnv (R.shouldQuit w.env).2, out) :=
  Came.of_next (World.Kept.withEnv (hR.shouldQuit w.env)) h

theorem shouldQuit_apply (w : World σ) (out : List Output) :
    shouldQuit R (w, out) =
      .returned (R.shouldQuit w.env).1 (w.withEnv (R.shouldQuit w.env).2, out) := rfl

theorem say_apply (o : Output) (w : World σ) (out : List Output) :
    say o (w, out) = .returned () (w, out ++ [o]) := rfl

end

/-- The wait for an event ends where the loop checks the flag, or with the error of libevdev. -/
theorem waitLoop_ends (hR : R.Passive P V) (hvalid : Device.Valid w dev) (delta : Event)
    (budget : Nat) (buffer : World σ → InputEvent) (out : List Output) :
    (waitLoop R dev budget).Ends (Lasting P R dev buffer .waiting w delta budget)
      (fun _ t => Came P R V dev buffer .waiting delta (w, out) .checking delta [] t)
      (fun e t => (∃ x, e = .std x) ∧
        Came P R V dev buffer .waiting delta (w, out) (.exited (-1)) delta [.error e] t)
      (w, out) := by
  induction budget generalizing w with
  | zero => exact Prog.ends_exhausted.2 fun _ => Lasts.zero _ _
  | succ budget ih =>
      have hkept := World.Kept.withEnv (V := V) (hR.shouldQuit w.env)
      rcases hkept.valid hvalid with ⟨D, h, hD, hraw⟩
      refine Prog.ends_bind.2 (Prog.ends_of_returned (shouldQuit_apply w out) ?_)
      cases hquit : (R.shouldQuit w.env).1 with
      | true => exact came_of_check hR (by simp [next, checkQuit, hquit])
      | false =>
          have hnext : ∀ lines, (next P R dev buffer ⟨.waiting, w, delta, lines⟩).map Prod.snd =
              some ⟨.polling, w.withEnv (R.shouldQuit w.env).2, delta, lines ++ []⟩ := by
            simp [next, checkQuit, hquit]
          have hcheck : Came P R V dev buffer .waiting delta (w, out) .polling delta []
              (w.withEnv (R.shouldQuit w.env).2, out) := came_of_check hR hnext
          have hpolled := World.Kept.withEnv (V := V) (w := w.withEnv (R.shouldQuit w.env).2)
            (hR.libevdevHasEventPending h (R.shouldQuit w.env).2)
          refine Prog.ends_bind.2 (Prog.ends_onFst.2 ?_)
          by_cases hneg : (R.libevdevHasEventPending h (R.shouldQuit w.env).2).1 < 0
          · have hpending := Device.hasPending_apply_negative R hD hraw hneg
            refine Prog.ends_of_threw hpending ⟨⟨_, rfl⟩, hcheck.trans (Came.of_next hpolled ?_)⟩
            simp [next, hpending, State.caught, State.failed, State.print]
          · have hpending := Device.hasPending_apply R hD hraw (Int.not_lt.1 hneg)
            refine Prog.ends_of_returned hpending ?_
            by_cases hzero : (R.libevdevHasEventPending h (R.shouldQuit w.env).2).1 = 0
            · -- Nothing is pending: the program sleeps, and the loop goes on.
              have hslept := hpolled.trans (World.Kept.withEnv (V := V) (hR.sleepFor _))
              have hidle : Came P R V dev buffer .polling delta
                  (w.withEnv (R.shouldQuit w.env).2, out) .waiting delta []
                  (w.withEnv (R.sleepFor
                    (R.libevdevHasEventPending h (R.shouldQuit w.env).2).2), out) :=
                Came.of_next hslept (by simp [next, hpending, hzero])
              rw [if_neg (by simp [hzero])]
              refine Prog.ends_bind.2 (Prog.ends_of_returned rfl ?_)
              refine (ih ((hkept.trans hslept).valid hvalid)).imp ?_ ?_ ?_
              · exact fun hlasting => lasting_of_next hnext (hidle.lasting hlasting)
              · intro _ t hcame
                exact (hcheck.trans hidle).trans hcame
              · rintro e t ⟨hx, hcame⟩
                exact ⟨hx, (hcheck.trans hidle).trans hcame⟩
            · rw [if_pos (by simp [hzero])]
              exact hcheck.trans (Came.of_next hpolled (by simp [next, hpending, hzero]))

/-- The drain of the deltas ends where the loop begins again; it throws nothing. -/
theorem drainLoop_ends (hdoc : P.Documented V) (hR : R.Passive P V) (hvalid : Device.Valid w dev)
    (delta : Event) (budget : Nat) :
    (drainLoop P dev buffer budget).Ends (Lasting P R dev buffer .draining w delta budget)
      (fun _ t => Came P R V dev buffer .draining delta (w, out) .outer t.2 [.syncRestored] t.1)
      (fun _ _ => False) ((w, out), delta) := by
  induction budget generalizing w out delta with
  | zero => exact Prog.ends_exhausted.2 fun _ => Lasts.zero _ _
  | succ budget ih =>
      rcases hvalid with ⟨D, h, hD, hraw⟩
      have hkept := World.Kept.withEnv (V := V) (hR.libevdevNextEvent h ReadFlag.resync w.env)
      have hagain := hkept.valid ⟨D, h, hD, hraw⟩
      -- With or without an event, the read returns its status.
      obtain ⟨val, delta', hread⟩ : ∃ val delta', Device.readInto P dev (buffer w) ReadFlag.resync
          (w, delta) = .returned ⟨val⟩
            (w.withEnv (P.libevdevNextEvent h ReadFlag.resync w.env).2, delta') := by
        rcases nextEvent_cases hdoc h ReadFlag.resync w.env (by decide) with
          ⟨val, env', hans, hneg⟩ | ⟨val, e, env', hans, hok⟩
        · exact ⟨val, delta, by rw [readInto_of_error hD hraw hans hneg, hans]⟩
        · exact ⟨val, Event.ofFields e, by rw [readInto_of_stored hdoc hD hraw hans hok, hans]⟩
      refine Prog.ends_bind.2 (Prog.ends_bind.2 (Prog.ends_zoom.2 (Prog.ends_of_returned hread ?_)))
      by_cases hdrop : (⟨val⟩ : ReadStatus) = ReadStatus.dropped
      · rw [if_pos hdrop]
        have hnext : ∀ lines, (next P R dev buffer ⟨.draining, w, delta, lines⟩).map Prod.snd =
            some ⟨.draining, w.withEnv (P.libevdevNextEvent h ReadFlag.resync w.env).2, delta',
              lines ++ [.delta delta']⟩ := by
          simp [next, hread, hdrop, State.print]
        have hstep : Came P R V dev buffer .draining delta (w, out) .draining delta'
            [.delta delta'] (w.withEnv (P.libevdevNextEvent h ReadFlag.resync w.env).2, out) :=
          Came.of_next hkept hnext
        refine Prog.ends_bind.2 (Prog.ends_bind.2 (Prog.ends_of_returned rfl ?_))
        refine (ih hagain delta').imp (lasting_of_next hnext) ?_ fun _ _ hbad => hbad
        intro _ t hcame
        exact hstep.say.trans hcame
      · rw [if_neg hdrop]
        exact Came.of_next hkept (by simp [next, hread, hdrop, State.print])

/-- An exception has left the inner `try` block, and the machine has gone where it is caught. -/
def Caught (P : Platform σ) (R : Polling σ) (V : Views σ) (dev : DeviceId)
    (buffer : World σ → InputEvent) (delta : Event) (s : World σ × List Output) (e : Exn)
    (t : World σ × List Output) : Prop :=
  match e with
  | .syncError _ => Came P R V dev buffer .waiting delta s .draining {} [.lostSync] t
  | .std x => Came P R V dev buffer .waiting delta s (.exited (-1)) delta [.error (.std x)] t

/-- A read in normal mode, behind the last check of the flag. -/
theorem read_ends {lim : Prop} (hdoc : P.Documented V) (hR : R.Passive P V)
    {s : World σ × List Output} {delta : Event} {t : World σ × List Output}
    (hvalid : Device.Valid t.1 dev)
    (hcame : Came P R V dev buffer .waiting delta s .reading delta [] t) :
    (Prog.onFst (Device.read P dev (buffer t.1) ReadFlag.normal)).Ends lim
      (fun event t' => Came P R V dev buffer .waiting delta s .outer delta [.event event] t')
      (fun e t' => Caught P R V dev buffer delta s e t') t := by
  rcases t with ⟨w, out⟩
  rcases hvalid with ⟨D, h, hD, hraw⟩
  have hkept := World.Kept.withEnv (V := V) (hR.libevdevNextEvent h ReadFlag.normal w.env)
  refine Prog.ends_onFst.2 ?_
  rcases nextEvent_cases hdoc h ReadFlag.normal w.env (by decide) with
    ⟨val, env', hans, hneg⟩ | ⟨val, e, env', hans, hok⟩
  · rw [hans] at hkept
    have hval : ¬ val = 1 := fun h => absurd (h ▸ hneg) (by decide)
    have hinto : Device.readInto P dev (buffer w) ReadFlag.normal (w, {}) = _ :=
      readInto_of_error hD hraw hans hneg
    have hread := Device.read_apply hinto
    rw [if_neg (by simp [hval]), if_pos hneg] at hread
    refine Prog.ends_of_threw hread (hcame.trans (Came.of_next hkept fun lines => ?_))
    simp [next, hread, State.caught, State.failed, State.print]
  · rw [hans] at hkept
    have hinto : Device.readInto P dev (buffer w) ReadFlag.normal (w, {}) = _ :=
      readInto_of_stored hdoc hD hraw hans hok
    have hread := Device.read_apply hinto
    by_cases hval : val = 1
    · rw [if_pos ⟨hval, by decide⟩] at hread
      refine Prog.ends_of_threw hread (hcame.trans (Came.of_next hkept fun lines => ?_))
      simp [next, hread, State.caught, State.print]
    · rw [if_neg (by simp [hval]), if_neg (Int.not_lt.2 hok)] at hread
      refine Prog.ends_of_returned hread (hcame.trans (Came.of_next hkept fun lines => ?_))
      simp [next, hread, State.print]

/-- The inner `try` block: it prints an event, or leaves the loop, or throws. -/
theorem tryRead_ends (hdoc : P.Documented V) (hR : R.Passive P V) (hvalid : Device.Valid w dev)
    (delta : Event) (budget : Nat) :
    (tryRead P R dev buffer budget).Ends (Lasting P R dev buffer .waiting w delta budget)
      (fun left t => Came P R V dev buffer .waiting delta (w, out)
        (if left then .exited 0 else .outer) delta (if left then [.exiting] else []) t)
      (fun e t => Caught P R V dev buffer delta (w, out) e t) (w, out) := by
  have hwait := waitLoop_ends (P := P) hR hvalid delta budget
  refine Prog.ends_bind.2 ((hwait buffer out).mono ?_ ?_)
  · -- The wait has ended, and the flag is checked once more.
    rintro _ ⟨w₁, out₁⟩ hwaited
    refine Prog.ends_bind.2 (Prog.ends_of_returned (shouldQuit_apply w₁ out₁) ?_)
    cases hquit : (R.shouldQuit w₁.env).1 with
    | true =>
        exact hwaited.trans
          (came_of_check hR (by simp [next, checkQuit, leave, hquit, State.print]))
    | false =>
        have hcheck : Came P R V dev buffer .waiting delta (w, out) .reading delta []
            (w₁.withEnv (R.shouldQuit w₁.env).2, out₁) :=
          hwaited.trans (came_of_check hR (by simp [next, checkQuit, hquit]))
        refine Prog.ends_bind.2 (Prog.ends_of_returned rfl (Prog.ends_bind.2 ?_))
        refine (read_ends hdoc hR (hcheck.kept.valid hvalid) hcheck).mono ?_ fun _ _ h => h
        rintro event ⟨w₂, out₂⟩ hread
        exact Prog.ends_bind.2 (Prog.ends_of_returned (say_apply _ _ _) hread.say)
  · rintro e t ⟨⟨x, rfl⟩, hcame⟩
    exact hcame

/-- The inner handler ends where the loop begins again, or it lets the exception go on. -/
theorem resync_ends (hdoc : P.Documented V) (hR : R.Passive P V) {s : World σ × List Output}
    {delta : Event} {e : Exn} {t : World σ × List Output} (hvalid : Device.Valid t.1 dev)
    (hcaught : Caught P R V dev buffer delta s e t) (budget : Nat) :
    (resync P dev buffer budget e).Ends (Lasting P R dev buffer .waiting s.1 delta budget)
      (fun _ t' => ∃ delta', Came P R V dev buffer .waiting delta s .outer delta' [] t')
      (fun e t' => Came P R V dev buffer .waiting delta s (.exited (-1)) delta [.error e] t') t := by
  cases e with
  | std x => exact hcaught
  | syncError event =>
      rcases t with ⟨w, out⟩
      -- The `delta` of the handler is a new one in each of its runs.
      refine Prog.ends_bind.2 (Prog.ends_of_returned (say_apply _ _ _) ?_)
      refine Prog.ends_bind.2 (Prog.ends_withLocal.2 ?_)
      refine (drainLoop_ends hdoc hR hvalid {} budget).imp ?_ ?_ fun _ _ hbad => hbad.elim
      · exact fun hlasting => Came.lasting hcaught hlasting
      intro _ t' hcame
      exact Prog.ends_of_returned (say_apply _ _ _)
        ⟨t'.2, (Came.trans (Came.say hcaught) hcame).say⟩

/-- The loop ends when the flag is set, or with an error.  It uses up no budget before the machine has
made as many steps. -/
theorem mainLoop_ends (hdoc : P.Documented V) (hR : R.Passive P V) (hvalid : Device.Valid w dev)
    (delta : Event) (inner budget : Nat) :
    (mainLoop P R dev buffer inner budget).Ends
      (Lasting P R dev buffer .outer w delta (min inner budget))
      (fun _ t => ∃ delta',
        Came P R V dev buffer .outer delta (w, out) (.exited 0) delta' [.exiting] t)
      (fun e t => ∃ delta',
        Came P R V dev buffer .outer delta (w, out) (.exited (-1)) delta' [.error e] t)
      (w, out) := by
  induction budget generalizing w out delta with
  | zero =>
      rw [Nat.min_zero]
      exact Prog.ends_exhausted.2 fun _ => Lasts.zero _ _
  | succ budget ih =>
      refine Prog.ends_bind.2 (Prog.ends_of_returned (shouldQuit_apply w out) ?_)
      cases hquit : (R.shouldQuit w.env).1 with
      | true =>
          exact ⟨delta, came_of_check hR (by simp [next, checkQuit, leave, hquit, State.print])⟩
      | false =>
          have hnext : ∀ lines, (next P R dev buffer ⟨.outer, w, delta, lines⟩).map Prod.snd =
              some ⟨.waiting, w.withEnv (R.shouldQuit w.env).2, delta, lines ++ []⟩ := by
            simp [next, checkQuit, hquit]
          have hcheck : Came P R V dev buffer .outer delta (w, out) .waiting delta []
              (w.withEnv (R.shouldQuit w.env).2, out) := came_of_check hR hnext
          have hvalid₁ := hcheck.kept.valid hvalid
          -- Any budget, of this loop or of an inner one, is used up behind the first step.
          have hlim : ∀ {n}, min inner (budget + 1) ≤ n + 1 →
              Lasting P R dev buffer .waiting (w.withEnv (R.shouldQuit w.env).2) delta n →
              Lasting P R dev buffer .outer w delta (min inner (budget + 1)) :=
            fun hle hlasting lines => (lasting_of_next hnext hlasting lines).mono hle
          refine Prog.ends_bind.2 (Prog.ends_tryCatch.2 ?_)
          refine (tryRead_ends hdoc hR hvalid₁ delta inner).imp (hlim (by omega)) ?_ ?_
          · rintro left t hcame
            cases left with
            | true => exact ⟨delta, hcheck.trans hcame⟩
            | false =>
                refine (ih (hcame.kept.valid hvalid₁) delta).imp ?_ ?_ ?_
                · exact fun hlasting => hlim (by omega) (hcame.lasting hlasting)
                · rintro _ t' ⟨delta', hcame'⟩
                  exact ⟨delta', (hcheck.trans hcame).trans hcame'⟩
                · rintro e t' ⟨delta', hcame'⟩
                  exact ⟨delta', (hcheck.trans hcame).trans hcame'⟩
          · intro e t hcaught
            have hvalid₂ : Device.Valid t.1 dev := by
              cases e with
              | std x => exact Came.kept hcaught |>.valid hvalid₁
              | syncError event => exact Came.kept hcaught |>.valid hvalid₁
            refine Prog.ends_bind.2
              ((resync_ends hdoc hR hvalid₂ hcaught inner).imp (hlim (by omega)) ?_ ?_)
            · rintro _ t' ⟨delta', hcame⟩
              refine (ih (hcame.kept.valid hvalid₁) delta').imp ?_ ?_ ?_
              · exact fun hlasting => hlim (by omega) (hcame.lasting hlasting)
              · rintro _ t'' ⟨delta'', hcame'⟩
                exact ⟨delta'', (hcheck.trans hcame).trans hcame'⟩
              · rintro e t'' ⟨delta'', hcame'⟩
                exact ⟨delta'', (hcheck.trans hcame).trans hcame'⟩
            · intro e t' hcame
              exact ⟨delta, hcheck.trans hcame⟩

/-! ## The whole program -/

/-- How `main` ends: its exit code and its output.  Where it got to the loop, these are the ones of a
run of the state machine. -/
inductive Finished (P : Platform σ) (R : Polling σ) (I : Identity σ) (dev : DeviceId)
    (buffer : World σ → InputEvent) (w : World σ) (args : List String) : Int → List Output → Prop where
  | usage : args.length ≠ 1 → Finished P R I dev buffer w args (-1) [.usage]
  | notOpened (path : String) (e : Exn) (w₁ : World σ) : args = [path] →
      Device.constructPath P dev path Device.defaultFlags w = .threw e w₁ →
      Finished P R I dev buffer w args (-1) [.line (.error e)]
  | ran (path : String) (w₁ : World σ) (labels : List Answer) (s : State σ) (code : Int) :
      args = [path] →
      Device.constructPath P dev path Device.defaultFlags w = .returned () w₁ →
      Device.Valid w₁ dev → Run (Step P R dev buffer) (start w₁) labels s →
      s.position = .exited code →
      Finished P R I dev buffer w args code
        (.opened (I.libevdevGetName (handle dev w₁) w₁.env) :: s.out.map Output.line)

/-- From the opened device on, `main` does a run of the state machine, and keeps the device. -/
theorem session_ends (hdoc : P.Documented V) (hR : R.Passive P V) {I : Identity σ}
    (hvalid : Device.Valid w dev) (inner budget : Nat) :
    (session P R I dev buffer inner budget).Ends
      (Lasts (Step P R dev buffer) (start w) (min inner budget))
      (fun code t => w.Kept V t.1 ∧ ∃ labels s, Run (Step P R dev buffer) (start w) labels s ∧
        code = 0 ∧ s.position = .exited 0 ∧
        t.2 = .opened (I.libevdevGetName (handle dev w) w.env) :: s.out.map Output.line)
      (fun e t => w.Kept V t.1 ∧ ∃ labels s, Run (Step P R dev buffer) (start w) labels s ∧
        s.position = .exited (-1) ∧
        t.2 ++ [.line (.error e)] =
          .opened (I.libevdevGetName (handle dev w) w.env) :: s.out.map Output.line)
      (w, []) := by
  rcases hvalid with ⟨D, h, hD, hraw⟩
  have hname : Device.getName I dev w = .returned (I.libevdevGetName (handle dev w) w.env) w := by
    rw [handle_eq hD hraw]
    exact Device.query_apply hD hraw _
  refine Prog.ends_bind.2 (Prog.ends_onFst.2 (Prog.ends_of_returned hname ?_))
  refine Prog.ends_bind.2 (Prog.ends_of_returned (say_apply _ _ _) (Prog.ends_bind.2 ?_))
  refine (mainLoop_ends hdoc hR ⟨D, h, hD, hraw⟩ {} inner budget).imp (fun h => h []) ?_ ?_
  · rintro _ t ⟨delta, hkept, ls, hout, hreaches⟩
    rcases hreaches [] with ⟨labels, hrun⟩
    refine Prog.ends_bind.2 (Prog.ends_of_returned (say_apply _ _ _) ?_)
    refine ⟨hkept, labels, _, hrun, rfl, rfl, ?_⟩
    simp [hout]
  · rintro e t ⟨delta, hkept, ls, hout, hreaches⟩
    rcases hreaches [] with ⟨labels, hrun⟩
    refine ⟨hkept, labels, _, hrun, rfl, ?_⟩
    simp [hout]

theorem step_deterministic (s : State σ) (l l' : Answer) (s₁ s₂ : State σ)
    (h : Step P R dev buffer s l s₁) (h' : Step P R dev buffer s l' s₂) : s₁ = s₂ :=
  congrArg Prod.snd (Option.some.inj (h.symm.trans h'))

/-- The loop is started, and no run of the state machine ends in fewer than `n` steps. -/
def RunsOn (P : Platform σ) (R : Polling σ) (dev : DeviceId) (buffer : World σ → InputEvent)
    (w : World σ) (args : List String) (n : Nat) : Prop :=
  ∃ path w₁, args = [path] ∧
    Device.constructPath P dev path Device.defaultFlags w = .returned () w₁ ∧
    ∀ labels s code, Run (Step P R dev buffer) (start w₁) labels s → s.position = .exited code →
      n ≤ labels.length

/-- Whatever the arguments are and whatever the program is told, `main` ends as it should, unless its
loop runs on: no exception leaves it, and nothing is left of its device.  Budgets above the number of
steps that the loop makes suffice. -/
theorem main_ends (hdoc : P.Documented V) (hR : R.Passive P V) (I : Identity σ)
    (hfree : w.devices dev = none) (inner budget : Nat) (args : List String) :
    (main P R I dev buffer inner budget args).Ends
      (RunsOn P R dev buffer w args (min inner budget))
      (fun code t => w.Restored V t.1 ∧ Finished P R I dev buffer w args code t.2)
      (fun _ _ => False) (w, []) := by
  have husage : args.length ≠ 1 →
      w.Restored V w ∧ Finished P R I dev buffer w args (-1) [.usage] :=
    fun hargs => ⟨World.Restored.refl V w, .usage hargs⟩
  match args with
  | [] => exact husage (by simp)
  | _ :: _ :: _ => exact husage (by simp)
  | [path] =>
      refine Prog.ends_tryCatch.2 ?_
      refine Prog.Ends.mono (Device.ends_withDevice hdoc hfree
        (fun code out => Finished P R I dev buffer w [path] code out)
        (fun e out => Finished P R I dev buffer w [path] (-1) (out ++ [.line (.error e)]))
        ?_ ?_) (fun _ _ h => h) ?_
      · intro e w₁ hthrew
        exact .notOpened path e w₁ rfl hthrew
      · intro w₁ hcons hvalid
        refine (session_ends hdoc hR hvalid inner budget).imp ?_ ?_ ?_
        · -- A budget is used up, and the machine, which has one way to go, has not ended before.
          intro hlasts
          refine ⟨path, w₁, rfl, hcons, fun labels s code run hcode => ?_⟩
          exact hlasts.le_of_ended step_deterministic run fun _ _ => no_step hcode
        · rintro code t ⟨hkept, labels, s, hrun, rfl, hpos, hout⟩
          exact ⟨hkept, hout ▸ .ran path w₁ labels s 0 rfl hcons hvalid hrun hpos⟩
        · rintro e t ⟨hkept, labels, s, hrun, hpos, hout⟩
          exact ⟨hkept, hout ▸ .ran path w₁ labels s (-1) rfl hcons hvalid hrun hpos⟩
      · rintro e t ⟨hrestored, hfinished⟩
        exact Prog.ends_bind.2 (Prog.ends_of_returned (say_apply _ _ _) ⟨hrestored, hfinished⟩)

end Refinement

theorem passive_interrupted : interrupted.Passive Script.platform Script.views where
  shouldQuit := fun _ => ⟨rfl, rfl, rfl⟩
  sleepFor := fun _ => ⟨rfl, rfl, rfl⟩
  libevdevHasEventPending := fun _ _ => ⟨rfl, rfl, rfl⟩
  libevdevNextEvent := by
    intro _ flags s
    rcases s with ⟨files, evdevs, uinputs, errno, opens, handles, uhandles, metas, grabs, events⟩
    cases events with
    | nil => exact ⟨rfl, rfl, rfl⟩
    | cons answer rest => exact ⟨rfl, rfl, rfl⟩

/-- The signal arrives before the first event. -/
theorem main_ends_interrupted :
    ∃ t, main Script.platform interrupted (.named ['k']) 0 (fun _ => ⟨0, 0, 0, 0, 0⟩) 1 1
          ["/dev/input/event0"] (World.init { opens := [3], handles := [0] }, []) =
        .returned 0 t ∧
      t.2 = [.opened ['k'], .line .exiting] ∧
      World.Restored Script.views (World.init { opens := [3], handles := [0] }) t.1 := by
  obtain ⟨t, hmain, hout⟩ : ∃ t, main Script.platform interrupted (.named ['k']) 0
      (fun _ => ⟨0, 0, 0, 0, 0⟩) 1 1 ["/dev/input/event0"]
      (World.init { opens := [3], handles := [0] }, []) = .returned 0 t ∧
        t.2 = [.opened ['k'], .line .exiting] := ⟨_, rfl, rfl⟩
  have hfree : (World.init ({ opens := [3], handles := [0] } : Script)).devices 0 = none := rfl
  refine ⟨t, hmain, hout, ?_⟩
  exact ((main_ends Script.documented passive_interrupted (.named ['k']) hfree 1 1
    ["/dev/input/event0"]).of_returned hmain).1

end Reader

end Evdevxx
