import Evdevxx.Model.ReaderMain
import Evdevxx.Names.Formats
import Evdevxx.Tools.Transcript

/-!
# Decoding — the output of the reader can be read back

A program that gets the output of the reader through a pipe can tell what happened: which events and
deltas there were, where the synchronisation was lost and where the reader took it for restored.  The
time stamps are not printed, and errors go elsewhere.
-/

namespace Evdevxx

section

variable {T : NameTables} {type : EventType} {e e' : Event} {c : Char} {rest : Text}

/-- The text of a type starts like a name, or with a digit. -/
theorem EventType.toText_first (hT : T.Words) (h : type.toText T = c :: rest) :
    isNameChar c = true := by
  unfold EventType.toText at h
  cases hname : T.eventTypeGetName type.value.toUInt32 with
  | none =>
      rw [hname] at h
      rcases formatHex_head (2 : UInt32).toInt32.toInt.toNat type.value.toUInt32.toNat with
        ⟨digits, hdigits⟩
      have hzero : '0' :: digits = c :: rest := hdigits.symm.trans h
      rw [← (List.cons.inj hzero).1]
      decide
  | some name =>
      rw [hname] at h
      refine hT.typeChars hname c ?_
      rw [show name = c :: rest from h]
      exact List.mem_cons_self

/-- The text of an event starts like a name, or with a digit or a comma. -/
theorem Event.toText_first (hT : T.Words) (e : Event) :
    ∃ c rest, e.toText T = c :: rest ∧ (isNameChar c = true ∨ c = ',') := by
  unfold Event.toText
  cases htype : e.type.toText T with
  | nil => exact ⟨',', _, rfl, Or.inr rfl⟩
  | cons c rest => exact ⟨c, _, rfl, Or.inl (EventType.toText_first hT htype)⟩

/-- The text of an event is a single line. -/
theorem Event.newline_not_mem_toText (hT : T.Words) (e : Event) : '\n' ∉ e.toText T := by
  have htype : '\n' ∉ e.type.toText T :=
    EventType.not_mem_toText hT (by decide) (by decide) (by decide)
  have hcode : '\n' ∉ codeToString T e.type e.code :=
    not_mem_codeToString hT (by decide) (by decide) (by decide)
  have hvalue : '\n' ∉ decimal e.value.toInt := not_mem_decimal (by decide) (by decide)
  have hcomma : '\n' ∉ ", ".toList := by decide
  have hequals : '\n' ∉ " = ".toList := by decide
  simp only [Event.toText, List.mem_append, not_or]
  exact ⟨⟨⟨⟨htype, hcomma⟩, hcode⟩, hequals⟩, hvalue⟩

end

namespace Reader

namespace Line

/-- The line without the time stamp of its event. -/
def untimed : Line → Line
  | .event e => .event { e with sec := 0, usec := 0 }
  | .delta e => .delta { e with sec := 0, usec := 0 }
  | l => l

/-- The line goes to `cout`. -/
def onCout : Line → Bool
  | .error _ => false
  | _ => true

/-- What a line is. -/
def kind : Line → Nat
  | .exiting => 0
  | .lostSync => 1
  | .delta _ => 2
  | .syncRestored => 3
  | .event _ => 4
  | .error _ => 5

/-- What a line is, told by its first text. -/
def kindOf : Text → Nat
  | [] => 0
  | c :: _ => if c = 'l' then 1 else if c = 'd' then 2 else if c = 's' then 3 else 4

end Line

section Decoding

variable {T : NameTables} {l l' : Line} {ls ls' : List Line} {r r' : List Text}

theorem newline_not_mem_texts (hT : T.Words) (l : Line) : ∀ t ∈ l.texts T, '\n' ∉ t := by
  intro t ht
  cases l with
  | event e =>
      rw [List.mem_singleton.1 ht]
      exact e.newline_not_mem_toText hT
  | delta e =>
      have hpre : '\n' ∉ "delta: ".toList := by decide
      rw [List.mem_singleton.1 ht, List.mem_append, not_or]
      exact ⟨hpre, e.newline_not_mem_toText hT⟩
  | lostSync =>
      rw [List.mem_singleton.1 ht]
      decide
  | syncRestored =>
      rw [List.mem_singleton.1 ht]
      decide
  | exiting =>
      have hall : ∀ t ∈ [[], "Exiting.".toList], '\n' ∉ t := by decide
      exact hall t ht
  | error e => cases ht

/-- The first text tells what the line is. -/
theorem texts_first (hT : T.Words) (hl : l.onCout = true) :
    ∃ t rest, l.texts T = t :: rest ∧ Line.kindOf t = l.kind := by
  cases l with
  | event e =>
      rcases e.toText_first hT with ⟨c, rest, htext, hc⟩
      refine ⟨e.toText T, [], rfl, ?_⟩
      have hne : ∀ d : Char, isNameChar d = false → d ≠ ',' → c ≠ d := by
        rintro d hd hcomma rfl
        rcases hc with hname | rfl
        · rw [hd] at hname
          cases hname
        · exact hcomma rfl
      rw [htext]
      simp [Line.kindOf, Line.kind, hne 'l' (by decide) (by decide), hne 'd' (by decide) (by decide),
        hne 's' (by decide) (by decide)]
  | delta e => exact ⟨_, [], rfl, by simp [Line.kindOf, Line.kind]⟩
  | lostSync => exact ⟨_, [], rfl, by decide⟩
  | syncRestored => exact ⟨_, [], rfl, by decide⟩
  | exiting => exact ⟨_, _, rfl, rfl⟩
  | error e => cases hl

/-- The texts of a line determine the line, but for the time stamp, and where the next one begins. -/
theorem texts_append_inj (hT : T.Words) (hl : l.onCout = true) (hl' : l'.onCout = true)
    (h : l.texts T ++ r = l'.texts T ++ r') : l.untimed = l'.untimed ∧ r = r' := by
  have hkind : l.kind = l'.kind := by
    rcases texts_first hT hl with ⟨t, rest, htexts, ht⟩
    rcases texts_first hT hl' with ⟨t', rest', htexts', ht'⟩
    rw [htexts, htexts'] at h
    rw [← ht, ← ht', (List.cons.inj h).1]
  have hevent : ∀ {e e' : Event}, e.toText T = e'.toText T →
      ({ e with sec := 0, usec := 0 } : Event) = { e' with sec := 0, usec := 0 } := by
    intro e e' heq
    rcases Event.eq_of_toText_eq hT heq with ⟨htype, hcode, hvalue⟩
    rw [htype, hcode, hvalue]
  cases l with
  | event e =>
      cases l' with
      | event e' =>
          rcases List.cons.inj h with ⟨htext, hrest⟩
          exact ⟨congrArg Line.event (hevent htext), hrest⟩
      | _ => simp [Line.kind] at hkind
  | delta e =>
      cases l' with
      | delta e' =>
          rcases List.cons.inj h with ⟨htext, hrest⟩
          exact ⟨congrArg Line.delta (hevent (List.append_cancel_left htext)), hrest⟩
      | _ => simp [Line.kind] at hkind
  | lostSync =>
      cases l' with
      | lostSync => exact ⟨rfl, (List.cons.inj h).2⟩
      | _ => simp [Line.kind] at hkind
  | syncRestored =>
      cases l' with
      | syncRestored => exact ⟨rfl, (List.cons.inj h).2⟩
      | _ => simp [Line.kind] at hkind
  | exiting =>
      cases l' with
      | exiting => exact ⟨rfl, (List.cons.inj (List.cons.inj h).2).2⟩
      | _ => simp [Line.kind] at hkind
  | error e => cases hl

/-- The texts of several lines determine those that are not errors. -/
theorem texts_injective (hT : T.Words) (hls : ∀ l ∈ ls, l.onCout = true)
    (hls' : ∀ l ∈ ls', l.onCout = true)
    (h : ls.flatMap (Line.texts T) = ls'.flatMap (Line.texts T)) :
    ls.map Line.untimed = ls'.map Line.untimed := by
  have hne : ∀ l : Line, l.onCout = true → l.texts T ≠ [] := by
    intro l hl hnil
    rcases texts_first hT hl with ⟨t, rest, htexts, _⟩
    rw [hnil] at htexts
    cases htexts
  induction ls generalizing ls' with
  | nil =>
      cases ls' with
      | nil => rfl
      | cons l' ls' =>
          rw [List.flatMap_nil, List.flatMap_cons] at h
          exact absurd (List.append_eq_nil_iff.1 h.symm).1 (hne l' (hls' l' List.mem_cons_self))
  | cons l ls ih =>
      cases ls' with
      | nil =>
          rw [List.flatMap_nil, List.flatMap_cons] at h
          exact absurd (List.append_eq_nil_iff.1 h).1 (hne l (hls l List.mem_cons_self))
      | cons l' ls' =>
          rw [List.flatMap_cons, List.flatMap_cons] at h
          rcases texts_append_inj hT (hls l List.mem_cons_self) (hls' l' List.mem_cons_self) h with
            ⟨hline, hrest⟩
          rw [List.map_cons, List.map_cons, hline,
            ih (fun l hl => hls l (List.mem_cons_of_mem _ hl))
              (fun l hl => hls' l (List.mem_cons_of_mem _ hl)) hrest]

/-- Errors leave no trace on `cout`. -/
theorem texts_filter (T : NameTables) (ls : List Line) :
    (ls.filter Line.onCout).flatMap (Line.texts T) = ls.flatMap (Line.texts T) := by
  induction ls with
  | nil => rfl
  | cons l ls ih =>
      cases l with
      | error e => simpa [Line.onCout, Line.texts] using ih
      | _ => rw [List.filter_cons_of_pos rfl, List.flatMap_cons, List.flatMap_cons, ih]

/-- What is on `cout` determines the lines that are not errors, but for the time stamps. -/
theorem cout_injective (hT : T.Words) (h : cout T ls = cout T ls') :
    (ls.filter Line.onCout).map Line.untimed = (ls'.filter Line.onCout).map Line.untimed := by
  have hnewline : ∀ ls : List Line, ∀ t ∈ ls.flatMap (Line.texts T), '\n' ∉ t := by
    intro ls t ht
    rcases List.mem_flatMap.1 ht with ⟨l, _, hl⟩
    exact newline_not_mem_texts hT l t hl
  have htexts := terminated_injective (hnewline ls) (hnewline ls') h
  rw [← texts_filter T ls, ← texts_filter T ls'] at htexts
  exact texts_injective hT (fun l hl => (List.mem_filter.1 hl).2)
    (fun l hl => (List.mem_filter.1 hl).2) htexts

/-- The line is printed for an answer of libevdev. -/
def Line.ofAnswer : Line → Bool
  | .exiting => false
  | .error _ => false
  | _ => true

theorem ofAnswer_of_printed (a : Answer) : ∀ l ∈ a.printed, l.ofAnswer = true := by
  intro l hl
  unfold Answer.printed at hl
  split at hl
  · split at hl
    · split at hl <;> rw [List.mem_singleton.1 hl] <;> rfl
    · split at hl <;> rw [List.mem_singleton.1 hl] <;> rfl
  · split at hl
    · rw [List.mem_singleton.1 hl]
      rfl
    · cases hl
  · cases hl

/-- The last line of a run is printed for no answer. -/
theorem Ending.filter_last {labels : List Answer} {p : Position} {last : List Line}
    (h : Ending labels p last) : last.filter Line.ofAnswer = [] := by
  cases h with
  | running _ _ => rfl
  | quit _ _ _ => rfl
  | failed _ _ _ _ _ _ _ => rfl

theorem filter_ofAnswer_map (ls : List Line) :
    ((ls.filter Line.onCout).map Line.untimed).filter Line.ofAnswer =
      (ls.filter Line.ofAnswer).map Line.untimed := by
  induction ls with
  | nil => rfl
  | cons l ls ih =>
      cases l with
      | exiting =>
          rw [List.filter_cons_of_pos rfl, List.map_cons, List.filter_cons_of_neg Bool.false_ne_true,
            ih, List.filter_cons_of_neg Bool.false_ne_true]
      | error e =>
          rw [List.filter_cons_of_neg Bool.false_ne_true, ih,
            List.filter_cons_of_neg Bool.false_ne_true]
      | _ =>
          rw [List.filter_cons_of_pos rfl, List.map_cons, List.filter_cons_of_pos rfl, ih,
            List.filter_cons_of_pos rfl, List.map_cons]

end Decoding

section Runs

variable {T : NameTables} {σ σ' : Type} {P : Platform σ} {P' : Platform σ'} {V : Views σ}
variable {V' : Views σ'} {R : Polling σ} {R' : Polling σ'} {dev dev' : DeviceId}
variable {buffer : World σ → InputEvent} {buffer' : World σ' → InputEvent} {w : World σ}
variable {w' : World σ'} {s : State σ} {s' : State σ'} {labels labels' : List Answer}

/-- The lines for the answers are what is left of the output without its last line. -/
theorem printed_of_tracked (h : Tracked dev labels s) :
    s.out.filter Line.ofAnswer = labels.flatMap Answer.printed := by
  rcases h.printed with ⟨last, hout, hending⟩
  rw [hout, List.filter_append, hending.filter_last, List.append_nil]
  refine List.filter_eq_self.2 fun l hl => ?_
  rcases List.mem_flatMap.1 hl with ⟨a, _, ha⟩
  exact ofAnswer_of_printed a l ha

/-- Two runs, on any devices and whatever they are told, that have written the same have read the same
events and deltas in the same order, lost the synchronisation at the same places and ended their drains
at the same places.  `sync restored` is the line for the end of a drain, also when an error has cut it
short: what ended it cannot be told. -/
theorem output_determines_answers (hT : T.Words) (hdoc : P.Documented V) (hdoc' : P'.Documented V')
    (hvalid : Device.Valid w dev) (hvalid' : Device.Valid w' dev')
    (run : Run (Step P R dev buffer) (start w) labels s)
    (run' : Run (Step P' R' dev' buffer') (start w') labels' s') (h : cout T s.out = cout T s'.out) :
    (labels.flatMap Answer.printed).map Line.untimed =
      (labels'.flatMap Answer.printed).map Line.untimed := by
  rw [← printed_of_tracked (run_tracked hdoc hvalid run),
    ← printed_of_tracked (run_tracked hdoc' hvalid' run'), ← filter_ofAnswer_map,
    ← filter_ofAnswer_map, cout_injective hT h]

/-- A run on an event, and the same run with another time stamp. -/
theorem output_determines_answers_timed :
    (polled ++ [Answer.read ReadFlag.normal 0 (some ⟨1, 2, 1, 30, 1⟩)]).flatMap Answer.printed ≠
        (polled ++ [Answer.read ReadFlag.normal 0 (some ⟨1, 3, 1, 30, 1⟩)]).flatMap Answer.printed ∧
      ((firstSteps 5 [(0, some ⟨1, 2, 1, 30, 1⟩)]).1.flatMap Answer.printed).map Line.untimed =
        ((firstSteps 5 [(0, some ⟨1, 3, 1, 30, 1⟩)]).1.flatMap Answer.printed).map Line.untimed := by
  have hvalid : ∀ e, Device.Valid (Script.withDevice { events := [(0, some e)] }) 0 :=
    fun e => ⟨{ raw := some 0 }, 0, rfl, rfl⟩
  refine ⟨by decide, ?_⟩
  exact output_determines_answers Sample.words Script.documented Script.documented (hvalid _)
    (hvalid _) (run_firstSteps 5 [(0, some ⟨1, 2, 1, 30, 1⟩)])
    (run_firstSteps 5 [(0, some ⟨1, 3, 1, 30, 1⟩)]) rfl

end Runs

end Reader

end Evdevxx
