import Evdevxx.Device.Details
import Evdevxx.Device.Lifetime
import Evdevxx.Model.QueryMain

/-!
# QueryMain — what the query tool reports

`Query.report` says what the tool is to write about a device, from the lists of what the device has;
it knows no loops, and no queries that depend on one another.  `printDevice_writes` connects it to
`print_device`, and `query_reports` says what the terminal shows after a run of the tool.
-/

namespace Evdevxx

namespace Query

section Spec

variable {σ : Type} (I : Inquiry σ) (columns : UInt32) (h : Handle) (s : σ)

/-- The line of a field that may be missing. -/
def fieldText (label : Text) (field : Option Text) : Text :=
  match field with
  | some t => line label t
  | none => []

/-- The lines of the numbers. -/
def numbersText : Text :=
  line "  VID: ".toList (hex4 (UInt16.ofInt (I.identity.libevdevGetIdVendor h s)).toNat) ++
    (line "  PID: ".toList (hex4 (UInt16.ofInt (I.identity.libevdevGetIdProduct h s)).toNat) ++
    (line "  BUS: ".toList (hex4 (UInt16.ofInt (I.identity.libevdevGetIdBustype h s)).toNat) ++
    (line "  VER: ".toList (hex4 (UInt16.ofInt (I.identity.libevdevGetIdVersion h s)).toNat) ++
    line "  DRV: ".toList (hex4 (UInt32.ofInt (I.identity.libevdevGetDriverVersion h s)).toNat))))

/-- What is written before the types. -/
def headingText : Text :=
  line "  Name: ".toList (I.identity.libevdevGetName h s) ++
    (fieldText "  Phys: ".toList (I.identity.libevdevGetPhys h s) ++
    (fieldText "  Uniq: ".toList (I.identity.libevdevGetUniq h s) ++
    (numbersText I h s ++
    (I.details.properties h s).flatMap fun p => line "  Prop: ".toList (p.toText I.names))))

/-- The two lines of an axis; the second one cannot be written without its range. -/
def axisReport (c : Code) : Report Exn Shown :=
  (Report.done (shown (line "    ".toList (codeToString I.names .abs c) ++ "        ".toList))).append
    (match I.details.libevdevGetAbsInfo h c.value.toUInt32 s with
      | none => .failed (.std (.runtimeError "libevdev_get_abs_info() failed."))
      | some info => .done (shown ((AbsInfo.ofInput info).toText ++ ['\n'])))

/-- What is written for the codes of a type, which needs a range of codes. -/
def codesReport (t : EventType) (write : List Code → Report Exn Shown) : Report Exn Shown :=
  match Code.max I.names t with
  | .error e => .failed (.std e)
  | .ok max => write (I.capabilities.codes h s t max)

/-- The lines of a type. -/
def typeReport (t : EventType) : Report Exn Shown :=
  (Report.done (shown (line "  Type: ".toList (t.toText I.names)))).append
    (if t = .abs then codesReport I h s t fun codes => .concat (codes.map (axisReport I h s))
    else if t = .syn then .done []
    else codesReport I h s t fun codes => .done (shown (printList I.names columns t codes)))

/-- What is to be written about the device behind `h`. -/
def report : Report Exn Shown :=
  (Report.done (shown (headingText I h s))).append
    ((Report.concat ((I.capabilities.types h s).map (typeReport I columns h s))).append
      (.done (shown ['\n'])))

end Spec

section Refinement

variable {σ : Type} {P : Platform σ} {I : Inquiry σ} {columns : UInt32} {d : DeviceId}
variable {budget : Nat} {w : World σ} {D : Device} {h : Handle}

theorem shown_append (t t' : Text) : shown (t ++ t') = shown t ++ shown t' :=
  List.map_append

/-- Two texts after one another. -/
theorem text_append_text (t t' : Text) (r : Report Exn Shown) :
    (Report.done (shown t)).append ((Report.done (shown t')).append r) =
      (Report.done (shown (t ++ t'))).append r := by
  rw [Report.done_append_done_append, shown_append]

theorem writes_text {p q : Action σ Unit} {t t' : Text} {r : Report Exn Shown}
    (hp : p.Writes (.done (shown t)) w) (hq : q.Writes ((Report.done (shown t')).append r) w) :
    (do p; q).Writes ((Report.done (shown (t ++ t'))).append r) w :=
  (hp.bind hq).of_eq (text_append_text t t' r)

theorem writes_text_last {p q : Action σ Unit} {t t' : Text}
    (hp : p.Writes (.done (shown t)) w) (hq : q.Writes (.done (shown t')) w) :
    (do p; q).Writes (.done (shown (t ++ t'))) w :=
  (hp.bind hq).of_eq (by rw [Report.done_append_done, shown_append])

theorem out_writes (t : Text) : (out t : Action σ Unit).Writes (.done (shown t)) w :=
  Prog.writes_write _

theorem printIf_writes (label : Text) (arg : Option Text) :
    (printIf label arg : Action σ Unit).Writes (.done (shown (fieldText label arg))) w := by
  cases arg with
  | none => exact Prog.writes_nothing
  | some arg => exact out_writes _

theorem printAxis_writes (hD : w.devices d = some D) (hraw : D.raw = some h) (c : Code) :
    (printAxis I d c).Writes (axisReport I h w.env c) w := by
  have hinfo := Device.getAbsInfo_apply (A := I.details) hD hraw c
  cases hask : I.details.libevdevGetAbsInfo h c.value.toUInt32 w.env with
  | none =>
      rw [hask] at hinfo
      refine (writes_text (out_writes _) ((out_writes _).bind (Prog.writes_of_failed hinfo))).of_eq ?_
      rw [axisReport, hask]
  | some info =>
      rw [hask] at hinfo
      refine (writes_text (out_writes _) ((out_writes _).bind
        (Prog.Writes.of_asked hinfo (out_writes _)))).of_eq ?_
      rw [axisReport, hask]

theorem printAbs_writes (hI : I.capabilities.Ranged I.names) (hD : w.devices d = some D)
    (hraw : D.raw = some h) (hbudget : 0x10000 ≤ budget) :
    (printAbs I d budget).Writes
      (codesReport I h w.env .abs fun codes => .concat (codes.map (axisReport I h w.env))) w := by
  have hcodes := Device.getCodes_apply .abs hI hD hraw hbudget
  unfold codesReport
  cases hmax : Code.max I.names .abs with
  | error e =>
      rw [hmax] at hcodes
      exact Prog.writes_of_failed hcodes
  | ok max =>
      rw [hmax] at hcodes
      exact Prog.Writes.of_asked hcodes
        (Prog.writes_forEach (fun c => printAxis_writes hD hraw c) _)

theorem printCodes_writes (hI : I.capabilities.Ranged I.names) (hD : w.devices d = some D)
    (hraw : D.raw = some h) (hbudget : 0x10000 ≤ budget) (t : EventType) :
    (do
      let text ← Prog.onFst (printCodes I.names columns t I.capabilities d budget)
      out text).Writes
      (codesReport I h w.env t fun codes => .done (shown (printList I.names columns t codes))) w := by
  have hcodes := Device.getCodes_apply t hI hD hraw hbudget
  have hprint : ∀ {o}, Device.getCodes I.capabilities I.names d t budget w = o →
      printCodes I.names columns t I.capabilities d budget w =
        o.andThen fun codes => pure (printList I.names columns t codes) := by
    rintro o rfl
    rfl
  unfold codesReport
  cases hmax : Code.max I.names t with
  | error e =>
      rw [hmax] at hcodes
      exact Prog.writes_of_failed (hprint hcodes)
  | ok max =>
      rw [hmax] at hcodes
      exact Prog.Writes.of_asked (hprint hcodes) (out_writes _)

theorem printType_writes (hI : I.capabilities.Ranged I.names) (hD : w.devices d = some D)
    (hraw : D.raw = some h) (hbudget : 0x10000 ≤ budget) (t : EventType) :
    (printType I columns d budget t).Writes (typeReport I columns h w.env t) w := by
  refine (out_writes _).bind ?_
  by_cases habs : t = .abs
  · subst habs
    exact printAbs_writes hI hD hraw hbudget
  · rw [if_neg habs, if_neg habs]
    by_cases hsyn : t = .syn
    · rw [if_pos hsyn, if_pos hsyn]
      exact Prog.writes_nothing
    · rw [if_neg hsyn, if_neg hsyn]
      exact printCodes_writes hI hD hraw hbudget t

theorem printNumbers_writes (hD : w.devices d = some D) (hraw : D.raw = some h) :
    (printNumbers I d).Writes (.done (shown (numbersText I h w.env))) w := by
  have hask : ∀ {α : Type} (ask : Handle → σ → α),
      Prog.noexcept (Device.query d ask) w = .returned (ask h w.env) w :=
    Device.noexcept_query_apply hD hraw
  refine Prog.Writes.of_asked (hask _) (writes_text_last (out_writes _) ?_)
  refine Prog.Writes.of_asked (hask _) (writes_text_last (out_writes _) ?_)
  refine Prog.Writes.of_asked (hask _) (writes_text_last (out_writes _) ?_)
  refine Prog.Writes.of_asked (hask _) (writes_text_last (out_writes _) ?_)
  exact Prog.Writes.of_asked (hask _) (out_writes _)

theorem printProps_writes (props : List Property) :
    (Prog.forEach (fun p => out (line "  Prop: ".toList (p.toText I.names))) props :
      Action σ Unit).Writes
        (.done (shown (props.flatMap fun p => line "  Prop: ".toList (p.toText I.names)))) w := by
  refine (Prog.writes_forEach (fun p => out_writes _) props).of_eq ?_
  rw [Report.concat_done]
  exact congrArg Report.done (List.map_flatMap ..).symm

/-- `print_device` writes the report of the device, and changes nothing. -/
theorem printDevice_writes (columns : UInt32) (hI : I.capabilities.Ranged I.names)
    (hD : w.devices d = some D) (hraw : D.raw = some h) (hbudget : 0x10000 ≤ budget) :
    (printDevice I columns d budget).Writes (report I columns h w.env) w := by
  have hask : ∀ {α : Type} (ask : Handle → σ → α),
      Device.query d ask w = .returned (ask h w.env) w := Device.query_apply hD hraw
  have hprops := Device.getProperties_apply (A := I.details) hD hraw
    (Nat.lt_of_lt_of_le (by decide) hbudget)
  have htypes := Device.getTypes_apply (Q := I.capabilities) hD hraw
    (Nat.lt_of_lt_of_le (by decide) hbudget)
  refine Prog.Writes.of_asked (hask _) (writes_text (out_writes _) ?_)
  refine Prog.Writes.of_asked (hask _) (writes_text (printIf_writes _ _) ?_)
  refine Prog.Writes.of_asked (hask _) (writes_text (printIf_writes _ _) ?_)
  refine writes_text (printNumbers_writes hD hraw) ?_
  refine Prog.Writes.of_asked hprops (Prog.Writes.bind (printProps_writes _) ?_)
  refine Prog.Writes.of_asked htypes (Prog.Writes.bind ?_ (out_writes _))
  exact Prog.writes_forEach (printType_writes hI hD hraw hbudget) _

end Refinement

/-- What the tool relies on.  Asking the terminal for its size changes nothing. -/
structure Documented {σ : Type} (I : Inquiry σ) (V : Views σ) : Prop where
  ranged : I.capabilities.Ranged I.names
  ioctlTiocgwinsz : ∀ fd s, V.Same s (I.ioctlTiocgwinsz fd s).2

/-! ## Reports that are cut short -/

section Reports

variable {σ : Type} {I : Inquiry σ} {columns : UInt32} {h : Handle} {s : σ}

theorem full_axisReport_iff (c : Code) :
    (axisReport I h s c).Full ↔ I.details.libevdevGetAbsInfo h c.value.toUInt32 s ≠ none := by
  unfold axisReport
  cases I.details.libevdevGetAbsInfo h c.value.toUInt32 s with
  | none => simp
  | some info => simp

/-- The codes of a type are reported if the type has a range of codes. -/
theorem full_codesReport_iff (hI : I.capabilities.Ranged I.names) (t : EventType)
    {write : List Code → Report Exn Shown} {p : Code → Prop}
    (hwrite : ∀ codes, (write codes).Full ↔ ∀ c ∈ codes, p c) :
    (codesReport I h s t write).Full ↔ I.names.eventTypeGetMax t.value.toUInt32 ≠ -1 ∧
      ∀ c : Code, I.capabilities.libevdevHasEventCode h t.value.toUInt32 c.value.toUInt32 s = true →
        p c := by
  unfold codesReport
  cases hmax : Code.max I.names t with
  | error e =>
      have hrange : I.names.eventTypeGetMax t.value.toUInt32 = -1 := by
        by_contra hne
        simp [Code.max, hne] at hmax
      simp [hrange]
  | ok max =>
      have hrange : I.names.eventTypeGetMax t.value.toUInt32 ≠ -1 := by
        intro heq
        simp [Code.max, heq] at hmax
      simp only [hwrite, Device.mem_codes_of_ranged hI hmax, ne_eq, hrange, not_false_eq_true,
        true_and]

/-- Libevdev has an answer to all that is asked about a type: a range of codes, unless nothing is asked
about them, and the values of every axis. -/
def Answerable (I : Inquiry σ) (h : Handle) (s : σ) (t : EventType) : Prop :=
  (t ≠ .syn → I.names.eventTypeGetMax t.value.toUInt32 ≠ -1) ∧
    (t = .abs → ∀ c : Code,
      I.capabilities.libevdevHasEventCode h t.value.toUInt32 c.value.toUInt32 s = true →
        I.details.libevdevGetAbsInfo h c.value.toUInt32 s ≠ none)

theorem full_typeReport_iff (hI : I.capabilities.Ranged I.names) (t : EventType) :
    (typeReport I columns h s t).Full ↔ Answerable I h s t := by
  rw [Answerable, typeReport, Report.full_append_iff, and_iff_right (Report.full_done _)]
  by_cases habs : t = .abs
  · have hsyn : t ≠ .syn := by
      rw [habs]
      decide
    rw [if_pos habs, full_codesReport_iff hI t (p := fun c =>
      I.details.libevdevGetAbsInfo h c.value.toUInt32 s ≠ none)]
    · exact and_congr (imp_iff_right hsyn).symm (imp_iff_right habs).symm
    · intro codes
      simp only [Report.full_concat_iff, List.forall_mem_map, full_axisReport_iff]
  · rw [if_neg habs]
    by_cases hsyn : t = .syn
    · rw [if_pos hsyn]
      exact iff_of_true rfl ⟨fun hne => absurd hsyn hne, fun heq => absurd heq habs⟩
    · rw [if_neg hsyn, full_codesReport_iff hI t (p := fun _ => True)]
      · simp [hsyn, habs]
      · simp

/-- What is written about a device is complete exactly if libevdev has an answer for each of its types.
Then there is a section for each type, in increasing order; else the first type without an answer has
the last section, and the error is the one of this section. -/
theorem report_full_iff (hI : I.capabilities.Ranged I.names) (columns : UInt32) (h : Handle) (s : σ) :
    ((report I columns h s).Full ↔ ∀ t : EventType, t.value ≤ evMax →
      I.capabilities.libevdevHasEventType h t.value.toUInt32 s = true → Answerable I h s t) ∧
    ((report I columns h s).Full → (report I columns h s).shown = shown (headingText I h s) ++
      (I.capabilities.types h s).flatMap (fun t => (typeReport I columns h s t).shown) ++
        shown ['\n']) ∧
    (¬ (report I columns h s).Full → ∃ before t after,
      I.capabilities.types h s = before ++ t :: after ∧ (∀ t' ∈ before, Answerable I h s t') ∧
        ¬ Answerable I h s t ∧ (report I columns h s).error = (typeReport I columns h s t).error ∧
        (report I columns h s).shown = shown (headingText I h s) ++
          before.flatMap (fun t => (typeReport I columns h s t).shown) ++
            (typeReport I columns h s t).shown) := by
  have hfull : (report I columns h s).Full ↔
      ∀ t ∈ I.capabilities.types h s, (typeReport I columns h s t).Full := by
    rw [report, Report.full_append_iff, Report.full_append_iff, Report.full_concat_iff,
      List.forall_mem_map]
    exact ⟨fun hall => hall.2.1, fun hall => ⟨rfl, hall, rfl⟩⟩
  refine ⟨?_, fun hreport => ?_, fun hcut => ?_⟩
  · simp only [hfull, Capabilities.mem_types, full_typeReport_iff hI, and_imp]
  · have hsections := hfull.1 hreport
    rw [← List.forall_mem_map (f := typeReport I columns h s) (P := Report.Full)] at hsections
    rw [report, Report.done_append, Report.append_of_full ((Report.full_concat_iff _).2 hsections),
      Report.shown_concat hsections, List.flatMap_map, List.append_assoc]
    rfl
  · have hsections : ∃ e, (Report.concat ((I.capabilities.types h s).map
        (typeReport I columns h s))).error = some e := by
      refine Option.ne_none_iff_exists'.1 fun hnone => hcut (hfull.2 ?_)
      exact List.forall_mem_map.1 ((Report.full_concat_iff _).1 hnone)
    rcases hsections with ⟨e, herror⟩
    rcases Report.concat_of_error herror with ⟨before', r, after', hsplit, hbefore, hr, hshown⟩
    rcases List.map_eq_append_iff.1 hsplit with ⟨before, rest, htypes, rfl, hrest⟩
    rcases List.map_eq_cons_iff.1 hrest with ⟨t, after, rfl, rfl, rfl⟩
    refine ⟨before, t, after, htypes, fun t' ht' => ?_, fun hanswer => ?_, ?_, ?_⟩
    · exact (full_typeReport_iff hI t').1 (List.forall_mem_map.1 hbefore t' ht')
    · have hnone : (typeReport I columns h s t).error = none := (full_typeReport_iff hI t).2 hanswer
      rw [hnone] at hr
      cases hr
    · rw [report, Report.done_append, Report.append_of_error herror, hr]
      exact herror
    · rw [report, Report.done_append, Report.append_of_error herror, hshown, List.flatMap_map,
        List.append_assoc]

/-- A power button: `EV_PWR` has no codes.  There is no terminal. -/
def powerButton : Inquiry Script where
  identity := .named ['k']
  capabilities := .ofBits [0, 1, 0x16] [(1, 30)]
  details :=
    { libevdevHasProperty := fun _ _ _ => false
      libevdevGetAbsInfo := fun _ _ _ => none }
  names := Sample.tables
  ioctlTiocgwinsz := fun _ s => ((-1, 0), s)

theorem documented_powerButton : Documented powerButton Script.views where
  ranged := Device.ranged_of_bits (List.forall_mem_singleton.2 (by decide))
  ioctlTiocgwinsz := fun _ _ => ⟨rfl, rfl, rfl⟩

/-- The report of a power button is cut short. -/
theorem report_full_iff_power_button : ¬ (report powerButton 80 0 ({} : Script)).Full := by
  intro hfull
  have hall := (report_full_iff documented_powerButton.ranged 80 0 {}).1.1 hfull
  exact absurd ((hall ⟨⟨0x16⟩⟩ (by decide) rfl).1 (by decide)) (by decide)

end Reports

/-! ## Runs of the tool -/

section Runs

variable {σ : Type} {P : Platform σ} {V : Views σ} {I : Inquiry σ} {columns : UInt32}
variable {d : DeviceId} {budget : Nat} {w w' : World σ}

/-- A report, and the error that cut it short. -/
def reportShown (r : Report Exn Shown) : List Shown :=
  r.shown ++ r.error.toList.map Shown.error

/-- What the terminal shows behind the header of an argument, and the world afterwards: that the
device cannot be opened, or the report of the device that is then destroyed. -/
inductive Entry (P : Platform σ) (I : Inquiry σ) (columns : UInt32) (d : DeviceId) (path : String) :
    World σ → List Shown → World σ → Prop where
  | notOpened {w w' : World σ} (e : Exn) :
      Device.constructPath P d path Device.defaultFlags w = .threw e w' →
      Entry P I columns d path w [.error e] w'
  | reported {w w₁ w' : World σ} (h : Handle) :
      Device.constructPath P d path Device.defaultFlags w = .returned () w₁ →
      w₁.rawAt d = some h → Device.destruct P d w₁ = .returned () w' →
      Entry P I columns d path w (reportShown (report I columns h w₁.env)) w'

/-- What the terminal shows for several arguments, each with the world that the one before leaves. -/
inductive Entries (P : Platform σ) (I : Inquiry σ) (columns : UInt32) (d : DeviceId) (w : World σ) :
    List (String × Nat) → List Shown → World σ → Prop where
  | nil : Entries P I columns d w [] [] w
  | snoc {args : List (String × Nat)} {before body : List Shown} {w₁ w₂ : World σ}
      (arg : String × Nat) : Entries P I columns d w args before w₁ →
      Entry P I columns d arg.1 w₁ body w₂ →
      Entries P I columns d w (args ++ [arg]) (before ++ (shown (header arg.2 arg.1) ++ body)) w₂

theorem printArgument_ends (hdoc : P.Documented V) (hI : Documented I V)
    (hfree : w.devices d = none) (hbudget : 0x10000 ≤ budget) (arg : String × Nat)
    (before : List Shown) :
    (printArgument P I columns d budget arg).Ends False
      (fun _ t => w.Restored V t.1 ∧ ∃ body, Entry P I columns d arg.1 w body t.1 ∧
        t.2 = before ++ (shown (header arg.2 arg.1) ++ body)) (fun _ _ => False) (w, before) := by
  refine Prog.ends_tryCatch.2 (Prog.ends_bind.2 (Prog.ends_of_returned rfl ?_))
  refine Prog.ends_bind.2 (Prog.ends_onFst.2 ?_)
  rcases Device.constructPath_cases hdoc hfree arg.1 Device.defaultFlags with
    ⟨e, w₁, hcons, hrestored⟩ | ⟨h, fd, w₁, hcons, hopens⟩
  · refine Prog.ends_of_threw hcons (Prog.ends_of_returned rfl ?_)
    exact ⟨hrestored, _, .notOpened e hcons, List.append_assoc ..⟩
  · rcases hopens.valid with ⟨D, p, hD, hraw⟩
    rcases hopens.destruct hdoc (World.Kept.refl V w₁) with ⟨w₂, hdtor, hrestored⟩
    have hentry : Entry P I columns d arg.1 w _ w₂ :=
      .reported p hcons ((World.rawAt_of_some hD).trans hraw) hdtor
    have hwrites := printDevice_writes columns hI.ranged hD hraw hbudget
    refine Prog.ends_of_returned hcons (Prog.ends_andFinally.2 ((hwrites.ends False _).mono ?_ ?_))
    · rintro _ t ⟨rfl, hfull⟩
      refine Prog.ends_onFst.2 (Prog.ends_of_returned hdtor ⟨hrestored, _, hentry, ?_⟩)
      simp [reportShown, hfull]
    · rintro e t ⟨rfl, herror⟩
      refine Prog.ends_onFst.2 (Prog.ends_of_returned hdtor (Prog.ends_of_returned rfl ?_))
      exact ⟨hrestored, _, hentry, by simp [reportShown, herror]⟩

/-- The terminal is closed again. -/
theorem readColumnsEnv_apply (hdoc : P.Documented V) (hI : Documented I V)
    (hminus : V.files w.env (-1) = none) (columns : UInt32) :
    ∃ columns' w', readColumnsEnv P I columns w = .returned columns' w' ∧ w.Restored V w' := by
  have hopen := hdoc.posixOpen "/dev/tty" oRdonly w.env
  have hask := hI.ioctlTiocgwinsz (P.posixOpen "/dev/tty" oRdonly w.env).1
    (P.posixOpen "/dev/tty" oRdonly w.env).2
  have hclose := hdoc.posixClose (P.posixOpen "/dev/tty" oRdonly w.env).1
    (I.ioctlTiocgwinsz (P.posixOpen "/dev/tty" oRdonly w.env).1
      (P.posixOpen "/dev/tty" oRdonly w.env).2).2
  rcases hopen with ⟨hfiles, hevdevs, hudevs⟩
  refine ⟨_, _, rfl, rfl, rfl, rfl, fun fd => Or.inl (congrFun ?_ fd),
    hclose.2.1.trans (hask.2.1.trans hevdevs), hclose.2.2.trans (hask.2.2.trans hudevs)⟩
  refine hclose.1.trans ?_
  rw [hask.1]
  rcases hfiles with ⟨hfailed, hsame⟩ | ⟨_, hfresh, f, hupdate⟩
  · -- `::close(-1)` does nothing.
    rw [hfailed, hsame, ← hminus, Function.update_eq_self]
  · rw [hupdate, Function.update_idem, ← hfresh, Function.update_eq_self]

/-- Every run of the tool ends with the code 0. -/
theorem query_reports (hdoc : P.Documented V) (hI : Documented I V) (hfree : w.devices d = none)
    (hminus : V.files w.env (-1) = none) (hbudget : 0x10000 ≤ budget) (args : List String) :
    ∃ t columns w₁, main P I d budget args (w, []) = .returned 0 t ∧ w.Restored V t.1 ∧
      readColumnsEnv P I 80 w = .returned columns w₁ ∧
      Entries P I columns d w₁ (args.zipIdx 1) t.2 t.1 := by
  rcases readColumnsEnv_apply hdoc hI hminus 80 with ⟨columns, w₁, hcolumns, hrestored⟩
  have hloop : (Prog.forEach (printArgument P I columns d budget) (args.zipIdx 1)).Ends False
      (fun _ t => w.Restored V t.1 ∧ Entries P I columns d w₁ (args.zipIdx 1) t.2 t.1)
      (fun _ _ => False) (w₁, []) := by
    refine Prog.ends_forEach (I := fun done (t : World σ × List Shown) => w.Restored V t.1 ∧
      Entries P I columns d w₁ done t.2 t.1) ?_ ⟨hrestored, .nil⟩
    rintro done arg rest ⟨w', out⟩ _ ⟨hrestored', hentries⟩
    have hfree' : w'.devices d = none := by
      rw [hrestored'.devices]
      exact hfree
    refine (printArgument_ends hdoc hI hfree' hbudget arg out).mono ?_ fun _ _ h => h
    rintro _ t ⟨hback, body, hentry, hout⟩
    exact ⟨hrestored'.trans hback, hout ▸ hentries.snoc arg hentry⟩
  have hends : (main P I d budget args).Ends False
      (fun code (t : World σ × List Shown) => code = 0 ∧ w.Restored V t.1 ∧
        Entries P I columns d w₁ (args.zipIdx 1) t.2 t.1) (fun _ _ => False) (w, []) := by
    refine Prog.ends_bind.2 (Prog.ends_onFst.2 (Prog.ends_of_returned hcolumns ?_))
    exact Prog.ends_bind.2 (hloop.mono (fun _ _ h => ⟨rfl, h⟩) fun _ _ h => h)
  rcases hends.returns with ⟨code, t, hmain, rfl, hback, hentries⟩
  exact ⟨t, columns, w₁, hmain, hback, hcolumns, hentries⟩

/-- A power button, and an argument that cannot be opened. -/
theorem query_reports_power_button :
    ∃ t columns w₁, main Script.platform powerButton 0 0x10000 ["/dev/input/event0", "/dev/null"]
          (World.init { opens := [5, 3], handles := [0] }, []) = .returned 0 t ∧
      World.Restored Script.views (World.init { opens := [5, 3], handles := [0] }) t.1 ∧
      readColumnsEnv Script.platform powerButton 80
        (World.init { opens := [5, 3], handles := [0] }) = .returned columns w₁ ∧
      Entries Script.platform powerButton columns 0 w₁
        [("/dev/input/event0", 1), ("/dev/null", 2)] t.2 t.1 :=
  query_reports Script.documented documented_powerButton rfl rfl (Nat.le_refl _)
    ["/dev/input/event0", "/dev/null"]

end Runs

end Query

end Evdevxx
