import Evdevxx.Model.Sample

/-!
# Extraction — what `operator >>` for properties accepts

The token is the longest prefix of `A`..`Z` and `_` after the white space.  `getline` fails when it
runs into the end of the input, also after a whole name, and the operator then takes the stream's
failure for its own: a known name is accepted exactly if some character follows it.
-/

namespace Evdevxx

/-- `libevdev_property_from_name_n` returns the number of a property or `-1`, and
`libevdev_property_get_name` gives back the name of a number it returned. -/
def NameTables.InvertsPropertyNames (T : NameTables) : Prop :=
  ∀ name, T.propertyFromNameN name ≠ -1 → ∃ v : UInt32, v ≤ inputPropMax ∧
    T.propertyFromNameN name = v.toNat ∧ T.propertyGetName v = some name

namespace Property

/-- The longest prefix of valid characters after the white space. -/
def token (content : Text) : Text :=
  (content.dropWhile isSpace).takeWhile isValid

/-- What follows the token. -/
def afterToken (content : Text) : Text :=
  (content.dropWhile isSpace).dropWhile isValid

/-- Extracting from `s` into a variable that holds `prop` succeeds exactly if the token is a known
name; then the variable holds the named value and the next character is the one after the name.
Otherwise `failbit` is set and the variable is unchanged. -/
structure ExtractsName (T : NameTables) (s : IStream) (prop : Property)
    (r : Outcome StdError (IStream × Property) Unit) : Prop where
  ends : ∃ s' prop', r = .returned () (s', prop')
  accepts : ∀ s' prop', r = .returned () (s', prop') →
    (s'.fail = false ↔ token s.unread ≠ [] ∧ T.propertyFromNameN (token s.unread) ≠ -1)
  success : ∀ s' prop', r = .returned () (s', prop') → s'.fail = false →
    T.propertyFromNameN (token s.unread) = prop'.value.toNat ∧ s'.unread = afterToken s.unread
  failure : ∀ s' prop', r = .returned () (s', prop') → s'.fail = true →
    s'.failbit = true ∧ prop' = prop

section

variable {T : NameTables} {s : IStream} {prop : Property} {c : Char} {rest : Text}

/-! ## How extraction ends -/

/-- Only white space is left. -/
theorem extract_of_space (hgood : s.good = true) (hskipws : s.skipws = true)
    (hend : s.skip.unread = []) :
    extract T (s, prop) =
      .returned () ({ s.skip with eofbit := true, failbit := true }, prop) := by
  simp [extract, IStream.sentry_of_space hgood hskipws hend]

/-- After the white space comes a character that no name starts with. -/
theorem extract_of_invalid (hgood : s.good = true) (hskipws : s.skipws = true)
    (htext : s.skip.unread = c :: rest) (hc : isValid c = false) :
    extract T (s, prop) = .returned () (s.skip.setFail, prop) := by
  have hne : s.skip.unread ≠ [] := by simp [htext]
  simp [extract, IStream.sentry_of_text hgood hskipws hne,
    IStream.peek_of_cons (IStream.good_skip hgood) htext, hc]

/-- The token is read and the stream has not failed, or the token ends with the input. -/
theorem extract_of_valid (hgood : s.good = true) (hskipws : s.skipws = true)
    (htext : s.skip.unread = c :: rest) (hc : isValid c = true) :
    extract T (s, prop) =
      if afterToken s.unread = [] then
        .returned () (s.skip.atEnd, prop)
      else
        match parse T (token s.unread) (some 0) with
        | .returned prop' sz =>
            if sz ≠ some (token s.unread).length then
              .returned () ((s.skip.advance (token s.unread).length).setFail, prop')
            else
              .returned () (s.skip.advance (token s.unread).length, prop')
        | .threw _ _ =>
            .returned () ((s.skip.advance (token s.unread).length).setFail, prop)
        | .terminated => .terminated
        | .undefined => .undefined
        | .exhausted => .exhausted := by
  have hne : s.skip.unread ≠ [] := by simp [htext]
  have hskip := IStream.good_skip hgood
  simp only [extract, IStream.sentry_of_text hgood hskipws hne, IStream.peek_of_cons hskip htext,
    Option.getD_some, hc, Detail.getline_of_good hskip []]
  by_cases hafter : afterToken s.unread = []
  · have hdrop : s.skip.unread.dropWhile isValid = [] := hafter
    simp [hafter, hdrop]
  · have hdrop : s.skip.unread.dropWhile isValid ≠ [] := hafter
    have hfail : (s.skip.advance (s.skip.unread.takeWhile isValid).length).fail = false :=
      IStream.fail_of_good (IStream.good_advance hskip _)
    simp [hafter, hdrop, hfail]
    rfl

/-- `getline` has failed at the end of the input, whatever the token is. -/
theorem extract_of_end (hgood : s.good = true) (hskipws : s.skipws = true)
    (htext : s.skip.unread = c :: rest) (hc : isValid c = true)
    (hafter : afterToken s.unread = []) :
    extract T (s, prop) = .returned () (s.skip.atEnd, prop) := by
  rw [extract_of_valid hgood hskipws htext hc, if_pos hafter]

theorem token_of_space (hend : s.skip.unread = []) : token s.unread = [] := by
  have hdrop : s.unread.dropWhile isSpace = [] := hend
  simp [token, hdrop]

theorem token_of_invalid (htext : s.skip.unread = c :: rest) (hc : isValid c = false) :
    token s.unread = [] := by
  have hdrop : s.unread.dropWhile isSpace = c :: rest := htext
  simp [token, hdrop, hc]

theorem token_of_valid (htext : s.skip.unread = c :: rest) (hc : isValid c = true) :
    token s.unread ≠ [] := by
  have hdrop : s.unread.dropWhile isSpace = c :: rest := htext
  simp [token, hdrop, hc]

theorem extract_of_unknown (hgood : s.good = true) (hskipws : s.skipws = true)
    (htext : s.skip.unread = c :: rest) (hc : isValid c = true) (hafter : afterToken s.unread ≠ [])
    (hunknown : T.propertyFromNameN (token s.unread) = -1) :
    extract T (s, prop) =
      .returned () ((s.skip.advance (token s.unread).length).setFail, prop) := by
  rw [extract_of_valid hgood hskipws htext hc, if_neg hafter, parse_of_unknown hunknown]

theorem extract_of_known {v : UInt32} (hgood : s.good = true) (hskipws : s.skipws = true)
    (htext : s.skip.unread = c :: rest) (hc : isValid c = true) (hafter : afterToken s.unread ≠ [])
    (hv : v ≤ inputPropMax) (hknown : T.propertyFromNameN (token s.unread) = v.toNat)
    (hname : T.propertyGetName v = some (token s.unread)) :
    extract T (s, prop) =
      .returned () (s.skip.advance (token s.unread).length, ⟨⟨v⟩⟩) := by
  have hprinted : toText T ⟨⟨v⟩⟩ = token s.unread := toText_of_some hname
  rw [extract_of_valid hgood hskipws htext hc, if_neg hafter, parse_of_known hknown hv]
  simp [hprinted]

theorem unread_advance_token (s : IStream) :
    (s.skip.advance (token s.unread).length).unread = afterToken s.unread := by
  have hsplit : token s.unread ++ afterToken s.unread = s.skip.unread :=
    List.takeWhile_append_dropWhile
  calc (s.skip.advance (token s.unread).length).unread
      = s.skip.unread.drop (token s.unread).length := rfl
    _ = (token s.unread ++ afterToken s.unread).drop (token s.unread).length := by rw [hsplit]
    _ = afterToken s.unread := List.drop_left

/-! ## The grammar -/

/-- A failure is right where the token is not a known name. -/
theorem ExtractsName.rejected {s' : IStream} {r : Outcome StdError (IStream × Property) Unit}
    (hr : r = .returned () (s', prop)) (hfail : s'.failbit = true)
    (hunknown : ¬ (token s.unread ≠ [] ∧ T.propertyFromNameN (token s.unread) ≠ -1)) :
    ExtractsName T s prop r where
  ends := ⟨s', prop, hr⟩
  accepts := by
    intro s'' prop'' hr'
    rw [hr] at hr'
    cases hr'
    have hfailed : s'.fail = true := by simp [IStream.fail, hfail]
    simp only [hfailed, Bool.true_eq_false, false_iff]
    exact hunknown
  success := by
    intro s'' prop'' hr' hok
    rw [hr] at hr'
    cases hr'
    simp [IStream.fail, hfail] at hok
  failure := by
    intro s'' prop'' hr' _
    rw [hr] at hr'
    cases hr'
    exact ⟨hfail, rfl⟩

/-- Success is right where the token is the name of the value. -/
theorem ExtractsName.accepted {s' : IStream} {v : UInt32}
    {r : Outcome StdError (IStream × Property) Unit} (hr : r = .returned () (s', ⟨⟨v⟩⟩))
    (hgood : s'.good = true) (htoken : token s.unread ≠ [])
    (hknown : T.propertyFromNameN (token s.unread) = v.toNat)
    (hunread : s'.unread = afterToken s.unread) : ExtractsName T s prop r where
  ends := ⟨s', ⟨⟨v⟩⟩, hr⟩
  accepts := by
    intro s'' prop'' hr'
    rw [hr] at hr'
    cases hr'
    refine ⟨fun _ => ⟨htoken, ?_⟩, fun _ => IStream.fail_of_good hgood⟩
    rw [hknown]
    omega
  success := by
    intro s'' prop'' hr' _
    rw [hr] at hr'
    cases hr'
    exact ⟨hknown, hunread⟩
  failure := by
    intro s'' prop'' hr' hfail
    rw [hr] at hr'
    cases hr'
    rw [IStream.fail_of_good hgood] at hfail
    cases hfail

/-- Extraction accepts exactly its grammar, unless the input ends right after a known name. -/
theorem extracts_name_iff (hT : T.InvertsPropertyNames) (hgood : s.good = true)
    (hskipws : s.skipws = true) :
    ExtractsName T s prop (extract T (s, prop)) ↔
      ¬ (token s.unread ≠ [] ∧ T.propertyFromNameN (token s.unread) ≠ -1 ∧
        afterToken s.unread = []) := by
  cases htext : s.skip.unread with
  | nil =>
      have htoken := token_of_space htext
      refine ⟨fun _ hbad => hbad.1 htoken, fun _ => ?_⟩
      exact ExtractsName.rejected (extract_of_space hgood hskipws htext) rfl
        fun hbad => hbad.1 htoken
  | cons c rest =>
      cases hc : isValid c with
      | false =>
          have htoken := token_of_invalid htext hc
          refine ⟨fun _ hbad => hbad.1 htoken, fun _ => ?_⟩
          exact ExtractsName.rejected (extract_of_invalid hgood hskipws htext hc) rfl
            fun hbad => hbad.1 htoken
      | true =>
          have htoken := token_of_valid htext hc
          by_cases hafter : afterToken s.unread = []
          · have hend : extract T (s, prop) = .returned () (s.skip.atEnd, prop) :=
              extract_of_end hgood hskipws htext hc hafter
            constructor
            · intro hextracts hbad
              have hok := (hextracts.accepts _ _ hend).2 ⟨hbad.1, hbad.2.1⟩
              rw [IStream.fail_atEnd] at hok
              cases hok
            · intro hcond
              exact ExtractsName.rejected hend rfl fun hbad => hcond ⟨hbad.1, hbad.2, hafter⟩
          · refine ⟨fun _ hbad => hafter hbad.2.2, fun _ => ?_⟩
            by_cases hknown : T.propertyFromNameN (token s.unread) = -1
            · exact ExtractsName.rejected
                (extract_of_unknown hgood hskipws htext hc hafter hknown) rfl
                fun hbad => hbad.2 hknown
            · rcases hT _ hknown with ⟨v, hv, hval, hname⟩
              exact ExtractsName.accepted
                (extract_of_known hgood hskipws htext hc hafter hv hval hname)
                (IStream.good_advance (IStream.good_skip hgood) _) htoken hval
                (unread_advance_token s)

end

end Property

theorem Sample.invertsPropertyNames : Sample.tables.InvertsPropertyNames := by
  intro n hn
  rcases mem_of_foundOr hn with ⟨e, hmem, rfl, hfind⟩
  refine ⟨e.property, ?_, ?_, ?_⟩
  · exact (by decide : ∀ e ∈ Sample.properties, e.property ≤ inputPropMax) e hmem
  · simp [Sample.tables, NameTables.ofEntries, hfind, foundOr]
  · exact (by decide : ∀ e ∈ Sample.properties,
      Sample.tables.propertyGetName e.property = some e.name) e hmem

namespace Property

/-- A name that a line break follows. -/
theorem extracts_name_iff_line :
    ExtractsName Sample.tables { unread := " INPUT_PROP_DIRECT\n".toList } ⟨⟨0⟩⟩
        (extract Sample.tables ({ unread := " INPUT_PROP_DIRECT\n".toList }, ⟨⟨0⟩⟩)) ↔
      ¬ (token " INPUT_PROP_DIRECT\n".toList ≠ [] ∧
        Sample.tables.propertyFromNameN (token " INPUT_PROP_DIRECT\n".toList) ≠ -1 ∧
        afterToken " INPUT_PROP_DIRECT\n".toList = []) :=
  extracts_name_iff Sample.invertsPropertyNames rfl rfl

/-- A name at the end of the input. -/
theorem extract_fails_at_end :
    ¬ ExtractsName Sample.tables { unread := "INPUT_PROP_DIRECT".toList } ⟨⟨0⟩⟩
        (extract Sample.tables ({ unread := "INPUT_PROP_DIRECT".toList }, ⟨⟨0⟩⟩)) := by
  intro hextracts
  have htext : ({ unread := "INPUT_PROP_DIRECT".toList } : IStream).skip.unread =
      'I' :: "NPUT_PROP_DIRECT".toList := rfl
  have hend : extract Sample.tables ({ unread := "INPUT_PROP_DIRECT".toList }, ⟨⟨0⟩⟩) =
      .returned ()
        (({ unread := "INPUT_PROP_DIRECT".toList } : IStream).skip.atEnd, ⟨⟨0⟩⟩) :=
    extract_of_end rfl rfl htext (by decide) (by decide)
  have hok := (hextracts.accepts _ _ hend).2 ⟨by decide, by decide⟩
  rw [IStream.fail_atEnd] at hok
  cases hok

end Property

end Evdevxx
