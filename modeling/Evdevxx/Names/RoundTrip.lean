import Evdevxx.Names.Extraction

/-!
# RoundTrip — properties written to a line and read back

`operator <<` writes the name of a property, or a number in base 16 if libevdev has no name for it;
`operator >>` reads names only.  So a line of properties reads back exactly if all of them have
names.
-/

namespace Evdevxx

/-- The names of properties consist of `A`..`Z` and `_`, and are mapped back to their values. -/
structure NameTables.NamesProperties (T : NameTables) : Prop where
  nonempty : ∀ {v name}, T.propertyGetName v = some name → name ≠ []
  valid : ∀ {v name}, T.propertyGetName v = some name → ∀ c ∈ name, Property.isValid c = true
  back : ∀ {v name}, T.propertyGetName v = some name → T.propertyFromNameN name = v.toNat

namespace Property

/-- `out << p₁ << ' ' << .. << pₙ << '\n'` -/
def writeLine (T : NameTables) (out : Text) : List Property → Text
  | [] => out ++ ['\n']
  | [prop] => insert T out prop ++ ['\n']
  | prop :: props => writeLine T (insert T out prop ++ [' ']) props

/-- `input >> prop`, `n` times: the values that were read, unless one of the reads failed. -/
def readMany (T : NameTables) : Nat → IStream → Property → Option (List Property)
  | 0, _, _ => some []
  | n + 1, input, prop =>
      match extract T (input, prop) with
      | .returned () (input, prop) =>
          if input.fail then none else (readMany T n input prop).map (prop :: ·)
      | _ => none

section

variable {T : NameTables} {s : IStream} {content name rest : Text} {c : Char}

/-! ## One property -/

/-- What separates a property from what follows it on the line. -/
def lineTail (T : NameTables) : List Property → Text
  | [] => ['\n']
  | props => ' ' :: writeLine T [] props

theorem writeLine_cons_cons (out : Text) (p q : Property) (props : List Property) :
    writeLine T out (p :: q :: props) = writeLine T (insert T out p ++ [' ']) (q :: props) := rfl

theorem writeLine_append (out : Text) (props : List Property) :
    writeLine T out props = out ++ writeLine T [] props := by
  induction props generalizing out with
  | nil => rfl
  | cons p props ih =>
      cases props with
      | nil => simp [writeLine, insert]
      | cons q props =>
          rw [writeLine_cons_cons, writeLine_cons_cons, ih, ih (insert T [] p ++ [' '])]
          simp [insert]

theorem writeLine_cons (p : Property) (props : List Property) :
    writeLine T [] (p :: props) = p.toText T ++ lineTail T props := by
  cases props with
  | nil => simp [writeLine, insert, lineTail]
  | cons q props =>
      rw [writeLine_cons_cons, writeLine_append]
      simp [insert, lineTail]

/-- A property is followed by white space, and after that comes the rest of the line. -/
theorem lineTail_spec (T : NameTables) (props : List Property) :
    ∃ c rest, lineTail T props = c :: rest ∧ isValid c = false ∧
      (lineTail T props).dropWhile isSpace = (writeLine T [] props).dropWhile isSpace := by
  cases props with
  | nil => exact ⟨'\n', [], rfl, by decide, rfl⟩
  | cons q props =>
      refine ⟨' ', _, rfl, by decide, ?_⟩
      have hspace : isSpace ' ' = true := by decide
      simp [lineTail, hspace]

theorem not_space_of_valid (hc : isValid c = true) : isSpace c = false := by
  cases hspace : isSpace c with
  | false => rfl
  | true =>
      -- No white space is a capital letter or an underscore.
      simp only [isSpace, Bool.decide_or, Bool.or_eq_true, decide_eq_true_eq] at hspace
      rcases hspace with rfl | rfl | rfl | rfl | rfl | rfl
      all_goals exact absurd hc (by decide)

/-- The token of a text that starts with a name is the name. -/
theorem token_of_name (hcontent : content.dropWhile isSpace = name ++ c :: rest)
    (hname : ∀ d ∈ name, isValid d = true) (hc : isValid c = false) :
    token content = name ∧ afterToken content = c :: rest := by
  constructor
  · rw [token, hcontent, List.takeWhile_append_of_pos hname, List.takeWhile_cons_of_neg (by simp [hc])]
    simp
  · rw [afterToken, hcontent, List.dropWhile_append_of_pos hname,
      List.dropWhile_cons_of_neg (by simp [hc])]

/-- A text in front of which white space may stand, and whose first character is no white space. -/
theorem dropWhile_of_head (hhead : isSpace c = false) :
    (c :: rest).dropWhile isSpace = c :: rest := by
  simp [hhead]

/-- A property that has a name is read back, and the next character is the one after the name. -/
theorem extract_of_named (hT : T.NamesProperties) (hgood : s.good = true)
    (hskipws : s.skipws = true) (prop : Property) {p : Property} (hp : p.value ≤ inputPropMax)
    (hname : T.propertyGetName p.value = some name)
    (hcontent : s.unread.dropWhile isSpace = name ++ c :: rest) (hc : isValid c = false) :
    ∃ s', extract T (s, prop) = .returned () (s', p) ∧ s'.good = true ∧ s'.skipws = true ∧
      s'.unread = c :: rest := by
  rcases token_of_name hcontent (hT.valid hname) hc with ⟨htoken, hafter⟩
  cases hn : name with
  | nil => exact absurd hn (hT.nonempty hname)
  | cons d tail =>
      have htext : s.skip.unread = d :: (tail ++ c :: rest) := by
        rw [← List.cons_append, ← hn]
        exact hcontent
      have hd : isValid d = true := hT.valid hname d (by simp [hn])
      have hback : T.propertyFromNameN (token s.unread) = p.value.toNat := by
        rw [htoken]
        exact hT.back hname
      have hprinted : T.propertyGetName p.value = some (token s.unread) := by
        rw [htoken]
        exact hname
      have hne : afterToken s.unread ≠ [] := by simp [hafter]
      refine ⟨s.skip.advance (token s.unread).length, ?_, ?_, hskipws, ?_⟩
      · exact extract_of_known hgood hskipws htext hd hne hp hback hprinted
      · exact IStream.good_advance (IStream.good_skip hgood) _
      · rw [unread_advance_token, hafter]

/-- A property that has no name is written as a number, which is not read. -/
theorem extract_of_unnamed (hgood : s.good = true) (hskipws : s.skipws = true)
    (prop : Property) {p : Property} (hname : T.propertyGetName p.value = none)
    (hcontent : s.unread.dropWhile isSpace = p.toText T ++ rest) :
    ∃ s', extract T (s, prop) = .returned () (s', prop) ∧ s'.fail = true := by
  rcases formatHex_head (2 : UInt32).toNat p.value.toNat with ⟨digits, hdigits⟩
  have htext : s.skip.unread = '0' :: (digits ++ rest) := by
    have hprinted : p.toText T = '0' :: digits := by
      rw [toText_of_none hname]
      exact hdigits
    calc s.skip.unread = p.toText T ++ rest := hcontent
      _ = '0' :: (digits ++ rest) := by rw [hprinted, List.cons_append]
  exact ⟨s.skip.setFail, extract_of_invalid hgood hskipws htext (by decide),
    IStream.fail_setFail _⟩

/-- The first character of a written property is no white space. -/
theorem toText_head (hT : T.NamesProperties) (p : Property) :
    ∃ c rest, p.toText T = c :: rest ∧ isSpace c = false := by
  cases hname : T.propertyGetName p.value with
  | none =>
      rcases formatHex_head (2 : UInt32).toNat p.value.toNat with ⟨digits, hdigits⟩
      exact ⟨'0', digits, (toText_of_none hname).trans hdigits, by decide⟩
  | some name =>
      cases hn : name with
      | nil => exact absurd hn (hT.nonempty hname)
      | cons c rest =>
          refine ⟨c, rest, ?_, not_space_of_valid (hT.valid hname c (by simp [hn]))⟩
          rw [toText_of_some hname, hn]

/-! ## A line of properties -/

/-- Reading a line from a stream that has, after white space, the rest of the line.  The induction is
on the properties that are left. -/
theorem readMany_iff (hT : T.NamesProperties) (prop : Property) (props : List Property)
    (hrange : ∀ p ∈ props, p.value ≤ inputPropMax) (hgood : s.good = true)
    (hskipws : s.skipws = true)
    (hunread : s.unread.dropWhile isSpace = (writeLine T [] props).dropWhile isSpace) :
    readMany T props.length s prop = some props ↔
      ∀ p ∈ props, (T.propertyGetName p.value).isSome = true := by
  induction props generalizing s prop with
  | nil => simp [readMany]
  | cons p props ih =>
      rcases lineTail_spec T props with ⟨c, rest, htail, hc, hnext⟩
      rcases toText_head hT p with ⟨d, tail, hprinted, hd⟩
      have hcontent : s.unread.dropWhile isSpace = p.toText T ++ lineTail T props := by
        rw [hunread, writeLine_cons, hprinted, List.cons_append, dropWhile_of_head hd]
      cases hname : T.propertyGetName p.value with
      | none =>
          rcases extract_of_unnamed hgood hskipws prop hname hcontent with
            ⟨s', hend, hfail⟩
          simp [readMany, hend, hfail, hname]
      | some name =>
          rw [toText_of_some hname, htail] at hcontent
          rcases extract_of_named hT hgood hskipws prop (hrange p (by simp)) hname
            hcontent hc with ⟨s', hend, hgood', hskipws', hunread'⟩
          have hrest := ih p (fun q hq => hrange q (by simp [hq])) hgood' hskipws'
            (by rw [hunread', ← htail]; exact hnext)
          have hok : s'.fail = false := IStream.fail_of_good hgood'
          simp [readMany, hend, hok, hname, hrest]

/-- A line of properties reads back exactly if libevdev has a name for each of them. -/
theorem round_trip_iff_named (hT : T.NamesProperties) (props : List Property)
    (hrange : ∀ p ∈ props, p.value ≤ inputPropMax) (init : Property) :
    readMany T props.length { unread := writeLine T [] props } init = some props ↔
      ∀ p ∈ props, (T.propertyGetName p.value).isSome = true :=
  readMany_iff hT init props hrange rfl rfl rfl

end

end Property

theorem Sample.namesProperties : Sample.tables.NamesProperties := by
  have hmem : ∀ {v name}, Sample.tables.propertyGetName v = some name →
      ∃ e ∈ Sample.properties, e.property = v ∧ e.name = name := by
    intro v name hname
    rcases Option.map_eq_some_iff.1 hname with ⟨e, hfind, rfl⟩
    exact ⟨e, List.mem_of_find?_eq_some hfind, by simpa using List.find?_some hfind, rfl⟩
  have hentries : ∀ e ∈ Sample.properties, e.name ≠ [] ∧
      e.name.all Property.isValid = true ∧
        Sample.tables.propertyFromNameN e.name = e.property.toNat := by decide
  refine ⟨fun hname => ?_, fun hname => ?_, fun hname => ?_⟩
  · rcases hmem hname with ⟨e, he, rfl, rfl⟩
    exact (hentries e he).1
  · rcases hmem hname with ⟨e, he, rfl, rfl⟩
    exact List.all_eq_true.1 (hentries e he).2.1
  · rcases hmem hname with ⟨e, he, rfl, rfl⟩
    exact (hentries e he).2.2

namespace Property

theorem round_trip_iff_named_two :
    readMany Sample.tables 2
        { unread := writeLine Sample.tables [] [⟨⟨1⟩⟩, ⟨⟨0⟩⟩] } ⟨⟨0⟩⟩ = some [⟨⟨1⟩⟩, ⟨⟨0⟩⟩] ↔
      ∀ p ∈ [(⟨⟨1⟩⟩ : Property), ⟨⟨0⟩⟩], (Sample.tables.propertyGetName p.value).isSome = true :=
  round_trip_iff_named Sample.namesProperties [⟨⟨1⟩⟩, ⟨⟨0⟩⟩] (by decide) ⟨⟨0⟩⟩

/-- The property 7 has no name: it is written as `0x7`, and reading that fails. -/
theorem unnamed_does_not_round_trip :
    (∀ p ∈ [(⟨⟨7⟩⟩ : Property)], p.value ≤ inputPropMax) ∧
      readMany Sample.tables 1 { unread := writeLine Sample.tables [] [⟨⟨7⟩⟩] } ⟨⟨0⟩⟩ ≠
        some [⟨⟨7⟩⟩] := by
  refine ⟨by decide, fun hread => ?_⟩
  have htext : ({ unread := writeLine Sample.tables [] [⟨⟨7⟩⟩] } : IStream).skip.unread =
      '0' :: "x7\n".toList := by decide
  have hend : extract Sample.tables ({ unread := writeLine Sample.tables [] [⟨⟨7⟩⟩] }, ⟨⟨0⟩⟩) =
      .returned () ({ unread := "0x7\n".toList, failbit := true }, ⟨⟨0⟩⟩) :=
    extract_of_invalid rfl rfl htext (by decide)
  simp [readMany, hend, IStream.fail] at hread

end Property

end Evdevxx
