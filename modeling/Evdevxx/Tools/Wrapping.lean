import Mathlib.Algebra.Group.Nat.Defs
import Evdevxx.Logic.Layout
import Evdevxx.Model.Query
import Evdevxx.Model.Sample

/-!
# Wrapping — how `print_codes` lays the names out in lines

`x` is never less than the number of characters on the open line: it starts one ahead of it, and is
equal to it after the first line.  A name goes on the open line only if it fits there with the space
before it and the comma after it, or if it is the first one.
-/

namespace Evdevxx

/-- The names of the codes are so short that their lengths can be counted by an `unsigned`, with the
few characters that are written around them. -/
def NameTables.NamesFit (T : NameTables) : Prop :=
  ∀ t c name, T.eventCodeGetName t c = some name → name.length + 6 < 2 ^ 32

namespace Query

/-- A name, and the comma after it. -/
def item (name : Text) (more : Bool) : Text :=
  name ++ (if more then [','] else [])

/-- The names, with a comma after every one but the last. -/
def withCommas : List Text → List Text
  | [] => []
  | name :: names => item name (names ≠ []) :: withCommas names

/-- The characters of a line. -/
def lineText (line : List Text) : Text :=
  indent ++ line.flatMap (' ' :: ·)

/-- The text `out` is the names in the lines of `L`, each with a comma after it but the last, and no
line of more than one name is longer than `columns`. -/
structure Wrapped (names : List Text) (columns : Nat) (out : Text) (L : Layout Text) : Prop where
  text : out = L.render lineText ++ ['\n']
  complete : L.items = withCommas names
  fits : L.Fits (fun line => (lineText line).length) columns
  lines : (∀ name ∈ names, '\n' ∉ name) → out.splitOn '\n' = L.lines.map lineText ++ [[]]

section Lines

variable {line : List Text} {name : Text} {more : Bool}

@[simp] theorem lineText_snoc (line : List Text) (a : Text) :
    lineText (line ++ [a]) = lineText line ++ ' ' :: a := by
  simp [lineText]

theorem not_mem_lineText (h : ∀ a ∈ line, '\n' ∉ a) : '\n' ∉ lineText line := by
  intro hmem
  rcases List.mem_append.1 hmem with hindent | hitems
  · exact absurd hindent (by decide)
  · rcases List.mem_flatMap.1 hitems with ⟨a, ha, hchar⟩
    rcases List.mem_cons.1 hchar with hspace | hin
    · exact absurd hspace (by decide)
    · exact h a ha hin

theorem not_mem_withCommas {names : List Text} (h : ∀ name ∈ names, '\n' ∉ name) :
    ∀ a ∈ withCommas names, '\n' ∉ a := by
  induction names with
  | nil =>
      intro a ha
      cases ha
  | cons name names ih =>
      intro a ha hchar
      rcases List.mem_cons.1 ha with rfl | hrest
      · rcases List.mem_append.1 hchar with hname | hcomma
        · exact h name List.mem_cons_self hname
        · split at hcomma
          · exact absurd hcomma (by decide)
          · cases hcomma
      · exact ih (fun n hn => h n (List.mem_cons_of_mem _ hn)) a hrest hchar

end Lines

/-! ## One iteration -/

/-- What the loop keeps: the text is that of a layout that fits, and `x` is at least the length of
the open line. -/
structure Laid (columns : UInt32) (L : Layout Text) (s : Cursor) : Prop where
  out : s.out = L.render lineText
  fits : L.Fits (fun line => (lineText line).length) columns.toNat
  width : (lineText L.current).length ≤ s.x.toNat

section Step

variable {T : NameTables} {columns : UInt32} {type : EventType} {L : Layout Text} {s : Cursor}
variable {name : Text} {more : Bool}

theorem write_out (s : Cursor) (name : Text) (more : Bool) :
    (s.write name more).out = s.out ++ ' ' :: item name more := by
  cases more with
  | false => simp [Cursor.write, item]
  | true => simp [Cursor.write, item]

theorem length_item_le (name : Text) (more : Bool) : (item name more).length ≤ name.length + 1 := by
  cases more with
  | false => simp [item]
  | true => simp [item]

/-- Where it does not wrap around, `x` counts what is written. -/
theorem write_x (hroom : name.length + s.x.toNat + 2 < 2 ^ 32) :
    (s.write name more).x.toNat = s.x.toNat + 1 + (item name more).length := by
  have hadd : (s.x + UInt32.ofNat (name.length + 1)).toNat = s.x.toNat + (name.length + 1) := by
    rw [UInt32.toNat_add, UInt32.toNat_ofNat']
    omega
  cases more with
  | false =>
      simp only [Cursor.write, item, Bool.false_eq_true, if_false, List.append_nil, hadd]
      omega
  | true =>
      have hnext : (s.x + UInt32.ofNat (name.length + 1) + 1).toNat =
          s.x.toNat + (name.length + 1) + 1 := by
        have hone : (1 : UInt32).toNat = 1 := rfl
        rw [UInt32.toNat_add, hadd, hone]
        omega
      simp only [Cursor.write, item, if_true, hnext, List.length_append, List.length_singleton]
      omega

theorem Laid.newline (h : Laid columns L s) : Laid columns L.newline s.newline where
  out := by
    rw [Layout.render_newline, ← h.out]
    rfl
  fits := h.fits.newline
  width := Nat.le_refl 3

/-- A name is written on the open line if there is room for it, or if it is the first one there. -/
theorem Laid.write (h : Laid columns L s) (hroom : name.length + s.x.toNat + 2 < 2 ^ 32)
    (hfits : name.length + s.x.toNat + 2 ≤ columns.toNat ∨ L.current = []) :
    Laid columns (L.push (item name more)) (s.write name more) where
  out := by
    rw [write_out, h.out, Layout.render_push (lineText_snoc _ _)]
  fits := by
    refine h.fits.push ?_
    rcases hfits with hle | hempty
    · left
      have hwidth := h.width
      have hitem := length_item_le name more
      simp only [lineText_snoc, List.length_append, List.length_cons]
      omega
    · exact Or.inr hempty
  width := by
    have hwidth := h.width
    simp only [Layout.current_push, lineText_snoc, List.length_append, List.length_cons,
      write_x hroom]
    omega

/-- Only before the first name is nothing on the open line. -/
theorem printCode_laid {c : Code} {i : Nat} (size : Nat) (h : Laid columns L s)
    (hshort : (codeToString T type c).length + 6 < 2 ^ 32)
    (hfirst : i = 0 → L.current = [] ∧ s.x = 4) :
    ∃ L', Laid columns L' (printCode T columns type size i c s) ∧
      L'.items = L.items ++ [item (codeToString T type c) (i + 1 < size)] := by
  by_cases hwrap : 0 < i ∧ (codeToString T type c).length + s.x.toNat + 2 > columns.toNat
  · -- The name is the first one on the new line.
    have hthree : (codeToString T type c).length + s.newline.x.toNat + 2 < 2 ^ 32 := by
      show (codeToString T type c).length + 3 + 2 < 2 ^ 32
      omega
    refine ⟨L.newline.push (item (codeToString T type c) (i + 1 < size)), ?_, by simp⟩
    rw [printCode, if_pos hwrap]
    exact h.newline.write hthree (Or.inr rfl)
  · refine ⟨L.push (item (codeToString T type c) (i + 1 < size)), ?_, by simp⟩
    rw [printCode, if_neg hwrap]
    by_cases hi : i = 0
    · rcases hfirst hi with ⟨hempty, hx⟩
      refine h.write ?_ (Or.inr hempty)
      rw [hx]
      show (codeToString T type c).length + 4 + 2 < 2 ^ 32
      omega
    · -- The check has succeeded, and `columns` is an `unsigned` as well.
      have hle : (codeToString T type c).length + s.x.toNat + 2 ≤ columns.toNat := by omega
      exact h.write (Nat.lt_of_le_of_lt hle columns.toNat_lt) (Or.inl hle)

end Step

/-! ## The loop -/

section Loop

variable {T : NameTables} {columns : UInt32} {type : EventType}

/-- By induction on the codes that are left. -/
theorem printLoop_laid {size : Nat} (hshort : ∀ c, (codeToString T type c).length + 6 < 2 ^ 32)
    {codes : List Code} :
    ∀ {i : Nat} {L : Layout Text} {s : Cursor}, i + codes.length = size → Laid columns L s →
      (i = 0 → L.current = [] ∧ s.x = 4) →
        ∃ L', Laid columns L' (printLoop T columns type size i codes s) ∧
          L'.items = L.items ++ withCommas (codes.map (codeToString T type)) := by
  induction codes with
  | nil =>
      intro i L s _ h _
      exact ⟨L, h, (List.append_nil _).symm⟩
  | cons c codes ih =>
      intro i L s hsize h hfirst
      rcases printCode_laid size h (hshort c) hfirst with ⟨L₁, h₁, hitems₁⟩
      have hsize₁ : i + 1 + codes.length = size := by
        rw [← hsize, List.length_cons]
        omega
      rcases ih hsize₁ h₁ (fun hzero => absurd hzero (Nat.succ_ne_zero i)) with ⟨L', h', hitems'⟩
      -- There are more codes exactly if some are left.
      have hmore : (decide (i + 1 < size)) =
          decide (codes.map (codeToString T type) ≠ []) := by
        cases codes with
        | nil => simp [← hsize]
        | cons c' codes' => simp [← hsize]
      refine ⟨L', h', ?_⟩
      rw [hitems', hitems₁, List.append_assoc, hmore]
      rfl

/-- The number of a code has few digits. -/
theorem length_codeToString (hT : T.NamesFit) (c : Code) :
    (codeToString T type c).length + 6 < 2 ^ 32 := by
  cases hname : T.eventCodeGetName type.value.toUInt32 c.value.toUInt32 with
  | some name =>
      rw [codeToString_of_some hname]
      exact hT _ _ _ hname
  | none =>
      rw [codeToString_of_none hname]
      have hlength := Detail.length_toHex_le c.value.toUInt32 3 true
      have hsetw : (3 : UInt32).toInt32.toInt.toNat = 3 := rfl
      rw [hsetw] at hlength
      omega

/-- What is laid out by the end is the whole text. -/
theorem Laid.wrapped {names : List Text} {L : Layout Text} {s : Cursor} (h : Laid columns L s)
    (hitems : L.items = withCommas names) :
    Wrapped names columns.toNat (s.out ++ ['\n']) L where
  text := by rw [h.out]
  complete := hitems
  fits := h.fits
  lines := by
    intro hnames
    rw [h.out]
    refine Layout.splitOn_render fun line hline => not_mem_lineText fun a ha => ?_
    have hitem : a ∈ L.items := List.mem_flatten.2 ⟨line, hline, ha⟩
    exact not_mem_withCommas hnames a (hitems ▸ hitem)

/-- For every list of codes and every width, the names are wrapped; and this is what `print_codes`
writes for the codes that `get_codes` returns. -/
theorem print_codes_wraps (hT : T.NamesFit) (columns : UInt32) (type : EventType)
    (codes : List Code) :
    (∃ L, Wrapped (codes.map (codeToString T type)) columns.toNat
        (printList T columns type codes) L) ∧
      ∀ (σ : Type) (Q : Capabilities σ) (d : DeviceId) (budget : Nat) (w w' : World σ),
        Device.getCodes Q T d type budget w = .returned codes w' →
          printCodes T columns type Q d budget w =
            .returned (printList T columns type codes) w' := by
  refine ⟨?_, fun σ Q d budget w w' hcodes => by simp [printCodes, hcodes]⟩
  have hstart : Laid columns {} { out := indent, x := 4 } := by
    refine ⟨rfl, fun line hline => ?_, by decide⟩
    rw [List.mem_singleton.1 hline]
    exact Or.inr (Nat.zero_le 1)
  rcases printLoop_laid (fun c => length_codeToString hT c) (Nat.zero_add codes.length) hstart
    (fun _ => ⟨rfl, rfl⟩) with ⟨L, hlaid, hitems⟩
  exact ⟨L, hlaid.wrapped hitems⟩

theorem sample_namesFit : Sample.tables.NamesFit := by
  intro t c name hname
  rcases Option.map_eq_some_iff.1 hname with ⟨e, he, rfl⟩
  have hall : Sample.codes.all (fun e => e.name.length ≤ 10) = true := by decide
  have hlength : e.name.length ≤ 10 := by
    simpa using List.all_eq_true.1 hall e (List.mem_of_find?_eq_some he)
  omega

/-- Two keys, on a terminal that is too narrow for either. -/
theorem print_codes_wraps_keys :
    (∃ L, Wrapped ["KEY_A".toList, "BTN_SOUTH".toList] 8
        (printList Sample.tables 8 ⟨⟨1⟩⟩ [⟨⟨30⟩⟩, ⟨⟨0x130⟩⟩]) L) ∧
      ∀ (σ : Type) (Q : Capabilities σ) (d : DeviceId) (budget : Nat) (w w' : World σ),
        Device.getCodes Q Sample.tables d ⟨⟨1⟩⟩ budget w = .returned [⟨⟨30⟩⟩, ⟨⟨0x130⟩⟩] w' →
          printCodes Sample.tables 8 ⟨⟨1⟩⟩ Q d budget w =
            .returned (printList Sample.tables 8 ⟨⟨1⟩⟩ [⟨⟨30⟩⟩, ⟨⟨0x130⟩⟩]) w' :=
  print_codes_wraps sample_namesFit 8 ⟨⟨1⟩⟩ [⟨⟨30⟩⟩, ⟨⟨0x130⟩⟩]

end Loop

end Query

end Evdevxx
