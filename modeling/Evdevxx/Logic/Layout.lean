import Mathlib.Data.List.Basic

/-!
# Layout — items laid out in lines

A text that is written line after line is a `Layout`: the lines that are finished and the open one,
each a list of items.  Items are only ever appended to the open line, and `newline` opens another.
Nothing in this module is about a particular program; `α` are the items, and how a line is written
is the parameter `text`.

* `items_push`, `items_newline` — the items, in the order in which they were appended;
* `Layout.Fits` — no line with more than one item is too wide;
* `render_push`, `render_newline` — what is written for either step;
* `splitOn_render` — the lines of the text are the lines of the layout.
-/

namespace Evdevxx

universe u

structure Layout (α : Type u) where
  /-- the finished lines -/
  closed : List (List α) := []
  /-- the open line -/
  current : List α := []
  deriving DecidableEq, Repr

namespace Layout

variable {α : Type u}

/-- All lines. -/
def lines (L : Layout α) : List (List α) :=
  L.closed ++ [L.current]

/-- The items on all lines, in order. -/
def items (L : Layout α) : List α :=
  L.lines.flatten

/-- Append an item to the open line. -/
def push (L : Layout α) (a : α) : Layout α :=
  { L with current := L.current ++ [a] }

/-- Finish the open line and open another one. -/
def newline (L : Layout α) : Layout α :=
  { closed := L.lines, current := [] }

variable {L : Layout α} {a : α}

@[simp] theorem current_push (L : Layout α) (a : α) :
    (L.push a).current = L.current ++ [a] := rfl

@[simp] theorem current_newline (L : Layout α) : L.newline.current = [] := rfl

@[simp] theorem items_push (L : Layout α) (a : α) : (L.push a).items = L.items ++ [a] := by
  simp [items, lines, push]

@[simp] theorem items_newline (L : Layout α) : L.newline.items = L.items := by
  simp [items, lines, newline]

/-! ## Fitting into a width -/

/-- Every line is at most `bound` wide, unless it holds at most one item. -/
def Fits (width : List α → Nat) (bound : Nat) (L : Layout α) : Prop :=
  ∀ line ∈ L.lines, width line ≤ bound ∨ line.length ≤ 1

section Fits

variable {width : List α → Nat} {bound : Nat}

theorem Fits.newline (h : L.Fits width bound) : L.newline.Fits width bound := by
  intro line hline
  rcases List.mem_append.1 hline with hold | hnew
  · exact h line hold
  · right
    rw [List.mem_singleton.1 hnew]
    exact Nat.zero_le 1

/-- An item fits on the open line if it leaves it narrow enough, or if it is the first one. -/
theorem Fits.push (h : L.Fits width bound)
    (hnew : width (L.current ++ [a]) ≤ bound ∨ L.current = []) : (L.push a).Fits width bound := by
  intro line hline
  rcases List.mem_append.1 hline with hold | hlast
  · exact h line (List.mem_append_left _ hold)
  · rw [List.mem_singleton.1 hlast, current_push]
    rcases hnew with hle | hempty
    · exact Or.inl hle
    · right
      rw [hempty]
      exact Nat.le_refl 1

end Fits

/-! ## The text -/

/-- The lines, each written as `text` says, with a line feed after each finished one. -/
def render (text : List α → List Char) (L : Layout α) : List Char :=
  L.closed.flatMap (fun line => text line ++ ['\n']) ++ text L.current

section Render

variable {text : List α → List Char}

theorem render_push {piece : List Char} (h : text (L.current ++ [a]) = text L.current ++ piece) :
    (L.push a).render text = L.render text ++ piece := by
  simp [render, push, h]

theorem render_newline (text : List α → List Char) (L : Layout α) :
    L.newline.render text = L.render text ++ '\n' :: text [] := by
  simp [render, newline, lines]

/-- If no line is written with a line feed in it, then the lines of the text are those of the layout,
and the last line feed ends the last of them. -/
theorem splitOn_render (h : ∀ line ∈ L.lines, '\n' ∉ text line) :
    (L.render text ++ ['\n']).splitOn '\n' = L.lines.map text ++ [[]] := by
  rcases L with ⟨closed, current⟩
  induction closed with
  | nil =>
      have hlast : '\n' ∉ text current := h current List.mem_cons_self
      simp [render, lines, List.splitOn_append_cons_self_of_not_mem hlast]
  | cons line closed ih =>
      have hfirst : '\n' ∉ text line := h line List.mem_cons_self
      have hrest := ih fun l hl => h l (List.mem_cons_of_mem _ hl)
      have hsplit : render text { closed := line :: closed, current := current } ++ ['\n'] =
          text line ++ '\n' :: (render text { closed := closed, current := current } ++ ['\n']) := by
        simp [render]
      rw [hsplit, List.splitOn_append_cons_self_of_not_mem hfirst, hrest]
      rfl

end Render

end Layout

end Evdevxx
