import Mathlib.Data.List.Basic

/-!
# Stream — the state machine of `std::istream`

An input stream is a buffer with a position in it, the three state flags, and the flag `skipws`; no
exception mask is set.  The functions are the unformatted input functions of the standard library
and the `sentry` that each of them starts with, on the classic locale.

* `IStream.skip`, `IStream.atEnd` — what a stream in good state becomes;
* `get_of_cons`, `peek_of_cons`, `unget_of_cons`, `sentry_of_good` — the functions on such streams;
* `IStream.readAll` — what repeated `get(c)` still reads.
-/

namespace Evdevxx

/-- `std::isspace(c, std::locale::classic())` -/
def isSpace (c : Char) : Bool :=
  c = ' ' ∨ c = '\t' ∨ c = '\n' ∨ c = '\x0b' ∨ c = '\x0c' ∨ c = '\r'

/-- `std::isupper(c, std::locale::classic())` -/
def isUpper (c : Char) : Bool :=
  'A' ≤ c ∧ c ≤ 'Z'

structure IStream where
  /-- the characters before the position, the last one first -/
  consumed : List Char := []
  /-- the characters from the position on -/
  unread : List Char
  eofbit : Bool := false
  failbit : Bool := false
  badbit : Bool := false
  skipws : Bool := true
  deriving DecidableEq, Repr

namespace IStream

/-- `good()` -/
def good (s : IStream) : Bool :=
  ¬ s.eofbit ∧ ¬ s.failbit ∧ ¬ s.badbit

/-- `fail()` -/
def fail (s : IStream) : Bool :=
  s.failbit ∨ s.badbit

/-- `setstate(failbit)` -/
def setFail (s : IStream) : IStream :=
  { s with failbit := true }

/-- Pass over the white space at the position. -/
def skip (s : IStream) : IStream :=
  { s with
    consumed := (s.unread.takeWhile isSpace).reverse ++ s.consumed
    unread := s.unread.dropWhile isSpace }

/-- `sentry{s, noskipws}`: whether the input function may go on. -/
def sentry (s : IStream) (noskipws : Bool) : Bool × IStream :=
  if s.good then
    if ¬ noskipws ∧ s.skipws then
      -- White space up to the end of the input sets `eofbit`, and with it `failbit`.
      if s.skip.unread = [] then
        (false, { s.skip with eofbit := true, failbit := true })
      else
        (true, s.skip)
    else
      (true, s)
  else
    (false, s.setFail)

/-- `peek()`; `none` is `EOF`. -/
def peek (s : IStream) : Option Char × IStream :=
  match s.sentry true with
  | (false, s) => (none, s)
  | (true, s) =>
      match s.unread with
      | [] => (none, { s with eofbit := true })
      | c :: _ => (some c, s)

/-- `get(c)`; where it stores no character it sets `failbit`. -/
def get (s : IStream) : Option Char × IStream :=
  match s.sentry true with
  | (false, s) => (none, s.setFail)
  | (true, s) =>
      match s.unread with
      | [] => (none, { s with eofbit := true, failbit := true })
      | c :: rest => (some c, { s with consumed := c :: s.consumed, unread := rest })

/-- `unget()`; there is nothing to give back at the beginning of the buffer. -/
def unget (s : IStream) : IStream :=
  match { s with eofbit := false }.sentry true with
  | (false, s) => s
  | (true, s) =>
      match s.consumed with
      | [] => { s with badbit := true }
      | c :: rest => { s with consumed := rest, unread := c :: s.unread }

/-- `clear()` -/
def clear (s : IStream) : IStream :=
  { s with eofbit := false, failbit := false, badbit := false }

/-- The stream with the first `n` unread characters consumed. -/
def advance (s : IStream) (n : Nat) : IStream :=
  { s with consumed := (s.unread.take n).reverse ++ s.consumed, unread := s.unread.drop n }

/-- The stream after an input function that reached the end of the input and failed. -/
def atEnd (s : IStream) : IStream :=
  { s with
    consumed := s.unread.reverse ++ s.consumed
    unread := []
    eofbit := true
    failbit := true }

/-! ## Streams in good state -/

section

variable {s : IStream} {c : Char} {rest : List Char}

theorem good_iff : s.good = true ↔ s.eofbit = false ∧ s.failbit = false ∧ s.badbit = false := by
  simp [good]

theorem fail_of_good (h : s.good = true) : s.fail = false := by
  rcases good_iff.1 h with ⟨_, hfail, hbad⟩
  simp [fail, hfail, hbad]

@[simp] theorem fail_setFail (s : IStream) : s.setFail.fail = true := by
  simp [setFail, fail]

@[simp] theorem fail_atEnd (s : IStream) : s.atEnd.fail = true := by
  simp [atEnd, fail]

theorem good_skip (h : s.good = true) : s.skip.good = true := h

theorem good_advance (h : s.good = true) (n : Nat) : (s.advance n).good = true := h

@[simp] theorem advance_zero (s : IStream) : s.advance 0 = s := rfl

theorem advance_cons (h : s.unread = c :: rest) (n : Nat) :
    { s with consumed := c :: s.consumed, unread := rest }.advance n = s.advance (n + 1) := by
  simp [advance, h]

theorem atEnd_cons (h : s.unread = c :: rest) :
    { s with consumed := c :: s.consumed, unread := rest }.atEnd = s.atEnd := by
  simp [atEnd, h]

theorem sentry_of_good (h : s.good = true) : s.sentry true = (true, s) := by
  simp [sentry, h]

theorem sentry_of_space (h : s.good = true) (hskipws : s.skipws = true)
    (hend : s.skip.unread = []) :
    s.sentry false = (false, { s.skip with eofbit := true, failbit := true }) := by
  simp [sentry, h, hskipws, hend]

theorem sentry_of_text (h : s.good = true) (hskipws : s.skipws = true)
    (htext : s.skip.unread ≠ []) : s.sentry false = (true, s.skip) := by
  simp [sentry, h, hskipws, htext]

theorem peek_of_cons (h : s.good = true) (hunread : s.unread = c :: rest) :
    s.peek = (some c, s) := by
  simp [peek, sentry_of_good h, hunread]

theorem get_of_nil (h : s.good = true) (hunread : s.unread = []) :
    s.get = (none, s.atEnd) := by
  simp [get, sentry_of_good h, hunread, atEnd]

theorem get_of_cons (h : s.good = true) (hunread : s.unread = c :: rest) :
    s.get = (some c, { s with consumed := c :: s.consumed, unread := rest }) := by
  simp [get, sentry_of_good h, hunread]

/-- A character that was just read can be given back. -/
theorem unget_of_cons (h : s.good = true) (hunread : s.unread = c :: rest) :
    { s with consumed := c :: s.consumed, unread := rest }.unget = s := by
  rcases s with ⟨consumed, unread, eofbit, failbit, badbit, skipws⟩
  rcases good_iff.1 h with ⟨heof, hfail, hbad⟩
  simp only at heof hfail hbad hunread
  subst heof hfail hbad hunread
  rfl

/-- Reading a character makes the unread rest shorter. -/
theorem length_unread_get {s' : IStream} (h : s.get = (some c, s')) :
    s'.unread.length < s.unread.length := by
  cases hgood : s.good with
  | false => simp [get, sentry, hgood] at h
  | true =>
      cases hunread : s.unread with
      | nil => simp [get_of_nil hgood hunread] at h
      | cons d rest =>
          rw [get_of_cons hgood hunread] at h
          cases h
          simp

end

/-! ## What can still be read -/

/-- The characters that `get(c)` stores, called until it stores none. -/
def readAll (s : IStream) : List Char :=
  match _hget : s.get with
  | (none, _) => []
  | (some c, s') => c :: readAll s'
termination_by s.unread.length
decreasing_by exact length_unread_get _hget

/-- From a stream in good state everything unread can be read. -/
theorem readAll_of_good {s : IStream} (h : s.good = true) : s.readAll = s.unread := by
  generalize hunread : s.unread = unread
  induction unread generalizing s with
  | nil =>
      rw [readAll]
      split
      · rfl
      · next c s' hget =>
        rw [get_of_nil h hunread] at hget
        cases hget
  | cons c rest ih =>
      rw [readAll]
      split
      · next s' hget =>
        rw [get_of_cons h hunread] at hget
        cases hget
      · next d s' hget =>
        rw [get_of_cons h hunread] at hget
        cases hget
        have hrest := ih (s := { s with consumed := c :: s.consumed, unread := rest }) h rfl
        rw [hrest]

theorem good_clear (s : IStream) : s.clear.good = true := rfl

theorem readAll_clear (s : IStream) : s.clear.readAll = s.unread :=
  readAll_of_good (good_clear s)

end IStream

end Evdevxx
