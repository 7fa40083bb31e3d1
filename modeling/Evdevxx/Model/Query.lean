import Evdevxx.Model.Capabilities

/-!
# Query — `print_codes` of the query tool

The loop keeps the column that it takes itself to be in, an `unsigned`, apart from the text that it
writes; `std::string::size()` is a `std::size_t`, and the sums with it are computed in one.
-/

namespace Evdevxx

namespace Query

/-- What is on `cout`, and the variable `x`. -/
structure Cursor where
  out : Text
  x : UInt32
  deriving DecidableEq, Repr

/-- What is written at the beginning of a line. -/
def indent : Text :=
  [' ', ' ', ' ']

/-- `cout << "\n   "; x = 3;` -/
def Cursor.newline (s : Cursor) : Cursor where
  out := s.out ++ '\n' :: indent
  x := 3

/-- Write a name, and the comma after it if it is not the last one. -/
def Cursor.write (s : Cursor) (name : Text) (more : Bool) : Cursor :=
  -- `x += name.size() + 1` is truncated to an `unsigned`.
  let s : Cursor := { out := s.out ++ ' ' :: name, x := s.x + UInt32.ofNat (name.length + 1) }
  if more then { out := s.out ++ [','], x := s.x + 1 } else s

variable (T : NameTables) (columns : UInt32) (type : EventType)

/-- One iteration of the loop, for `codes[i]`. -/
def printCode (size i : Nat) (c : Code) (s : Cursor) : Cursor :=
  let name := codeToString T type c
  let s := if 0 < i ∧ name.length + s.x.toNat + 2 > columns.toNat then s.newline else s
  s.write name (i + 1 < size)

/-- The loop from the `i`-th code on. -/
def printLoop (size i : Nat) (codes : List Code) (s : Cursor) : Cursor :=
  match codes with
  | [] => s
  | c :: codes => printLoop size (i + 1) codes (printCode T columns type size i c s)

/-- What `print_codes` writes when `get_codes` has returned `codes`. -/
def printList (codes : List Code) : Text :=
  (printLoop T columns type codes.length 0 codes { out := indent, x := 4 }).out ++ ['\n']

/-- `print_codes(d, t)`: the text that it writes. -/
def printCodes {σ : Type} (Q : Capabilities σ) (d : DeviceId) (budget : Nat) : Op σ Text := do
  let codes ← Device.getCodes Q T d type budget
  pure (printList T columns type codes)

end Query

end Evdevxx
