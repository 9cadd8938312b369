import CodeChunks.Text.Slice

/-!
# Lines of a text

Lines are counted from one. A line starts at the beginning of the text and after every line break,
so a text with `n` line breaks has `n + 1` lines.
-/

namespace CodeChunks.Text

/-- The offsets at which lines start after the first, in a text that begins at `offset`. -/
def laterLineStarts (offset : Nat) : List Char → List Nat
  | [] => []
  | c :: cs =>
    if c = '\n' then (offset + 1) :: laterLineStarts (offset + 1) cs
    else laterLineStarts (offset + c.utf8Size) cs

/-- The offsets at which the lines of a text start. -/
def lineStarts (cs : List Char) : List Nat := 0 :: laterLineStarts 0 cs

/-- Where a number stands in an increasing row, or else where it would have to be put. -/
inductive Lookup where
  | found (place : Nat)
  | missing (place : Nat)
  deriving DecidableEq, Repr

/-- Looks for a number among those from place `lo` up to place `hi` by halving what is left. -/
def bisect (row : Array Nat) (x lo hi : Nat) (hhi : hi ≤ row.size) : Lookup :=
  if h : lo < hi then
    let mid := lo + (hi - lo) / 2
    have hmid : mid < row.size := by omega
    if row[mid] = x then .found mid
    else if row[mid] < x then bisect row x (mid + 1) hi hhi
    else bisect row x lo mid (Nat.le_of_lt hmid)
  else .missing lo
termination_by hi - lo

/-- Looks for a number in an increasing row. -/
def lookup (row : Array Nat) (x : Nat) : Lookup := bisect row x 0 row.size (Nat.le_refl _)

end CodeChunks.Text

namespace CodeChunks

/-- A text with its size and the starts of its lines. -/
structure Source where
  chars : List Char
  size : Nat := Text.byteLength chars
  starts : Array Nat := (Text.lineStarts chars).toArray
  size_eq : size = Text.byteLength chars := by rfl
  starts_eq : starts = (Text.lineStarts chars).toArray := by rfl

namespace Source

def ofString (s : String) : Source := { chars := s.toList }

/-- The line of a byte: the last one that starts at the byte or before. -/
def lineOf (s : Source) (byte : Nat) : Nat :=
  match Text.lookup s.starts byte with
  | .found place => place + 1
  | .missing place => place

/-- The byte at which a line starts. -/
def lineStart? (s : Source) : Nat → Option Nat
  | 0 => none
  | n + 1 => s.starts[n]?

/-- The text between two offsets, empty where there is none. -/
def slice (s : Source) (start stop : Nat) : List Char := Text.slice s.chars start stop

end Source

end CodeChunks
