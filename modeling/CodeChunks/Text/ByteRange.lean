import CodeChunks.Text.CodeSet

/-!
# Ranges of characters as ranges of bytes

In UTF-8 a character is a lead byte and up to three trailing bytes of six bits each. A range of
characters is cut into pieces so that each piece is a sequence of ranges of bytes, one for each
place: every choice of one byte in each place is the code of a character of the piece.
-/

namespace CodeChunks.Text

/-- The bytes from `first` to `last`. -/
structure ByteRange where
  first : Nat
  last : Nat
  deriving DecidableEq, Repr

namespace ByteRange

def trailingMark : Nat := 0x80

/-- Every trailing byte. -/
def trailing : ByteRange := ⟨0x80, 0xBF⟩

/-- The sequences for the numbers from `first` to `last` of `places + 1` digits of six bits. The
leading digit is marked by `mark`, the others as trailing bytes. -/
def sequences : (places mark first last : Nat) → List (List ByteRange)
  | 0, mark, first, last => [[⟨mark + first, mark + last⟩]]
  | places + 1, mark, first, last =>
    let unit := Nat.pow 64 (places + 1)
    let (lead, low) := (first / unit, first % unit)
    let (leadLast, lowLast) := (last / unit, last % unit)
    let after (digit low high : Nat) : List (List ByteRange) :=
      (sequences places trailingMark low high).map fun rest =>
        ⟨mark + digit, mark + digit⟩ :: rest
    if lead == leadLast then after lead low lowLast
    else
      let whole := low == 0
      let wholeLast := lowLast + 1 == unit
      let start := if whole then lead else lead + 1
      let stop := if wholeLast then leadLast + 1 else leadLast
      (if whole then [] else after lead low (unit - 1)) ++
      (if start < stop then
        [⟨mark + start, mark + stop - 1⟩ :: List.replicate (places + 1) trailing] else []) ++
      (if wholeLast then [] else after leadLast 0 lowLast)

/-- The blocks of the characters with the same number of bytes: the number of trailing bytes, the
mark of the lead byte, the first and the last character. -/
def blocks : List (Nat × Nat × Nat × Nat) :=
  [(0, 0, 0, 0x7F), (1, 0xC0, 0x80, 0x7FF), (2, 0xE0, 0x800, 0xFFFF), (3, 0xF0, 0x10000, 0x10FFFF)]

/-- The sequences for a range of characters. -/
def ofRange (first last : Nat) : List (List ByteRange) :=
  blocks.flatMap fun (places, mark, low, high) =>
    let first := max first low
    let last := min last high
    if first ≤ last then sequences places mark first last else []

end ByteRange

/-- The sequences for a set of characters, in increasing order. -/
def CodeSet.byteRanges (s : CodeSet) : List (List ByteRange) :=
  s.ranges.flatMap fun (first, last) => ByteRange.ofRange first last

end CodeChunks.Text
