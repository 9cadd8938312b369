import CodeChunks.Regex.Property

/-!
# Conditions on a position

An expression may ask where it stands: at the start or the end of the text or of a line, or at the
edge of a word. Whether such a `Look` holds depends only on the characters on both sides.
-/

namespace CodeChunks.Regex

open Text

/-- Where the words of a text are looked for. -/
inductive WordSide where
  | boundary
  | inside
  | start
  | finish
  | startHalf
  | finishHalf
  deriving DecidableEq, Repr

/-- A condition on a position of the text. -/
inductive Look where
  | textStart
  | textEnd
  /-- Lines end with a line feed or, if `returns`, also with a carriage return or both. -/
  | lineStart (returns : Bool)
  | lineEnd (returns : Bool)
  /-- Words are made of all word characters or of the seven-bit ones. -/
  | word (side : WordSide) (ascii : Bool)
  deriving DecidableEq, Repr

def isAsciiWordChar (c : Char) : Bool := c.isAlphanum || c == '_'

def isWordChar (ascii : Bool) (c : Char) : Bool :=
  if ascii || c.toNat < 0x80 then isAsciiWordChar c else wordSet.mem c

/-- Whether the condition holds, given which of the neighbours are word characters. -/
def WordSide.holds (before after : Bool) : WordSide → Bool
  | .boundary => before != after
  | .inside => before == after
  | .start => !before && after
  | .finish => before && !after
  | .startHalf => !before
  | .finishHalf => !after

/-- Whether the condition holds between two characters. A line never starts or ends between a
carriage return and its line feed. -/
def Look.holds (before after : Option Char) : Look → Bool
  | .textStart => before.isNone
  | .textEnd => after.isNone
  | .lineStart false => before.isNone || before == some '\n'
  | .lineEnd false => after.isNone || after == some '\n'
  | .lineStart true =>
    before.isNone || before == some '\n' || (before == some '\r' && after != some '\n')
  | .lineEnd true =>
    after.isNone || after == some '\r' || (after == some '\n' && before != some '\r')
  | .word side ascii =>
    side.holds (before.any (isWordChar ascii)) (after.any (isWordChar ascii))

end CodeChunks.Regex
