import CodeChunks.Regex.Basic
import CodeChunks.Text.Blank
import CodeChunks.Text.CaseFold

/-!
# Flags

What an expression means depends on the flags in force where it stands. Flags are set for the whole
expression, for a group, or from a place to the end of the group around it.
-/

namespace CodeChunks.Regex

open Text

/-- The flags in force. -/
structure Flags where
  ignoreCase : Bool := false
  multiLine : Bool := false
  dotTakesBreaks : Bool := false
  swapGreed : Bool := false
  /-- Carriage returns end lines too. -/
  returns : Bool := false
  /-- Classes and cases are those of the seven-bit characters. -/
  ascii : Bool := false
  /-- Blanks and comments in the expression are ignored. -/
  spaced : Bool := false
  deriving Repr

namespace Flags

/-- The flag with a letter, set or cleared. -/
def set? (f : Flags) (letter : Char) (on : Bool) : Option Flags :=
  match letter with
  | 'i' => some { f with ignoreCase := on }
  | 'm' => some { f with multiLine := on }
  | 's' => some { f with dotTakesBreaks := on }
  | 'U' => some { f with swapGreed := on }
  | 'R' => some { f with returns := on }
  | 'u' => some { f with ascii := !on }
  | 'x' => some { f with spaced := on }
  | _ => none

/-- The flags after a list of letters: each at most once, with at most one hyphen, which must not
be the last. The letters after the hyphen are cleared. -/
def change? (f : Flags) (on : Bool) (seen : List Char) : List Char → Option Flags
  | [] => some f
  | '-' :: rest => if on && rest != [] then change? f false seen rest else none
  | c :: rest =>
    if seen.contains c then none
    else match f.set? c on with
      | some g => change? g on (c :: seen) rest
      | none => none

/-! ## What the flags mean -/

/-- The set with the characters that agree with a member up to case, if case is ignored. -/
def fold (f : Flags) (s : CodeSet) : CodeSet :=
  if f.ignoreCase then s.foldedBy (if f.ascii then asciiFoldPairs else foldPairs) else s

/-- A class, folded and then complemented if it is negated. A class of seven-bit characters has no
complement. -/
def close? (f : Flags) (negated : Bool) (s : CodeSet) : Option CodeSet :=
  if f.ascii then (if negated then none else some (f.fold s))
  else some (if negated then (f.fold s).complement else f.fold s)

/-- A literal character, with those that agree with it if case is ignored. -/
def literal (f : Flags) (c : Char) : Regex :=
  if !f.ignoreCase then ofChar c
  else if f.ascii then ofSet ((CodeSet.single c).foldedBy asciiFoldPairs)
  else ofSet (.ofPoints ((caseClass c).map Char.toNat))

/-- Any character, or any that ends no line. Without the full set of characters it has no
meaning. -/
def dot? (f : Flags) : Option Regex :=
  if f.ascii then none
  else if f.dotTakesBreaks then some (ofSet .full)
  else if f.returns then some (ofSet (CodeSet.ofPoints [0xA, 0xD]).complement)
  else some (ofSet (CodeSet.single '\n').complement)

def startLook (f : Flags) : Look := if f.multiLine then .lineStart f.returns else .textStart

def endLook (f : Flags) : Look := if f.multiLine then .lineEnd f.returns else .textEnd

def wordLook (f : Flags) (side : WordSide) : Look := .word side f.ascii

/-! ## Ignored text -/

/-- The text without the blanks and comments that it starts with. A comment ends with its line. -/
def dropIgnored (inComment : Bool) : List Char → List Char
  | [] => []
  | c :: rest =>
    if inComment then dropIgnored (c != '\n') rest
    else if isBlank c then dropIgnored false rest
    else if c == '#' then dropIgnored true rest
    else c :: rest

def skip (f : Flags) (cs : List Char) : List Char := if f.spaced then dropIgnored false cs else cs

/-- At most `limit` leading characters that satisfy `p`, and the rest. Ignored text after each of
them is left out. -/
def takeWhile (f : Flags) (p : Char → Bool) : Nat → List Char → List Char × List Char
  | 0, cs => ([], cs)
  | _ + 1, [] => ([], [])
  | limit + 1, c :: rest =>
    if p c then
      let (taken, after) := f.takeWhile p limit (f.skip rest)
      (c :: taken, after)
    else ([], c :: rest)

end Flags

end CodeChunks.Regex
