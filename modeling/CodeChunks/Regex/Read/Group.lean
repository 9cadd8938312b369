import CodeChunks.Decimal.Numeral
import CodeChunks.Regex.Read.Flags
import CodeChunks.Text.Property

/-!
# Groups and repetitions

What may follow an opening parenthesis, and how often a part is repeated. Look-around is refused.
-/

namespace CodeChunks.Regex

open Text

/-! ## Repetitions -/

/-- How often, and whether a question mark made it lazy. -/
structure Times where
  least : Nat
  most : Option Nat
  lazy : Bool

/-- The question mark that makes a repetition lazy. -/
def readLazy (cs : List Char) : Bool × List Char :=
  match cs with
  | '?' :: rest => (true, rest)
  | _ => (false, cs)

/-- Counts have at most 32 bits. -/
def maxCount : Nat := 4294967295

/-- A count, with blanks around it. -/
def readCount (f : Flags) (cs : List Char) : Option Nat × List Char :=
  let cs := trimStart cs
  let (ds, rest) := f.takeWhile Decimal.isDigit cs.length cs
  let n := Decimal.digitsValue ds
  (if ds == [] || maxCount < n then none else some n, f.skip (trimStart rest))

/-- A counted repetition after its opening brace. -/
def readTimes (f : Flags) (cs : List Char) : Option (Times × List Char) :=
  match readCount f (f.skip cs) with
  | (some least, '\x7d' :: rest) =>
    let (isLazy, after) := readLazy (f.skip rest)
    some (⟨least, some least, isLazy⟩, after)
  | (some least, ',' :: rest) =>
    match f.skip rest with
    | '\x7d' :: rest =>
      let (isLazy, after) := readLazy (f.skip rest)
      some (⟨least, none, isLazy⟩, after)
    | rest =>
      match readCount f rest with
      | (some most, '\x7d' :: rest) =>
        let (isLazy, after) := readLazy (f.skip rest)
        if least ≤ most then some (⟨least, some most, isLazy⟩, after) else none
      | _ => none
  | _ => none

/-! ## Groups -/

def isNameStart (c : Char) : Bool := c == '_' || isAlphabetic c

def isNameChar (c : Char) : Bool :=
  c == '_' || c == '.' || c == '[' || c == ']' || isAlphanumeric c

/-- The name of a group up to its closing angle bracket. -/
def readGroupName (cs : List Char) : Option (String × List Char) :=
  match cs.span (· != '>') with
  | (c :: more, _ :: after) =>
    if isNameStart c && more.all isNameChar then some (String.ofList (c :: more), after) else none
  | _ => none

/-- What opens a parenthesis. -/
inductive GroupHead where
  /-- A group with a number, and with a name if it has one. -/
  | numbered (name : Option String)
  /-- A group without a number, and the flags in it. -/
  | plain (f : Flags)
  /-- No group, but flags for what follows. -/
  | flags (f : Flags)

/-- The head of a parenthesis after its opening. -/
def readGroupHead (f : Flags) (cs : List Char) : Option (GroupHead × List Char) :=
  match f.skip cs with
  | '?' :: '=' :: _ => none
  | '?' :: '!' :: _ => none
  | '?' :: '<' :: '=' :: _ => none
  | '?' :: '<' :: '!' :: _ => none
  | '?' :: 'P' :: '<' :: rest =>
    (readGroupName rest).map fun (n, after) => (.numbered (some n), after)
  | '?' :: '<' :: rest => (readGroupName rest).map fun (n, after) => (.numbered (some n), after)
  | '?' :: rest =>
    match rest.span fun c => c != ':' && c != ')' with
    | (letters, ':' :: after) => (f.change? true [] letters).map fun g => (.plain g, after)
    | ([], _) => none
    | (letters, ')' :: after) => (f.change? true [] letters).map fun g => (.flags g, after)
    | _ => none
  | cs => some (.numbered none, cs)

end CodeChunks.Regex
