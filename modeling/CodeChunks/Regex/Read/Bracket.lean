import CodeChunks.Regex.Read.Escape

/-!
# Bracketed classes

A class holds characters, ranges, escapes, named classes such as `[:alpha:]` and further classes.
Intersection `&&`, difference `--` and symmetric difference `~~` stand between its parts and bind
to the left. When case is ignored the sides of an operation are folded before it, and every class
before it is complemented.
-/

namespace CodeChunks.Regex

open Text

/-- A set read from the text, and how deep its brackets and operations nest. -/
structure SetPart where
  set : CodeSet
  depth : Nat := 0

/-! ## Named classes -/

/-- The named classes of seven-bit characters. -/
def asciiClass? (name : String) : Option CodeSet :=
  let small := CodeSet.range 0x61 0x7A
  let capital := CodeSet.range 0x41 0x5A
  let numeral := CodeSet.range 0x30 0x39
  match name with
  | "alnum" => some (.unions [numeral, capital, small])
  | "alpha" => some (.unions [capital, small])
  | "ascii" => some .ascii
  | "blank" => some (.ofPoints [0x09, 0x20])
  | "cntrl" => some (.unions [.range 0 0x1F, .range 0x7F 0x7F])
  | "digit" => some numeral
  | "graph" => some (.range 0x21 0x7E)
  | "lower" => some small
  | "print" => some (.range 0x20 0x7E)
  | "punct" => some (.unions [.range 0x21 0x2F, .range 0x3A 0x40, .range 0x5B 0x60,
      .range 0x7B 0x7E])
  | "space" => some (.unions [.range 0x09 0x0D, .range 0x20 0x20])
  | "upper" => some capital
  | "word" => some (.unions [numeral, capital, .range 0x5F 0x5F, small])
  | "xdigit" => some (.unions [numeral, .range 0x41 0x46, .range 0x61 0x66])
  | _ => none

/-- A named class after its opening bracket: whether it is negated, its set and the rest. -/
def readNamedClass (cs : List Char) : Option (Bool × CodeSet × List Char) :=
  match cs with
  | ':' :: rest =>
    let (negated, rest) := match rest with
      | '^' :: rest => (true, rest)
      | _ => (false, rest)
    match rest.span (· != ':') with
    | (name, ':' :: ']' :: after) =>
      (asciiClass? (String.ofList name)).map fun s => (negated, s, after)
    | _ => none
  | _ => none

/-! ## Members -/

/-- One member of a class: a character or an escape. -/
def readMember (f : Flags) (cs : List Char) : Option (Escape × List Char) :=
  match cs with
  | [] => none
  | '\\' :: rest => readEscape f rest
  | c :: rest => some (.char c, rest)

/-- Whether a character can stand in a class. -/
def Flags.allows (f : Flags) (c : Char) : Bool := !f.ascii || c.toNat ≤ 0x7F

/-- The character after a hyphen. Where blanks are ignored, so are the blanks before it and one
mark of a comment. -/
def afterHyphen (f : Flags) (cs : List Char) : Option Char :=
  if f.spaced then
    match trimStart cs with
    | '#' :: rest => (trimStart rest).head?
    | cs => cs.head?
  else cs.head?

/-- A member or a range of characters. A hyphen before the closing bracket or before another
hyphen makes no range. -/
def readRange (f : Flags) (cs : List Char) : Option (CodeSet × List Char) := do
  let (first, rest) ← readMember f cs
  let rest := f.skip rest
  let alone : Option (CodeSet × List Char) := match first with
    | .char c => if f.allows c then some (.single c, rest) else none
    | .set s => some (s, rest)
    | .look _ => none
  match rest with
  | [] => none
  | '-' :: tail =>
    if afterHyphen f tail == some ']' || afterHyphen f tail == some '-' then alone
    else do
      let (last, after) ← readMember f (f.skip tail)
      match first, last with
      | .char a, .char b =>
        if f.allows a && f.allows b && a ≤ b then some (.range a.toNat b.toNat, after) else none
      | _, _ => none
  | _ => alone

/-! ## Classes under way -/

/-- The operations between the parts of a class. -/
inductive SetOp where
  | inter
  | diff
  | symmDiff

def SetOp.apply : SetOp → CodeSet → CodeSet → CodeSet
  | .inter => CodeSet.inter
  | .diff => CodeSet.diff
  | .symmDiff => CodeSet.symmDiff

/-- A class that is being read: the operation that waits for its right side, with its left side,
and the parts read since, latest first. -/
structure OpenClass where
  negated : Bool := false
  pending : Option (SetOp × SetPart) := none
  parts : List SetPart := []

namespace OpenClass

def push (c : OpenClass) (p : SetPart) : OpenClass := { c with parts := p :: c.parts }

/-- The union of the parts. More than one part nests them. -/
def side (c : OpenClass) : SetPart :=
  match c.parts with
  | [] => ⟨.empty, 0⟩
  | [p] => p
  | ps => ⟨.unions (ps.map (·.set)), (ps.foldl (fun n p => max n p.depth) 0) + 1⟩

/-- What the class holds up to here. -/
def total (f : Flags) (c : OpenClass) : SetPart :=
  match c.pending with
  | none => c.side
  | some (op, left) =>
    let right := c.side
    ⟨op.apply (f.fold left.set) (f.fold right.set), max left.depth right.depth + 1⟩

/-- An operation follows. -/
def operate (f : Flags) (c : OpenClass) (op : SetOp) : OpenClass :=
  { c with pending := some (op, c.total f), parts := [] }

/-- The class is closed. -/
def close? (f : Flags) (c : OpenClass) : Option SetPart :=
  let p := c.total f
  (f.close? c.negated p.set).map fun s => ⟨s, p.depth + 1⟩

end OpenClass

/-- The hyphens that a class starts with, and the rest. -/
def readHyphens (f : Flags) (cs : List Char) : List SetPart × List Char :=
  let (hyphens, rest) := f.takeWhile (· == '-') cs.length cs
  (hyphens.map fun c => ⟨.single c, 0⟩, rest)

/-- The start of a class after its opening bracket: a circumflex that negates it, hyphens that
stand for themselves, and a closing bracket that does so because it comes first. -/
def openClass (f : Flags) (cs : List Char) : OpenClass × List Char :=
  let (negated, cs) := match f.skip cs with
    | '^' :: rest => (true, f.skip rest)
    | cs => (false, cs)
  match readHyphens f cs with
  | ([], ']' :: rest) => ({ negated, parts := [⟨.single ']', 0⟩] }, f.skip rest)
  | (hyphens, rest) => ({ negated, parts := hyphens }, rest)

/-- Reads on until the outermost class is closed. The open classes are given from the innermost
outwards. -/
def readOpen (f : Flags) : Nat → OpenClass → List OpenClass → List Char →
    Option (SetPart × List Char)
  | 0, _, _, _ => none
  | fuel + 1, c, outer, cs =>
    match f.skip cs with
    | [] => none
    | ']' :: rest =>
      match c.close? f, outer with
      | none, _ => none
      | some p, [] => some (p, rest)
      | some p, o :: outer => readOpen f fuel (o.push p) outer rest
    | '[' :: rest =>
      match readNamedClass rest with
      | some (negated, s, after) =>
        match f.close? negated s with
        | some s => readOpen f fuel (c.push ⟨s, 0⟩) outer after
        | none => none
      | none =>
        let (inner, after) := openClass f rest
        readOpen f fuel inner (c :: outer) after
    | '&' :: '&' :: rest => readOpen f fuel (c.operate f .inter) outer rest
    | '-' :: '-' :: rest => readOpen f fuel (c.operate f .diff) outer rest
    | '~' :: '~' :: rest => readOpen f fuel (c.operate f .symmDiff) outer rest
    | cs =>
      match readRange f cs with
      | some (s, after) => readOpen f fuel (c.push ⟨s, 0⟩) outer after
      | none => none

/-- A class after its opening bracket. Every step takes a character, so the length is fuel
enough. -/
def readClass (f : Flags) (cs : List Char) : Option (SetPart × List Char) :=
  let (c, rest) := openClass f cs
  readOpen f (rest.length + 1) c [] rest

end CodeChunks.Regex
