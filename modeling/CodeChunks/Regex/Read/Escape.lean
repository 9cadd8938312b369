import CodeChunks.Json.Reader
import CodeChunks.Regex.Read.Flags

/-!
# Escapes

What a backslash and the text after it stand for: a character, a class of characters or a condition
on the position. Every escape without a meaning is refused, and so are references to groups.
-/

namespace CodeChunks.Regex

open Text

/-- What an escape stands for. -/
inductive Escape where
  | char (c : Char)
  | set (s : CodeSet)
  | look (l : Look)

/-! ## Characters by number -/

/-- A character from its number, unless the number belongs to no character. -/
def charOfCode? (n : Nat) : Option Char := if h : n.isValidChar then some ⟨n.toUInt32, by
    have := h
    simp only [UInt32.isValidChar, Nat.isValidChar] at *
    have hn : n < 4294967296 := by omega
    simpa [Nat.toUInt32, UInt32.toNat_ofNat_of_lt' hn] using this⟩ else none

def isHexDigit (c : Char) : Bool := (Json.hexValue? c).isSome

/-- The character with a hexadecimal number. -/
def charOfHex? (ds : List Char) : Option Char :=
  if ds == [] then none
  else charOfCode? (ds.foldl (fun n d => 16 * n + (Json.hexValue? d).getD 0) 0)

/-- The numbers of characters that are written with exactly two digits stand for bytes. -/
def hexWidth (letter : Char) : Nat :=
  if letter == 'x' then 2 else if letter == 'u' then 4 else 8

/-- A character by number after its letter: digits in braces, or as many as the letter asks for.
A byte of more than seven bits is no character where all characters are seven-bit ones. -/
def readHex (f : Flags) (letter : Char) (cs : List Char) : Option (Char × List Char) :=
  match f.skip cs with
  | '\x7b' :: rest =>
    let inside := f.skip rest
    match f.takeWhile isHexDigit inside.length inside with
    | (ds, '\x7d' :: after) => (charOfHex? ds).map fun c => (c, f.skip after)
    | _ => none
  | cs =>
    let (ds, after) := f.takeWhile isHexDigit (hexWidth letter) cs
    if ds.length != hexWidth letter then none
    else match charOfHex? ds with
      | some c => if f.ascii && letter == 'x' && 0x7F < c.toNat then none else some (c, after)
      | none => none

/-! ## Classes by name -/

/-- The text up to a first `!=`, and the text after it. -/
def splitUnequal : List Char → Option (List Char × List Char)
  | '!' :: '=' :: rest => some ([], rest)
  | c :: rest => (splitUnequal rest).map fun (before, after) => (c :: before, after)
  | [] => none

/-- The text up to a first separator, and the text after it. -/
def splitAtChar (sep : Char) (cs : List Char) : Option (List Char × List Char) :=
  match cs.span (· != sep) with
  | (before, _ :: after) => some (before, after)
  | (_, []) => none

/-- The class that stands between braces: a property, or a property with a value after `!=`, `:`
or `=`. The first of the three separators says that the class is negated. -/
def namedSet? (name : List Char) : Option (CodeSet × Bool) :=
  match splitUnequal name, splitAtChar ':' name, splitAtChar '=' name with
  | some (property, value), _, _ => (valueSet? property value).map fun s => (s, true)
  | none, some (property, value), _ => (valueSet? property value).map fun s => (s, false)
  | none, none, some (property, value) => (valueSet? property value).map fun s => (s, false)
  | none, none, none => (propertySet? name).map fun s => (s, false)

/-- A class by its property, after the letter of the escape: one letter, or a name in braces. -/
def readProperty (f : Flags) (negated : Bool) (cs : List Char) : Option (CodeSet × List Char) :=
  if f.ascii then none
  else match f.skip cs with
    | [] => none
    | '\\' :: _ => none
    | '\x7b' :: rest =>
      let inside := f.skip rest
      match f.takeWhile (· != '\x7d') inside.length inside with
      | (name, _ :: after) => do
        let (s, unequal) ← namedSet? name
        pure (← f.close? (negated != unequal) s, after)
      | _ => none
    | c :: rest => do
      pure (← f.close? negated (← propertySet? [c]), f.skip rest)

/-- A class with a letter of its own, complemented if it is negated. -/
def letterSet? (f : Flags) (letter : Char) (negated : Bool) : Option CodeSet :=
  let s := match letter, f.ascii with
    | 'd', false => digitSet
    | 's', false => spaceSet
    | 'w', false => wordSet
    | 'd', true => .range 0x30 0x39
    | 's', true => .ofPoints [9, 10, 11, 12, 13, 32]
    | _, _ => .unions [.range 0x30 0x39, .range 0x41 0x5A, .range 0x5F 0x5F, .range 0x61 0x7A]
  if !negated then some s else if f.ascii then none else some s.complement

/-! ## Conditions -/

def isSideLetter (c : Char) : Bool := c.isAlpha || c == '-'

/-- The side of a word in braces after `\b`. Braces that start with no letter belong to a
repetition, so nothing is read then. -/
def readWordSide (f : Flags) (cs : List Char) : Option (WordSide × List Char) :=
  match cs with
  | '\x7b' :: rest =>
    match f.skip rest with
    | [] => none
    | c :: inside =>
      if !isSideLetter c then some (.boundary, cs)
      else match f.takeWhile isSideLetter (inside.length + 1) (c :: inside) with
        | (name, '\x7d' :: after) =>
          match String.ofList name with
          | "start" => some (.start, after)
          | "end" => some (.finish, after)
          | "start-half" => some (.startHalf, after)
          | "end-half" => some (.finishHalf, after)
          | _ => none
        | _ => none
  | _ => some (.boundary, cs)

/-! ## Escapes -/

/-- Symbols may be escaped whether they have a meaning or not, except angle brackets. -/
def isEscapable (c : Char) : Bool :=
  c.toNat < 0x80 && !c.isAlphanum && c != '<' && c != '>'

/-- An escape after its backslash. -/
def readEscape (f : Flags) (cs : List Char) : Option (Escape × List Char) :=
  match cs with
  | [] => none
  | c :: rest =>
    match c with
    | 'd' | 's' | 'w' => (letterSet? f c false).map fun s => (.set s, rest)
    | 'D' | 'S' | 'W' => (letterSet? f c.toLower true).map fun s => (.set s, rest)
    | 'p' => (readProperty f false rest).map fun (s, after) => (.set s, after)
    | 'P' => (readProperty f true rest).map fun (s, after) => (.set s, after)
    | 'x' | 'u' | 'U' => (readHex f c rest).map fun (d, after) => (.char d, after)
    | 'b' => (readWordSide f rest).map fun (side, after) => (.look (f.wordLook side), after)
    | 'B' => some (.look (f.wordLook .inside), rest)
    | '<' => some (.look (f.wordLook .start), rest)
    | '>' => some (.look (f.wordLook .finish), rest)
    | 'A' => some (.look .textStart, rest)
    | 'z' => some (.look .textEnd, rest)
    | 'a' => some (.char (Char.ofNat 7), rest)
    | 'f' => some (.char (Char.ofNat 12), rest)
    | 't' => some (.char '\t', rest)
    | 'n' => some (.char '\n', rest)
    | 'r' => some (.char '\r', rest)
    | 'v' => some (.char (Char.ofNat 11), rest)
    | c => if isEscapable c then some (.char c, rest) else none

end CodeChunks.Regex
