import CodeChunks.Json.Basic

/-!
# Reading JSON text

The reader follows the grammar strictly: no leading zeros, no trailing commas, no raw control
characters in strings, nothing but blanks after the value. Whole numbers of 64 bits stay whole;
minus zero and everything wider is a double. A double is read fast rather than exactly: the digits
that fit a 64-bit number are scaled by a power of ten, each step in double arithmetic, so the last
bit may be off.
-/

namespace CodeChunks.Json

def isSpace (c : Char) : Bool := c == ' ' || c == '\n' || c == '\t' || c == '\r'

def skipSpace (cs : List Char) : List Char := cs.dropWhile isSpace

def hexValue? (c : Char) : Option Nat :=
  if '0' ≤ c && c ≤ '9' then some (c.toNat - 48)
  else if 'a' ≤ c && c ≤ 'f' then some (c.toNat - 87)
  else if 'A' ≤ c && c ≤ 'F' then some (c.toNat - 55)
  else none

/-- The code unit of a four-digit escape. -/
def hexUnit? (a b c d : Char) : Option Nat := do
  let a ← hexValue? a
  let b ← hexValue? b
  let c ← hexValue? c
  let d ← hexValue? d
  pure (((a * 16 + b) * 16 + c) * 16 + d)

/-- The character of a short escape. -/
def shortEscape? : Char → Option Char
  | '"' => some '"'
  | '\\' => some '\\'
  | '/' => some '/'
  | 'b' => some (Char.ofNat 8)
  | 'f' => some (Char.ofNat 12)
  | 'n' => some '\n'
  | 'r' => some '\r'
  | 't' => some '\t'
  | _ => none

/-- One element of a string literal: a code point, or one code unit of an escape. -/
inductive Unit16 where
  | char (c : Char)
  | unit (n : Nat)

/-- The elements of a string literal after its opening quote, and what follows the literal. -/
def readUnits : List Char → Option (List Unit16 × List Char)
  | [] => none
  | '"' :: rest => some ([], rest)
  | '\\' :: 'u' :: a :: b :: c :: d :: rest => do
    let n ← hexUnit? a b c d
    let (units, after) ← readUnits rest
    pure (.unit n :: units, after)
  | '\\' :: e :: rest => do
    let c ← shortEscape? e
    let (units, after) ← readUnits rest
    pure (.char c :: units, after)
  | c :: rest =>
    if c.toNat < 0x20 || c == '\\' then none
    else do
      let (units, after) ← readUnits rest
      pure (.char c :: units, after)

/-- The text of a literal; a surrogate must be half of a pair. -/
def joinUnits? : List Unit16 → Option (List Char)
  | [] => some []
  | .char c :: rest => (joinUnits? rest).map (c :: ·)
  | .unit n :: rest =>
    if n < 0xD800 || 0xE000 ≤ n then (joinUnits? rest).map (Char.ofNat n :: ·)
    else if n < 0xDC00 then
      match rest with
      | .unit m :: rest' =>
        if 0xDC00 ≤ m && m < 0xE000 then
          (joinUnits? rest').map (Char.ofNat (0x10000 + (n - 0xD800) * 1024 + (m - 0xDC00)) :: ·)
        else none
      | _ => none
    else none

/-- A literal after its opening quote: its text, if it denotes one, and what follows. -/
def readString (cs : List Char) : Option (Option String × List Char) :=
  (readUnits cs).map fun (units, after) => ((joinUnits? units).map String.ofList, after)

/-- The digits of the integral part: a single zero, or digits that do not start with one. -/
def readWhole (cs : List Char) : Option (List Char × List Char) :=
  match cs with
  | '0' :: rest => if (rest.head?.map Decimal.isDigit).getD false then none else some (['0'], rest)
  | _ =>
    let ds := cs.takeWhile Decimal.isDigit
    if ds == [] then none else some (ds, cs.dropWhile Decimal.isDigit)

/-- The digits after a point, at least one. -/
def readFraction (cs : List Char) : Option (List Char × List Char) :=
  match cs with
  | '.' :: rest =>
    let ds := rest.takeWhile Decimal.isDigit
    if ds == [] then none else some (ds, rest.dropWhile Decimal.isDigit)
  | _ => some ([], cs)

/-- The exponent, if there is one. -/
def readScale (cs : List Char) : Option (Option Int × List Char) :=
  match cs with
  | e :: rest =>
    if e == 'e' || e == 'E' then
      let (negative, tail) := match rest with
        | '-' :: tail => (true, tail)
        | '+' :: tail => (false, tail)
        | _ => (false, rest)
      let ds := tail.takeWhile Decimal.isDigit
      if ds == [] then none
      else
        let n : Int := Decimal.digitsValue ds
        some (some (if negative then -n else n), tail.dropWhile Decimal.isDigit)
    else some (none, cs)
  | [] => some (none, cs)

/-- Appends digits to a 64-bit number up to the first that does not fit; also how many fit. -/
def gather (n : Nat) : List Char → Nat × Nat
  | [] => (n, 0)
  | d :: rest =>
    let m := 10 * n + Decimal.digitValue d
    if m ≤ Decimal.maxWord then
      let (value, count) := gather m rest
      (value, count + 1)
    else (n, 0)

/-- A power of ten as a double. -/
def tenTo (k : Nat) : Float := Float.ofScientific 1 false k

/-- The greatest power of ten among the doubles. -/
def maxPower : Nat := 308

/-- `x · 10 ^ exponent` in double arithmetic, or nothing if that is too large. -/
def scaled (x : Float) (exponent : Int) : Option Float :=
  if exponent.natAbs ≤ maxPower then
    if 0 ≤ exponent then
      let y := x * tenTo exponent.natAbs
      if y.isInf then none else some y
    else some (x / tenTo exponent.natAbs)
  else if x == 0.0 then some x
  else if 0 ≤ exponent then none
  else scaled (x / tenTo maxPower) (exponent + maxPower)
termination_by exponent.natAbs
decreasing_by
  simp only [maxPower] at *
  omega

/-- Exponents of more than 32 bits are not scaled by: nothing is that small but zero. -/
def maxScale : Nat := 2147483647

/-- The double of some digits before and after the point and an exponent. -/
def magnitude (whole fraction : List Char) (scale : Int) : Option Float :=
  let (n, kept) := gather 0 whole
  let (n, places) := gather n fraction
  if maxScale < scale.natAbs then
    if n != 0 && 0 < scale then none else some 0.0
  else scaled n.toUInt64.toFloat ((whole.length : Int) - kept - places + scale)

/-- A signed double, or a value that denotes nothing. -/
def ofMagnitude (negative : Bool) : Option Float → Json
  | some x => .float (if negative then -x else x)
  | none => .undefined

/-- The value of a number. -/
def numberValue (negative : Bool) (whole fraction : List Char) (scale : Option Int) : Json :=
  let n := Decimal.digitsValue whole
  match fraction, scale with
  | [], none =>
    if negative then
      if n == 0 then .float (-0.0)
      else if n ≤ 9223372036854775808 then .int (-n)
      else ofMagnitude true (magnitude whole [] 0)
    else if n ≤ Decimal.maxWord then .int n
    else ofMagnitude false (magnitude whole [] 0)
  | _, _ => ofMagnitude negative (magnitude whole fraction (scale.getD 0))

def readNumber (cs : List Char) : Option (Json × List Char) := do
  let (negative, cs) := match cs with
    | '-' :: rest => (true, rest)
    | _ => (false, cs)
  let (whole, cs) ← readWhole cs
  let (fraction, cs) ← readFraction cs
  let (scale, cs) ← readScale cs
  pure (numberValue negative whole fraction scale, cs)

/-- An object, unless one of its keys denotes no text. -/
def ofEntries (entries : List (Option String × Json)) : Json :=
  match entries.mapM fun (k, v) => k.map (·, v) with
  | some kvs => .obj kvs
  | none => .undefined

mutual

/-- A value at the start of the text. -/
def readValue : Nat → List Char → Option (Json × List Char)
  | 0, _ => none
  | fuel + 1, cs =>
    match skipSpace cs with
    | 'n' :: 'u' :: 'l' :: 'l' :: rest => some (.null, rest)
    | 't' :: 'r' :: 'u' :: 'e' :: rest => some (.bool true, rest)
    | 'f' :: 'a' :: 'l' :: 's' :: 'e' :: rest => some (.bool false, rest)
    | '"' :: rest => (readString rest).map fun (s, after) => ((s.map .str).getD .undefined, after)
    | '[' :: rest =>
      match skipSpace rest with
      | ']' :: after => some (.arr [], after)
      | _ => (readItems fuel rest).map fun (items, after) => (.arr items, after)
    | '\x7b' :: rest =>
      match skipSpace rest with
      | '\x7d' :: after => some (.obj [], after)
      | _ => (readEntries fuel rest).map fun (entries, after) => (ofEntries entries, after)
    | cs => readNumber cs

/-- The items of a list up to its closing bracket. -/
def readItems : Nat → List Char → Option (List Json × List Char)
  | 0, _ => none
  | fuel + 1, cs => do
    let (item, after) ← readValue fuel cs
    match skipSpace after with
    | ',' :: rest =>
      let (items, after) ← readItems fuel rest
      pure (item :: items, after)
    | ']' :: rest => pure ([item], rest)
    | _ => none

/-- The entries of an object up to its closing brace. -/
def readEntries : Nat → List Char → Option (List (Option String × Json) × List Char)
  | 0, _ => none
  | fuel + 1, cs =>
    match skipSpace cs with
    | '"' :: rest => do
      let (key, after) ← readString rest
      match skipSpace after with
      | ':' :: rest =>
        let (value, after) ← readValue fuel rest
        match skipSpace after with
        | ',' :: rest =>
          let (entries, after) ← readEntries fuel rest
          pure ((key, value) :: entries, after)
        | '\x7d' :: rest => pure ([(key, value)], rest)
        | _ => none
      | _ => none
    | _ => none

end

/-- The value of a whole text. Every call either takes a character or is followed by one that
does, so twice the length is fuel enough. -/
def parse? (text : String) : Option Json :=
  let cs := text.toList
  match readValue (2 * cs.length + 4) cs with
  | some (j, rest) => if skipSpace rest == [] then some j else none
  | none => none

end CodeChunks.Json
