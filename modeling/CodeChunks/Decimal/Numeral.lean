/-!
# Reading numerals

Whole numbers are digits after an optional plus sign. Decimals have an optional sign, digits with
an optional point (on either side of which the digits may be missing, but not on both) and an
optional exponent; the words for infinity and for no number are read in any case.
-/

namespace CodeChunks.Decimal

def isDigit (c : Char) : Bool := '0' ≤ c && c ≤ '9'

def digitValue (c : Char) : Nat := c.toNat - '0'.toNat

/-- The number that a row of digits stands for. -/
def digitsValue (ds : List Char) : Nat := ds.foldl (fun n d => 10 * n + digitValue d) 0

/-- The greatest 64-bit number. -/
def maxWord : Nat := 18446744073709551615

/-- A whole number of at most 64 bits. -/
def readWord? (text : String) : Option Nat :=
  let ds := match text.toList with
    | '+' :: rest => rest
    | cs => cs
  if ds != [] && ds.all isDigit then
    let n := digitsValue ds
    if n ≤ maxWord then some n else none
  else none

/-- The double nearest to `digits · 10 ^ exponent`. Exponents far outside the range are settled
before any power is taken. -/
def scaleToFloat (digits : Nat) (exponent : Int) : Float :=
  if digits == 0 then 0.0
  else
    let place := (digits.repr.length : Int) + exponent
    if 400 < place then 1.0 / 0.0
    else if place < -400 then 0.0
    else if 0 ≤ exponent then Float.ofScientific digits false exponent.toNat
    else Float.ofScientific digits true (-exponent).toNat

/-- A decimal split into digits before and after the point and an exponent. -/
structure Numeral where
  whole : List Char
  fraction : List Char
  exponent : Int

def Numeral.magnitude (n : Numeral) : Float :=
  scaleToFloat (digitsValue (n.whole ++ n.fraction)) (n.exponent - n.fraction.length)

/-- An exponent: a sign and at least one digit. -/
def readExponent? (cs : List Char) : Option Int :=
  let (negative, ds) := match cs with
    | '-' :: rest => (true, rest)
    | '+' :: rest => (false, rest)
    | _ => (false, cs)
  if ds != [] && ds.all isDigit then
    let n : Int := digitsValue ds
    some (if negative then -n else n)
  else none

/-- A decimal without its sign. -/
def readNumeral? (cs : List Char) : Option Numeral :=
  let whole := cs.takeWhile isDigit
  let afterWhole := cs.dropWhile isDigit
  let (fraction, rest) := match afterWhole with
    | '.' :: tail => (tail.takeWhile isDigit, tail.dropWhile isDigit)
    | _ => ([], afterWhole)
  if whole == [] && fraction == [] then none
  else match rest with
    | [] => some ⟨whole, fraction, 0⟩
    | e :: tail =>
      if e == 'e' || e == 'E' then (readExponent? tail).map fun x => ⟨whole, fraction, x⟩
      else none

/-- A double, as configuration values are written. -/
def readFloat? (text : String) : Option Float :=
  let (negative, cs) := match text.toList with
    | '-' :: rest => (true, rest)
    | '+' :: rest => (false, rest)
    | cs => (false, cs)
  let word := cs.map Char.toLower
  let magnitude :=
    if word == "inf".toList || word == "infinity".toList then some (1.0 / 0.0 : Float)
    else if word == "nan".toList then some (0.0 / 0.0 : Float)
    else (readNumeral? cs).map Numeral.magnitude
  magnitude.map fun x => if negative then -x else x

end CodeChunks.Decimal
