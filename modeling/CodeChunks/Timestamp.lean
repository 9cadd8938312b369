import CodeChunks.Decimal.Fixed
import CodeChunks.Json.Basic
import CodeChunks.Text.Blank

/-!
# Points in time

A point in time is a date and a time of day in universal time. It is written with `Z` for the
zone, and with no, three, six or nine digits of a second, as few as are enough. A reader takes any
zone with whole minutes, numbers without their leading zeros, blanks around them, a blank in place
of the `T`, and a second 60 in any minute.
-/

namespace CodeChunks

structure Date where
  year : Int
  month : Nat
  day : Nat
  deriving DecidableEq, Repr

namespace Date

def isLeapYear (year : Int) : Bool := year % 4 == 0 && (year % 100 != 0 || year % 400 == 0)

def daysInMonth (year : Int) : Nat → Nat
  | 2 => if isLeapYear year then 29 else 28
  | 4 | 6 | 9 | 11 => 30
  | _ => 31

/-- Whether a date exists and lies in the range of years that are kept. -/
def isValid (d : Date) : Bool :=
  -262143 ≤ d.year && d.year ≤ 262142 && 1 ≤ d.month && d.month ≤ 12 &&
    1 ≤ d.day && d.day ≤ daysInMonth d.year d.month

def next (d : Date) : Date :=
  if d.day < daysInMonth d.year d.month then { d with day := d.day + 1 }
  else if d.month < 12 then ⟨d.year, d.month + 1, 1⟩
  else ⟨d.year + 1, 1, 1⟩

def previous (d : Date) : Date :=
  if 1 < d.day then { d with day := d.day - 1 }
  else if 1 < d.month then ⟨d.year, d.month - 1, daysInMonth d.year (d.month - 1)⟩
  else ⟨d.year - 1, 12, 31⟩

end Date

structure Timestamp where
  date : Date
  hour : Nat
  minute : Nat
  second : Nat
  nanos : Nat
  deriving DecidableEq, Repr

namespace Timestamp

def isValid (t : Timestamp) : Bool :=
  t.date.isValid && t.hour ≤ 23 && t.minute ≤ 59 && t.second ≤ 60 && t.nanos ≤ 999999999

/-- The same moment, given the minutes by which its clock is ahead of universal time, less than a
day. -/
def toUniversal (t : Timestamp) (ahead : Int) : Timestamp :=
  let minutes : Int := 60 * t.hour + t.minute - ahead
  let date :=
    if minutes < 0 then t.date.previous else if 1440 ≤ minutes then t.date.next else t.date
  let inDay := (minutes % 1440).toNat
  { t with date := date, hour := inDay / 60, minute := inDay % 60 }

/-! ## Writing -/

/-- Years beyond four digits, and those before the year nought, carry a sign. -/
def yearText (y : Int) : String :=
  if 0 ≤ y && y ≤ 9999 then Decimal.padded 4 y.toNat
  else (if y < 0 then "-" else "+") ++ Decimal.padded 4 y.natAbs

def fractionText (nanos : Nat) : String :=
  if nanos == 0 then ""
  else if nanos % 1000000 == 0 then "." ++ Decimal.padded 3 (nanos / 1000000)
  else if nanos % 1000 == 0 then "." ++ Decimal.padded 6 (nanos / 1000)
  else "." ++ Decimal.padded 9 nanos

def text (t : Timestamp) : String :=
  yearText t.date.year ++ "-" ++ Decimal.padded 2 t.date.month ++ "-" ++
    Decimal.padded 2 t.date.day ++ "T" ++ Decimal.padded 2 t.hour ++ ":" ++
    Decimal.padded 2 t.minute ++ ":" ++ Decimal.padded 2 t.second ++ fractionText t.nanos ++ "Z"

/-! ## Reading -/

/-- A number of at least one digit and at most `width`, after blanks. -/
def readNumber (width : Nat) (cs : List Char) : Option (Nat × List Char) :=
  let cs := Text.trimStart cs
  let ds := (cs.take width).takeWhile Decimal.isDigit
  if ds == [] then none else some (Decimal.digitsValue ds, cs.drop ds.length)

/-- A year: four digits at most, or a sign and any number of digits. -/
def readYear (cs : List Char) : Option (Int × List Char) :=
  let cs := Text.trimStart cs
  let signed (rest : List Char) : Option (Nat × List Char) :=
    let ds := rest.takeWhile Decimal.isDigit
    if ds == [] then none else some (Decimal.digitsValue ds, rest.drop ds.length)
  match cs with
  | '-' :: rest => (signed rest).map fun (n, after) => (-(n : Int), after)
  | '+' :: rest => (signed rest).map fun (n, after) => ((n : Int), after)
  | _ => (readNumber 4 cs).map fun (n, after) => ((n : Int), after)

/-- One character, after blanks. -/
def readMark (c : Char) (cs : List Char) : Option (List Char) :=
  match Text.trimStart cs with
  | d :: rest => if c == d then some rest else none
  | [] => none

/-- A fraction of a second; digits beyond the ninth are passed over. -/
def readFraction (cs : List Char) : Option (Nat × List Char) :=
  match cs with
  | '.' :: rest =>
    let ds := rest.takeWhile Decimal.isDigit
    let kept := ds.take 9
    if ds == [] then none
    else some (Decimal.digitsValue kept * Nat.pow 10 (9 - kept.length), rest.drop ds.length)
  | _ => some (0, cs)

def twoDigits? : List Char → Option (Nat × List Char)
  | a :: b :: rest =>
    if Decimal.isDigit a && Decimal.isDigit b then some (Decimal.digitsValue [a, b], rest) else none
  | _ => none

/-- The minutes by which a zone is ahead of universal time. -/
def readZone (cs : List Char) : Option (Int × List Char) :=
  let shifted (sign : Int) (rest : List Char) : Option (Int × List Char) := do
    let (hours, rest) ← twoDigits? rest
    let (minutes, rest) ← twoDigits? (rest.dropWhile fun c => c == ':' || Text.isBlank c)
    if hours ≤ 23 && minutes ≤ 59 then some (sign * (60 * hours + minutes), rest) else none
  match cs with
  | 'Z' :: rest | 'z' :: rest => some (0, rest)
  | '+' :: rest => shifted 1 rest
  | '-' :: rest | '−' :: rest => shifted (-1) rest
  | a :: b :: c :: rest =>
    if [a, b, c].map Char.toUpper == ['U', 'T', 'C'] then some (0, rest) else none
  | _ => none

def ofText? (s : String) : Option Timestamp := do
  let (year, cs) ← readYear s.toList
  let cs ← readMark '-' cs
  let (month, cs) ← readNumber 2 cs
  let cs ← readMark '-' cs
  let (day, cs) ← readNumber 2 cs
  let cs ← match cs with
    | c :: rest => if c == 'T' || c == 't' || c == ' ' then some rest else none
    | [] => none
  let (hour, cs) ← readNumber 2 cs
  let cs ← readMark ':' cs
  let (minute, cs) ← readNumber 2 cs
  let cs ← readMark ':' cs
  let (second, cs) ← readNumber 2 cs
  let (nanos, cs) ← readFraction cs
  let (ahead, cs) ← readZone (Text.trimStart cs)
  let t : Timestamp := ⟨⟨year, month, day⟩, hour, minute, second, nanos⟩
  let u := t.toUniversal ahead
  if Text.trimStart cs == [] && t.isValid && u.isValid then some u else none

def toJson (t : Timestamp) : Json := .str t.text

def ofJson? (j : Json) : Option Timestamp := j.asString?.bind ofText?

end Timestamp

end CodeChunks
