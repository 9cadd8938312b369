import CodeChunks.Decimal.Exact

/-!
# The shortest decimal that reads back

The reals that round to a double form an interval around it, its `Neighbourhood`, whose ends belong
to it when the mantissa is even. The shortest decimal is found on the coarsest decimal grid that has
a point in the interval: of the two neighbours of the value on that grid, the nearer one that lies
inside.
-/

namespace CodeChunks.Decimal

/-- The reals that round to a double. -/
structure Neighbourhood where
  low : Rat
  high : Rat
  closed : Bool

def Neighbourhood.mem (n : Neighbourhood) (x : Rat) : Bool :=
  if n.closed then n.low ≤ x && x ≤ n.high else n.low < x && x < n.high

/-- Below a power of two the gap to the next double is half as wide. -/
def Magnitude.neighbourhood (m : Magnitude) : Neighbourhood where
  low :=
    if m.mantissa == hiddenBit && m.exponent != minExponent then
      ((4 * m.mantissa - 1 : Nat) : Rat) * pow2 (m.exponent - 2)
    else ((2 * m.mantissa - 1 : Nat) : Rat) * pow2 (m.exponent - 1)
  high := ((2 * m.mantissa + 1 : Nat) : Rat) * pow2 (m.exponent - 1)
  closed := m.mantissa % 2 == 0

/-- A decimal `digits · 10 ^ exponent`. -/
structure Scientific where
  digits : Nat
  exponent : Int
  deriving DecidableEq, Repr

def Scientific.toRat (s : Scientific) : Rat := s.digits * pow10 s.exponent

/-- The point of the grid `10 ^ k` nearest to `x` that lies in the neighbourhood. -/
def Neighbourhood.onGrid? (n : Neighbourhood) (x : Rat) (k : Int) : Option Scientific :=
  let below := (x / pow10 k).floor.toNat
  let a : Scientific := ⟨below, k⟩
  let b : Scientific := ⟨below + 1, k⟩
  match n.mem a.toRat, n.mem b.toRat with
  | true, true => some (if x - a.toRat ≤ b.toRat - x then a else b)
  | true, false => some a
  | false, true => some b
  | false, false => none

/-- The number of digits of the integral part, or minus the zeros after the point. -/
def leadingPlace (x : Rat) : Int :=
  let whole := x.floor.toNat
  if whole != 0 then (whole.repr.length : Int) - 1
  else
    let scaled := (x * pow10 400).floor.toNat
    (scaled.repr.length : Int) - 401

/-- The coarsest of the grids `10 ^ k`, `10 ^ (k - 1)`, … with a point in the neighbourhood. -/
def searchGrids (n : Neighbourhood) (x : Rat) (k : Int) : Nat → Scientific
  | 0 => ⟨(x / pow10 k).floor.toNat, k⟩
  | fuel + 1 =>
    match n.onGrid? x k with
    | some s => s
    | none => searchGrids n x (k - 1) fuel

/-- The shortest decimal of a positive magnitude. Seventeen digits always suffice. -/
def Magnitude.shortest (m : Magnitude) : Scientific :=
  let x := m.toRat
  searchGrids m.neighbourhood x (leadingPlace x + 1) 20

/-- A decimal written out without an exponent and without trailing zeros after the point. -/
def Scientific.plain (s : Scientific) : String :=
  if 0 ≤ s.exponent then
    s.digits.repr ++ String.ofList (List.replicate s.exponent.toNat '0')
  else
    let places := (-s.exponent).toNat
    let ds := s.digits.repr.toList
    let full := List.replicate (places + 1 - ds.length) '0' ++ ds
    let whole := full.take (full.length - places)
    let fraction := (full.drop (full.length - places)).reverse.dropWhile (· == '0') |>.reverse
    if fraction == [] then String.ofList whole
    else String.ofList (whole ++ '.' :: fraction)

/-- A double in full: the shortest decimal that reads back, never with an exponent. -/
def plainFloat (x : Float) : String :=
  match classifyFloat x with
  | .nan => "NaN"
  | .infinite negative => if negative then "-inf" else "inf"
  | .finite negative m =>
    (if negative then "-" else "") ++ (if m.mantissa == 0 then "0" else m.shortest.plain)

end CodeChunks.Decimal
