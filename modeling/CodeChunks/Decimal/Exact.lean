/-!
# The exact value of a floating-point number

A finite double is a sign and a magnitude `mantissa · 2 ^ exponent`. The magnitude is read off the
bits, so that printing and comparing can work with exact rationals.
-/

namespace CodeChunks.Decimal

/-- A finite magnitude `mantissa · 2 ^ exponent`. -/
structure Magnitude where
  mantissa : Nat
  exponent : Int
  deriving DecidableEq, Repr

/-- What a double stands for. -/
inductive FloatClass where
  | nan
  | infinite (negative : Bool)
  | finite (negative : Bool) (value : Magnitude)
  deriving DecidableEq, Repr

/-- The least exponent, shared by the subnormal numbers. -/
def minExponent : Int := -1074

/-- The mantissa of the least normal number. -/
def hiddenBit : Nat := 0x10000000000000

/-- The value of a bit pattern: one bit of sign, eleven of exponent, the rest mantissa. -/
def classify (bits : UInt64) : FloatClass :=
  let n := bits.toNat
  let negative := decide (0x8000000000000000 ≤ n)
  let biased := n / hiddenBit % 2048
  let fraction := n % hiddenBit
  if biased == 2047 then
    if fraction == 0 then .infinite negative else .nan
  else if biased == 0 then .finite negative ⟨fraction, minExponent⟩
  else .finite negative ⟨fraction + hiddenBit, (biased : Int) - 1075⟩

def classifyFloat (x : Float) : FloatClass := classify x.toBits

/-- `2 ^ k` for any integer `k`. -/
def pow2 (k : Int) : Rat :=
  if 0 ≤ k then (Nat.pow 2 k.toNat : Nat) else 1 / ((Nat.pow 2 (-k).toNat : Nat) : Rat)

/-- `10 ^ k` for any integer `k`. -/
def pow10 (k : Int) : Rat :=
  if 0 ≤ k then (Nat.pow 10 k.toNat : Nat) else 1 / ((Nat.pow 10 (-k).toNat : Nat) : Rat)

def Magnitude.toRat (m : Magnitude) : Rat := m.mantissa * pow2 m.exponent

end CodeChunks.Decimal
