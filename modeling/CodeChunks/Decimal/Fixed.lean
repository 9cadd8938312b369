import CodeChunks.Decimal.Exact

/-!
# Decimals with a fixed number of places

A value is rounded to a multiple of a power of ten, a half going to the even neighbour, and
written with all its places.
-/

namespace CodeChunks.Decimal

/-- The nearest integer of `num / den`, a half going to the even neighbour. -/
def roundDivEven (num den : Nat) : Nat :=
  let q := num / den
  let r := num % den
  if 2 * r < den then q
  else if den < 2 * r then q + 1
  else if q % 2 == 0 then q else q + 1

/-- The nearest integer of `num / den`, a half going away from zero. -/
def roundDivUp (num den : Nat) : Nat := (2 * num + den) / (2 * den)

/-- The digits of `n`, with zeros in front up to `width`. -/
def padded (width n : Nat) : String :=
  let ds := n.repr
  String.ofList (List.replicate (width - ds.length) '0') ++ ds

/-- A count of the `places`-th power of a tenth, with its point. -/
def pointed (places n : Nat) : String :=
  let unit := Nat.pow 10 places
  (n / unit).repr ++ "." ++ padded places (n % unit)

/-- A magnitude with `places` places. -/
def fixed (places : Nat) (x : Rat) : String :=
  pointed places (roundDivEven (x.num.natAbs * Nat.pow 10 places) x.den)

/-- A double with `places` places; the sign of zero is kept. -/
def fixedFloat (places : Nat) (x : Float) : String :=
  match classifyFloat x with
  | .nan => "NaN"
  | .infinite negative => if negative then "-inf" else "inf"
  | .finite negative m => (if negative then "-" else "") ++ fixed places m.toRat

/-- Rounding leaves the value within half a unit. -/
theorem roundDivEven_close (num : Nat) {den : Nat} (h : 0 < den) :
    2 * num ≤ 2 * den * roundDivEven num den + den ∧
      2 * den * roundDivEven num den ≤ 2 * num + den := by
  have hm := Nat.div_add_mod num den
  have hl := Nat.mod_lt num h
  simp only [roundDivEven]
  repeat' split
  all_goals
    simp only [Nat.mul_add, Nat.mul_assoc]
    omega

/-- A half goes to the even neighbour. -/
theorem roundDivEven_even_of_half {num den : Nat} (h : 2 * (num % den) = den) :
    roundDivEven num den % 2 = 0 := by
  simp only [roundDivEven, h, Nat.lt_irrefl, if_false]
  by_cases hq : num / den % 2 = 0
  · simp [hq]
  · simp only [beq_iff_eq, hq, if_false]
    omega

end CodeChunks.Decimal
