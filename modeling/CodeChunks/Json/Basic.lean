import CodeChunks.Decimal.Numeral

/-!
# JSON values

Objects keep their entries in order and with repetitions. `undefined` is a value whose text is in
order but which denotes nothing: a string with an unpaired surrogate, an object with such a key,
a number beyond the range of doubles. It may be passed over, never used.
-/

namespace CodeChunks

inductive Json where
  | null
  | bool (b : Bool)
  | int (n : Int)
  | float (x : Float)
  | str (s : String)
  | arr (items : List Json)
  | obj (entries : List (String × Json))
  | undefined
  deriving Inhabited, Repr

namespace Json

def asBool? : Json → Option Bool
  | .bool b => some b
  | _ => none

def asString? : Json → Option String
  | .str s => some s
  | _ => none

/-- A whole number from zero to `limit`. -/
def asNat? (limit : Nat) : Json → Option Nat
  | .int n => if 0 ≤ n ∧ n ≤ limit then some n.toNat else none
  | _ => none

/-- A 64-bit count. -/
def asWord? : Json → Option Nat := asNat? Decimal.maxWord

/-- A double; whole numbers are read as doubles too. -/
def asFloat? : Json → Option Float
  | .int n =>
    let x := Decimal.scaleToFloat n.natAbs 0
    some (if n < 0 then -x else x)
  | .float x => some x
  | _ => none

/-- A list, each item of which must be readable. -/
def asList? {α : Type} (read : Json → Option α) : Json → Option (List α)
  | .arr items => items.mapM read
  | _ => none

def asStrings? : Json → Option (List String) := asList? asString?

/-- A value that may be missing: `null` stands for none. -/
def asOption? {α : Type} (read : Json → Option α) : Json → Option (Option α)
  | .null => some none
  | j => (read j).map some

/-- The name of a choice and what comes with it: a bare name, or an object with one entry. -/
def asChoice? : Json → Option (String × Option Json)
  | .str s => some (s, none)
  | .obj [(name, payload)] => some (name, some payload)
  | _ => none

/-- The name of a choice that carries nothing. -/
def asName? (j : Json) : Option String :=
  match j.asChoice? with
  | some (name, none) => some name
  | some (name, some .null) => some name
  | _ => none

/-- The last entry of an object under a key. -/
def get? (j : Json) (key : String) : Option Json :=
  match j with
  | .obj entries => (entries.reverse.find? (·.1 == key)).map (·.2)
  | _ => none

@[simp] theorem asBool?_bool (b : Bool) : asBool? (.bool b) = some b := rfl

@[simp] theorem asString?_str (s : String) : asString? (.str s) = some s := rfl

theorem asNat?_int {limit n : Nat} (h : n ≤ limit) : asNat? limit (.int n) = some n := by
  simp only [asNat?]
  rw [if_pos ⟨by omega, by omega⟩]
  simp

@[simp] theorem asList?_map {α : Type} {read : Json → Option α} {write : α → Json}
    (h : ∀ a, read (write a) = some a) (xs : List α) :
    asList? read (.arr (xs.map write)) = some xs := by
  simp only [asList?]
  induction xs with
  | nil => rfl
  | cons x xs ih => simp [List.mapM_cons, h, ih]

end Json

end CodeChunks
