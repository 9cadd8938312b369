/-!
# Sets of characters as inversion lists

A set of code points is written as the increasing list of the points where membership changes:
`[0x41, 0x5b]` holds `A` to `Z`. A point is in the set when an odd number of entries lie at or
below it. The tables of character properties are inversion lists, and two sets are combined by
walking along both lists at once.
-/

namespace CodeChunks.Text

/-- A set of code points, given by the points where membership changes, in increasing order. -/
structure CodeSet where
  changes : List Nat
  deriving DecidableEq, Repr

namespace CodeSet

/-- Whether an odd number of the leading entries lie at or below `n`. -/
def oddBelow : List Nat → Nat → Bool
  | [], _ => false
  | b :: rest, n => if b ≤ n then !(oddBelow rest n) else false

def holds (s : CodeSet) (n : Nat) : Bool := oddBelow s.changes n

def mem (s : CodeSet) (c : Char) : Bool := s.holds c.toNat

@[simp] theorem oddBelow_nil (n : Nat) : oddBelow [] n = false := rfl

theorem oddBelow_cons_of_lt {b n : Nat} {rest : List Nat} (h : n < b) :
    oddBelow (b :: rest) n = false := by
  simp [oddBelow, Nat.not_le.2 h]

theorem oddBelow_cons_of_le {b n : Nat} {rest : List Nat} (h : b ≤ n) :
    oddBelow (b :: rest) n = !(oddBelow rest n) := by
  simp [oddBelow, h]

/-! ## Some sets -/

def empty : CodeSet := ⟨[]⟩

/-- The points from `first` to `last`. -/
def range (first last : Nat) : CodeSet := ⟨[first, last + 1]⟩

def single (c : Char) : CodeSet := range c.toNat c.toNat

/-- Every point. -/
def full : CodeSet := range 0 0x10FFFF

def ascii : CodeSet := range 0 0x7F

/-- The points that are no characters, because pairs of them stand for one in another encoding. -/
def surrogates : CodeSet := range 0xD800 0xDFFF

/-! ## Combining sets -/

/-- The point `p` in front of the list, if membership changes there. -/
def changeAt (p : Nat) (before after : Bool) (rest : List Nat) : List Nat :=
  if before == after then rest else p :: rest

/-- The changes of the set of the points where `op` holds of the memberships in two sets, given
the memberships before the first entries. -/
def combineFrom (op : Bool → Bool → Bool) (a b : Bool) : List Nat → List Nat → List Nat
  | [], [] => []
  | x :: s, [] => changeAt x (op a b) (op (!a) b) (combineFrom op (!a) b s [])
  | [], y :: t => changeAt y (op a b) (op a (!b)) (combineFrom op a (!b) [] t)
  | x :: s, y :: t =>
    if x < y then changeAt x (op a b) (op (!a) b) (combineFrom op (!a) b s (y :: t))
    else if y < x then changeAt y (op a b) (op a (!b)) (combineFrom op a (!b) (x :: s) t)
    else changeAt x (op a b) (op (!a) (!b)) (combineFrom op (!a) (!b) s t)
termination_by s t => s.length + t.length

/-- Combines two sets by an operation that is false of two points outside. -/
def combine (op : Bool → Bool → Bool) (s t : CodeSet) : CodeSet :=
  ⟨combineFrom op false false s.changes t.changes⟩

def union (s t : CodeSet) : CodeSet := combine or s t

def inter (s t : CodeSet) : CodeSet := combine and s t

def diff (s t : CodeSet) : CodeSet := combine (fun a b => a && !b) s t

/-- The points in one of the sets and not in the other. -/
def symmDiff (s t : CodeSet) : CodeSet := combine xor s t

def complement (s : CodeSet) : CodeSet := diff full s

def unions (sets : List CodeSet) : CodeSet := sets.foldl union empty

/-! ## Membership in a combination -/

/-- The changes are listed in increasing order. -/
def Ordered (s : CodeSet) : Prop := s.changes.Pairwise (· < ·)

/-- Nothing below the first entry is in the set. -/
theorem oddBelow_eq_false {s : List Nat} {n : Nat} (h : ∀ x ∈ s, n < x) :
    oddBelow s n = false := by
  cases s with
  | nil => rfl
  | cons x s => exact oddBelow_cons_of_lt (h x (by simp))

theorem oddBelow_changeAt {p n : Nat} {before after : Bool} {rest : List Nat} (h : p ≤ n) :
    oddBelow (changeAt p before after rest) n = ((before != after) != oddBelow rest n) := by
  cases before <;> cases after <;> simp [changeAt, oddBelow_cons_of_le h]

theorem oddBelow_changeAt_of_lt {p n : Nat} {before after : Bool} {rest : List Nat} (h : n < p)
    (hr : oddBelow rest n = false) : oddBelow (changeAt p before after rest) n = false := by
  cases before <;> cases after <;> simp [changeAt, hr, oddBelow_cons_of_lt h]

theorem oddBelow_cons_of_pairwise {x n : Nat} {s : List Nat} (hs : (x :: s).Pairwise (· < ·))
    (h : n < x) : oddBelow s n = false :=
  oddBelow_eq_false fun y hy => Nat.lt_trans h ((List.pairwise_cons.1 hs).1 y hy)

/-- Membership in a combination, counted from the memberships before the first entries. -/
theorem oddBelow_combineFrom (op : Bool → Bool → Bool) {s t : List Nat} (n : Nat) (a b : Bool)
    (hs : s.Pairwise (· < ·)) (ht : t.Pairwise (· < ·)) :
    oddBelow (combineFrom op a b s t) n =
      (op a b != op (a != oddBelow s n) (b != oddBelow t n)) := by
  fun_induction combineFrom op a b s t with
  | case1 => simp
  | case2 a b x s ih =>
    have ih := ih (List.pairwise_cons.1 hs).2 ht
    by_cases h : x ≤ n
    · rw [oddBelow_changeAt h, ih, oddBelow_cons_of_le h]
      cases a <;> cases b <;> cases oddBelow s n <;> simp
    · have hx : oddBelow s n = false := oddBelow_cons_of_pairwise hs (by omega)
      rw [oddBelow_changeAt_of_lt (by omega) (by rw [ih]; simp [hx]),
        oddBelow_cons_of_lt (by omega)]
      simp
  | case3 a b y t ih =>
    have ih := ih hs (List.pairwise_cons.1 ht).2
    by_cases h : y ≤ n
    · rw [oddBelow_changeAt h, ih, oddBelow_cons_of_le h]
      cases a <;> cases b <;> cases oddBelow t n <;> simp
    · have hy : oddBelow t n = false := oddBelow_cons_of_pairwise ht (by omega)
      rw [oddBelow_changeAt_of_lt (by omega) (by rw [ih]; simp [hy]),
        oddBelow_cons_of_lt (by omega)]
      simp
  | case4 a b x s y t hxy ih =>
    have ih := ih (List.pairwise_cons.1 hs).2 ht
    by_cases h : x ≤ n
    · rw [oddBelow_changeAt h, ih, oddBelow_cons_of_le h]
      cases a <;> cases b <;> cases oddBelow s n <;> cases oddBelow (y :: t) n <;> simp
    · have hx : oddBelow s n = false := oddBelow_cons_of_pairwise hs (by omega)
      have hy : oddBelow (y :: t) n = false := oddBelow_cons_of_lt (by omega)
      rw [oddBelow_changeAt_of_lt (by omega) (by rw [ih]; simp [hx, hy]),
        oddBelow_cons_of_lt (b := x) (by omega), hy]
      simp
  | case5 a b x s y t hxy hyx ih =>
    have ih := ih hs (List.pairwise_cons.1 ht).2
    by_cases h : y ≤ n
    · rw [oddBelow_changeAt h, ih, oddBelow_cons_of_le (b := y) h]
      cases a <;> cases b <;> cases oddBelow t n <;> cases oddBelow (x :: s) n <;> simp
    · have hy : oddBelow t n = false := oddBelow_cons_of_pairwise ht (by omega)
      have hx : oddBelow (x :: s) n = false := oddBelow_cons_of_lt (by omega)
      rw [oddBelow_changeAt_of_lt (by omega) (by rw [ih]; simp [hx, hy]),
        oddBelow_cons_of_lt (b := y) (by omega), hx]
      simp
  | case6 a b x s y t hxy hyx ih =>
    have ih := ih (List.pairwise_cons.1 hs).2 (List.pairwise_cons.1 ht).2
    have hEq : y = x := by omega
    subst hEq
    by_cases h : y ≤ n
    · rw [oddBelow_changeAt h, ih, oddBelow_cons_of_le h, oddBelow_cons_of_le h]
      cases a <;> cases b <;> cases oddBelow s n <;> cases oddBelow t n <;> simp
    · have hx : oddBelow s n = false := oddBelow_cons_of_pairwise hs (by omega)
      have hy : oddBelow t n = false := oddBelow_cons_of_pairwise ht (by omega)
      rw [oddBelow_changeAt_of_lt (by omega) (by rw [ih]; simp [hx, hy]),
        oddBelow_cons_of_lt (by omega), oddBelow_cons_of_lt (by omega)]
      simp

theorem holds_combine {op : Bool → Bool → Bool} (hop : op false false = false) {s t : CodeSet}
    (hs : s.Ordered) (ht : t.Ordered) (n : Nat) :
    (combine op s t).holds n = op (s.holds n) (t.holds n) := by
  simp [combine, holds, oddBelow_combineFrom op n false false hs ht, hop]

theorem holds_union {s t : CodeSet} (hs : s.Ordered) (ht : t.Ordered) (n : Nat) :
    (s.union t).holds n = (s.holds n || t.holds n) :=
  holds_combine rfl hs ht n

theorem holds_inter {s t : CodeSet} (hs : s.Ordered) (ht : t.Ordered) (n : Nat) :
    (s.inter t).holds n = (s.holds n && t.holds n) :=
  holds_combine rfl hs ht n

theorem holds_diff {s t : CodeSet} (hs : s.Ordered) (ht : t.Ordered) (n : Nat) :
    (s.diff t).holds n = (s.holds n && !(t.holds n)) :=
  holds_combine rfl hs ht n

theorem holds_symmDiff {s t : CodeSet} (hs : s.Ordered) (ht : t.Ordered) (n : Nat) :
    (s.symmDiff t).holds n = (s.holds n ^^ t.holds n) :=
  holds_combine rfl hs ht n

/-! ## Ranges and points -/

/-- The first and last points of the ranges between the changes. -/
def rangesOf : List Nat → List (Nat × Nat)
  | first :: past :: rest => (first, past - 1) :: rangesOf rest
  | _ => []

def ranges (s : CodeSet) : List (Nat × Nat) := rangesOf s.changes

def isEmpty (s : CodeSet) : Bool := s.changes.isEmpty

/-- Whether every member is a seven-bit character. -/
def isAscii (s : CodeSet) : Bool := s.changes.all (· ≤ 0x80)

/-- The only member, if there is just one. -/
def single? (s : CodeSet) : Option Char :=
  match s.changes with
  | [first, past] => if first + 1 == past then some (Char.ofNat first) else none
  | _ => none

/-- The changes of the set of the points of an increasing list. -/
def changesOf : List Nat → List Nat
  | [] => []
  | p :: ps =>
    match changesOf ps with
    | [] => [p, p + 1]
    | q :: rest =>
      if q == p then q :: rest
      else if q == p + 1 then p :: rest
      else p :: (p + 1) :: q :: rest

def ofPoints (ps : List Nat) : CodeSet := ⟨changesOf (ps.mergeSort (· ≤ ·))⟩

/-! ## Sets written as distances

A long table is written as text: the distances between the points of the list, as hexadecimal
numbers with blanks between them. -/

/-- The value of a hexadecimal digit; anything else counts as zero. -/
def digitValue (c : Char) : Nat :=
  if '0' ≤ c && c ≤ '9' then c.toNat - '0'.toNat
  else if 'a' ≤ c && c ≤ 'f' then c.toNat - 'a'.toNat + 10
  else 0

/-- The points read, latest first, and the distance being read. -/
structure Distances where
  points : List Nat := []
  distance : Nat := 0

namespace Distances

/-- The end of a distance. -/
def close (d : Distances) : Distances :=
  { points := (d.points.headD 0 + d.distance) :: d.points }

def read (d : Distances) (c : Char) : Distances :=
  if c == ' ' then d.close else { d with distance := 16 * d.distance + digitValue c }

def readLine (d : Distances) (line : String) : Distances := (line.toList.foldl read d).close

end Distances

def ofDistances (lines : List String) : CodeSet :=
  ⟨(lines.foldl Distances.readLine {}).points.reverse⟩

end CodeSet

end CodeChunks.Text
