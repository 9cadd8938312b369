/-!
# Evidence

Eight kinds of `Evidence` can speak for a class, each with a weight in hundredths. An `EvidenceSet`
is a row of eight bits, so that sets are equal exactly when they have the same members.
-/

namespace CodeChunks

inductive Evidence where
  | heuristic
  | simpleNamePattern
  | language
  | connections
  | categories
  | roles
  | specificThing
  | purpose
  deriving DecidableEq, Repr

namespace Evidence

/-- The kinds of evidence, weakest first. -/
def all : List Evidence :=
  [.heuristic, .simpleNamePattern, .language, .connections, .categories, .roles, .specificThing,
   .purpose]

def weight : Evidence → Int
  | .heuristic => 10
  | .simpleNamePattern => 20
  | .language => 30
  | .connections => 65
  | .categories => 80
  | .roles => 85
  | .specificThing => 90
  | .purpose => 95

def name : Evidence → String
  | .heuristic => "heuristic"
  | .simpleNamePattern => "simple_name_pattern"
  | .language => "language"
  | .connections => "connections"
  | .categories => "categories"
  | .roles => "roles"
  | .specificThing => "specific_thing"
  | .purpose => "purpose"

def ofName? (n : String) : Option Evidence := all.find? (·.name == n)

/-- The bit of a kind. -/
def position : Evidence → Nat
  | .heuristic => 0
  | .simpleNamePattern => 1
  | .language => 2
  | .connections => 3
  | .categories => 4
  | .roles => 5
  | .specificThing => 6
  | .purpose => 7

theorem mem_all (e : Evidence) : e ∈ all := by cases e <;> decide

end Evidence

/-- A set of evidence. -/
structure EvidenceSet where
  bits : BitVec 8
  deriving DecidableEq, Repr

namespace EvidenceSet

def empty : EvidenceSet := ⟨0⟩

def has (s : EvidenceSet) (e : Evidence) : Bool := s.bits.getLsbD e.position

def union (s t : EvidenceSet) : EvidenceSet := ⟨s.bits ||| t.bits⟩

def single (e : Evidence) : EvidenceSet := ⟨BitVec.twoPow 8 e.position⟩

def ofList (es : List Evidence) : EvidenceSet := es.foldl (fun s e => s.union (single e)) empty

/-- The members, weakest first. -/
def toList (s : EvidenceSet) : List Evidence := Evidence.all.filter s.has

/-- The weights of the members together. -/
def weight (s : EvidenceSet) : Int := s.toList.foldl (fun w e => w + e.weight) 0

/-- The weight of the strongest member, zero if there is none. -/
def strongest (s : EvidenceSet) : Int := s.toList.foldl (fun w e => max w e.weight) 0

@[simp] theorem has_union (s t : EvidenceSet) (e : Evidence) :
    (s.union t).has e = (s.has e || t.has e) := by
  simp [has, union]

@[simp] theorem has_empty (e : Evidence) : empty.has e = false := by
  simp [has, empty]

theorem union_comm (s t : EvidenceSet) : s.union t = t.union s := by
  simp [union, BitVec.or_comm]

theorem union_assoc (s t u : EvidenceSet) : (s.union t).union u = s.union (t.union u) := by
  simp [union, BitVec.or_assoc]

@[simp] theorem union_self (s : EvidenceSet) : s.union s = s := by
  simp [union]

@[simp] theorem empty_union (s : EvidenceSet) : empty.union s = s := by
  simp [union, empty]

@[simp] theorem union_empty (s : EvidenceSet) : s.union empty = s := by
  simp [union, empty]

theorem has_single (e x : Evidence) : (single e).has x = decide (x = e) := by
  cases e <;> cases x <;> decide

/-- Sets with the same members are equal. -/
theorem ext_has {s t : EvidenceSet} (h : ∀ e, s.has e = t.has e) : s = t := by
  obtain ⟨a⟩ := s
  obtain ⟨b⟩ := t
  congr 1
  apply BitVec.eq_of_getLsbD_eq
  intro i hi
  match i, hi with
  | 0, _ => exact h .heuristic
  | 1, _ => exact h .simpleNamePattern
  | 2, _ => exact h .language
  | 3, _ => exact h .connections
  | 4, _ => exact h .categories
  | 5, _ => exact h .roles
  | 6, _ => exact h .specificThing
  | 7, _ => exact h .purpose

end EvidenceSet

end CodeChunks
