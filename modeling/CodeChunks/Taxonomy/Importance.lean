import CodeChunks.Json.Record
import CodeChunks.Text.LowerCase

/-!
# Importance and tasks

How much a piece of code matters depends on what it is read for. An `Importance` gives one score for
each of five purposes; a `Task` weighs the five scores into one.
-/

namespace CodeChunks

/-- One score for each purpose. -/
structure Importance where
  discovery : Float
  comprehension : Float
  modification : Float
  debugging : Float
  documentation : Float
  deriving Repr, Inhabited

namespace Importance

def values (i : Importance) : List Float :=
  [i.discovery, i.comprehension, i.modification, i.debugging, i.documentation]

/-- The greater of two scores; one that is no number gives way to the other. -/
def larger (a b : Float) : Float :=
  if a.isNaN then b else if b.isNaN then a else if a < b then b else a

/-- The largest score, at least zero. -/
def largest (i : Importance) : Float := i.values.foldl larger 0.0

/-- Whether some score reaches the threshold. -/
def reaches (i : Importance) (threshold : Float) : Bool := i.values.any fun v => threshold ≤ v

/-- The scores weighed by a profile. -/
def dot (i profile : Importance) : Float :=
  (i.values.zip profile.values).foldl (fun sum p => sum + p.1 * p.2) (-0.0)

def zero : Importance := ⟨0.0, 0.0, 0.0, 0.0, 0.0⟩

def toJson (i : Importance) : Json :=
  .obj [("discovery", .ofFloat i.discovery), ("comprehension", .ofFloat i.comprehension),
    ("modification", .ofFloat i.modification), ("debugging", .ofFloat i.debugging),
    ("documentation", .ofFloat i.documentation)]

def ofJson? (j : Json) : Option Importance := do
  let r ← j.asRecord?
    ["discovery", "comprehension", "modification", "debugging", "documentation"]
  pure
    { discovery := ← r.required "discovery" Json.asFloat?
      comprehension := ← r.required "comprehension" Json.asFloat?
      modification := ← r.required "modification" Json.asFloat?
      debugging := ← r.required "debugging" Json.asFloat?
      documentation := ← r.required "documentation" Json.asFloat? }

/-- All scores are finite numbers. -/
def IsFinite (i : Importance) : Prop := ∀ v ∈ i.values, v.isFinite = true

instance (i : Importance) : Decidable i.IsFinite :=
  inferInstanceAs (Decidable (∀ v ∈ i.values, v.isFinite = true))

theorem ofJson?_toJson {i : Importance} (h : i.IsFinite) : ofJson? i.toJson = some i := by
  simp only [IsFinite, values, List.forall_mem_cons] at h
  obtain ⟨hdiscovery, hcomprehension, hmodification, hdebugging, hdocumentation, -⟩ := h
  simp [ofJson?, toJson, Json.asRecord?, Json.Record.required, Json.Record.get?, List.lookup_cons,
    Json.asFloat?_ofFloat, *]

end Importance

/-- What the code is read for. -/
inductive Task where
  | localEdit
  | debug
  | refactor
  | document
  | search
  | implement
  | review
  | default
  deriving DecidableEq, Repr, Inhabited

namespace Task

def all : List Task :=
  [.localEdit, .debug, .refactor, .document, .search, .implement, .review, .default]

def name : Task → String
  | .localEdit => "local_edit"
  | .debug => "debug"
  | .refactor => "refactor"
  | .document => "document"
  | .search => "search"
  | .implement => "implement"
  | .review => "review"
  | .default => "default"

/-- The weight of each purpose; the weights of a task sum to one. -/
def profile : Task → Importance
  | .localEdit => ⟨0.40, 0.30, 0.20, 0.05, 0.05⟩
  | .debug => ⟨0.20, 0.30, 0.10, 0.35, 0.05⟩
  | .refactor => ⟨0.15, 0.25, 0.45, 0.10, 0.05⟩
  | .document => ⟨0.20, 0.20, 0.10, 0.05, 0.45⟩
  | .search => ⟨0.50, 0.20, 0.15, 0.10, 0.05⟩
  | .implement => ⟨0.30, 0.30, 0.25, 0.10, 0.05⟩
  | .review => ⟨0.25, 0.35, 0.15, 0.15, 0.10⟩
  | .default => ⟨0.25, 0.25, 0.20, 0.15, 0.15⟩

def ofExactName? (n : String) : Option Task := all.find? (·.name == n)

/-- The task that a name in any case stands for. -/
def ofName? (n : String) : Option Task := ofExactName? (Text.toLower n)

def toJson (t : Task) : Json := .str t.name

def ofJson? (j : Json) : Option Task := j.asName?.bind ofExactName?

@[simp] theorem ofJson?_toJson (t : Task) : ofJson? t.toJson = some t := by cases t <;> rfl

end Task

/-- The importance of a class for a task. -/
def Importance.weighted (i : Importance) (t : Task) : Float := i.dot t.profile

end CodeChunks
