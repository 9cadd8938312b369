import CodeChunks.Taxonomy.Class

/-!
# The taxonomy

Classes that languages add are registered once and never change. A handle is the position of the
class in the register, cut to 16 bits (`handleAt`); to `register` the same name for the same
language again gives the same handle.
-/

namespace CodeChunks

/-- A class that a language adds. -/
structure ClassDef where
  name : String
  language : Language
  /-- The class that stands in for it where only core classes are known. -/
  parent : CodeClass
  rank : Rank
  importance : Importance
  deriving Repr

def ClassDef.isNamed (d : ClassDef) (name : String) (language : Language) : Bool :=
  d.name == name && d.language == language

/-- The added classes, oldest first. -/
structure Taxonomy where
  added : List ClassDef := []
  deriving Inhabited

namespace Taxonomy

def handleAt (position : Nat) : UInt16 := UInt16.ofNat position

/-- The class registered under a name for a language. -/
def find? (t : Taxonomy) (name : String) (language : Language) : Option CodeClass :=
  (t.added.findIdx? (·.isNamed name language)).map fun i => .added (handleAt i)

/-- Registers a definition, or finds the one that is there. -/
def register (t : Taxonomy) (d : ClassDef) : Taxonomy × CodeClass :=
  match t.find? d.name d.language with
  | some c => (t, c)
  | none => ({ added := t.added ++ [d] }, .added (handleAt t.added.length))

/-- The definition behind a class, if it is an added one. -/
def definition? (t : Taxonomy) : CodeClass → Option ClassDef
  | .core _ => none
  | .added handle => t.added[handle.toNat]?

def name (t : Taxonomy) : CodeClass → String
  | .core c => c.name
  | c => ((t.definition? c).map (·.name)).getD "unknown_extension"

def rank (t : Taxonomy) : CodeClass → Rank
  | .core c => c.rank
  | c => ((t.definition? c).map (·.rank)).getD .syntaxReferences

def importance (t : Taxonomy) : CodeClass → Importance
  | .core c => c.importance
  | c => ((t.definition? c).map (·.importance)).getD .zero

/-- The class that stands in for an added one; core classes stand for themselves. -/
def standIn (t : Taxonomy) (c : CodeClass) : CodeClass :=
  ((t.definition? c).map (·.parent)).getD c

/-- The position of the stand-in among the core classes, counted from one; a stand-in that is
not a core class counts as the last. -/
def ordinal (t : Taxonomy) (c : CodeClass) : Nat :=
  match t.standIn c with
  | .core c => c.ordinal
  | .added _ => 21

/-- The class of component markup. -/
def markupElement : ClassDef :=
  { name := "jsx_markup_element"
    language := .javaScriptReact
    parent := .core .definitionCallable
    rank := .controlFlowLogic
    importance := ⟨0.70, 0.60, 0.65, 0.55, 0.35⟩ }

/-- The taxonomy with the classes that are always there. -/
def builtin : Taxonomy := { added := [markupElement] }

/-- The handle of the markup class in every taxonomy that extends `builtin`. -/
def markupClass : CodeClass := .added 0

/-- A class by its name: a core class, else the first added class of that name. -/
def byName? (t : Taxonomy) (n : String) : Option CodeClass :=
  match CoreClass.ofName? n with
  | some c => some (.core c)
  | none => (t.added.findIdx? (·.name == n)).map fun i => .added (handleAt i)

@[simp] theorem name_core (t : Taxonomy) (c : CoreClass) : t.name (.core c) = c.name := rfl

@[simp] theorem rank_core (t : Taxonomy) (c : CoreClass) : t.rank (.core c) = c.rank := rfl

@[simp] theorem standIn_core (t : Taxonomy) (c : CoreClass) : t.standIn (.core c) = .core c := rfl

theorem find?_builtin_markup :
    builtin.find? markupElement.name markupElement.language = some markupClass := by decide

end Taxonomy

end CodeChunks
