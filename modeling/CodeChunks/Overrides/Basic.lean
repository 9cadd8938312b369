import CodeChunks.Language.Basic
import CodeChunks.Overrides.Pattern
import CodeChunks.Table

/-!
# Overrides of single languages

A language may map kinds to classes directly, and may bring patterns over the names of kinds. Both
are asked before the grammar, the mappings first (`first?`). After the grammar has spoken, a pattern
that matches anywhere in the name replaces its verdict if it is strictly more confident (`refine`).
-/

namespace CodeChunks

structure Overrides where
  mappings : Table (Language × String) CodeClass := []
  /-- The patterns of all languages, oldest first. -/
  patterns : List (Language × KindPattern) := []

namespace Overrides

def empty : Overrides := {}

def map (o : Overrides) (l : Language) (kind : String) (c : CodeClass) : Overrides :=
  { o with mappings := o.mappings.insert (l, kind) c }

/-- Appends a pattern to those of a language. -/
def append (o : Overrides) (l : Language) (p : KindPattern) : Overrides :=
  { o with patterns := o.patterns ++ [(l, p)] }

/-- Appends a pattern by its source; one that is refused changes nothing. -/
def register (o : Overrides) (l : Language) (source : String) (c : CodeClass) (label : String)
    (caseSensitive : Bool) : Except Error Overrides :=
  (KindPattern.ofSource source c label caseSensitive).map (o.append l)

/-- The patterns of a language, oldest first. -/
def patternsFor (o : Overrides) (l : Language) : List KindPattern :=
  o.patterns.filterMap fun (m, p) => if m = l then some p else none

def mappingEvidence : EvidenceSet := .ofList [.categories, .heuristic]

/-- The confidence of a direct mapping, in hundredths. -/
def mappingPercent : Int := 95

/-- The verdict of a direct mapping. -/
def mapped? (o : Overrides) (kind : String) (l : Language) : Option Verdict :=
  (o.mappings.get? (l, kind)).map fun c =>
    .ofTarget c .registryMapping mappingEvidence mappingPercent

/-- The verdict of the first pattern that matches at the start of the name. -/
def matched? (o : Overrides) (kind : String) (l : Language) : Option Verdict :=
  ((o.patternsFor l).find? fun p => p.atStart.isMatch kind).map (·.verdict kind)

/-- The verdict before the grammar is asked. -/
def first? (o : Overrides) (kind : String) (l : Language) : Option Verdict :=
  o.mapped? kind l <|> o.matched? kind l

/-- The first pattern of another class that matches anywhere in the name. -/
def rival? (o : Overrides) (base : Verdict) (kind : String) (l : Language) : Option Verdict :=
  ((o.patternsFor l).find? fun p => p.cls != base.cls && p.anyPlace.isMatch kind).map
    (·.verdict kind)

/-- The verdict after the grammar was asked. A verdict that is displaced stays as an alternate. -/
def refine (o : Overrides) (base : Verdict) (kind : String) (l : Language) : Verdict :=
  match o.rival? base kind l with
  | some v =>
    if base.percent < v.percent then
      v.withAlternates (base.alternates ++ [(base.cls, base.evidence)])
    else base
  | none => base

end Overrides

end CodeChunks
