import CodeChunks.Overrides.Basic
import CodeChunks.Taxonomy.Basic
import CodeChunks.Text.LowerCase
import CodeChunks.Text.Search

/-!
# The surroundings of a node

A verdict of an override gains confidence if the surroundings of the node bear it out, its
`Context`: its parent, its siblings, and the path of the file. Each `Hint` raises the confidence by
a factor, never above a cap of its own and never lower than it was. All hints together raise it by a
tenth at most.
-/

namespace CodeChunks

structure Context where
  parent : Option String := none
  siblings : List String := []
  path : Option String := none

/-- A reason to raise a confidence: by which factor, and up to where. -/
structure Hint where
  factor : Rat
  cap : Rat

namespace Hint

def strong : Hint := ⟨11 / 10, 98 / 100⟩

def mild : Hint := ⟨105 / 100, 95 / 100⟩

/-- A fiftieth for each sibling that bears the verdict out. -/
def siblings (n : Nat) : Hint := ⟨1 + (n : Rat) / 50, 95 / 100⟩

def raise (h : Hint) (c : Rat) : Rat :=
  let raised := if h.factor * c ≤ h.cap then h.factor * c else h.cap
  if c < raised then raised else c

theorem le_raise (h : Hint) (c : Rat) : c ≤ h.raise c := by
  simp only [raise]
  generalize (if h.factor * c ≤ h.cap then h.factor * c else h.cap) = r
  split
  · exact Rat.le_of_lt ‹_›
  · exact Rat.le_refl

end Hint

namespace Context

/-- Parts of a path that suggest component markup. -/
def markupPaths : List String := ["component", "react", "ui", "frontend"]

/-- Parts of the name of a parent that suggest component markup. -/
def markupParents : List String := ["component", "react", "jsx"]

def mentions (hints : List String) (text : String) : Bool :=
  hints.any fun hint => Text.contains hint text

/-- The hints that the surroundings give for a class of a given name. -/
def hints (x : Context) (className : String) : List Hint :=
  let name := Text.toLower className
  let parent := Text.toLower (x.parent.getD "")
  let path := Text.toLower (x.path.getD "")
  let isMarkup :=
    Text.startsWith "jsx" name || Text.startsWith "tsx" name || Text.contains "react" name
  let markupParent := mentions markupParents parent
  let kin := (x.siblings.filter fun s => mentions ["jsx", "react"] (Text.toLower s)).length
  let when (b : Bool) (h : Hint) : List Hint := if b then [h] else []
  when (path != "" && isMarkup && (mentions markupPaths path || markupParent)) .strong ++
  when (Text.endsWith ".jsx" path || Text.endsWith ".tsx" path) .strong ++
  when (Text.startsWith "rust" name && Text.endsWith ".rs" path) .mild ++
  when (isMarkup && markupParent) .strong ++
  when (Text.contains "rust" name && Text.contains "rust" parent) .mild ++
  when (Text.contains "jsx" name && 0 < kin) (.siblings kin)

end Context

/-- The nearest whole number of hundredths, a half going up. -/
def nearestPercent (c : Rat) : Int := (100 * c + 1 / 2).floor

/-- A confidence after its hints, at most a tenth above what it was. -/
def raised (base : Rat) (hints : List Hint) : Rat :=
  let c := hints.foldl (fun c h => h.raise c) base
  if 11 / 10 * base < c then 11 / 10 * base else c

/-- The verdict in view of the surroundings. Verdicts of the grammar stay as they are. -/
def Verdict.inContext (t : Taxonomy) (v : Verdict) (x : Context) : Verdict :=
  if v.method.isOverride then
    let base : Rat := (v.percent : Rat) / 100
    let c := raised base (x.hints (t.name v.cls))
    if base < c then v.rescored (nearestPercent c) else v
  else v

end CodeChunks
