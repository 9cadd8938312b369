import CodeChunks.Error
import CodeChunks.Evidence.Verdict
import CodeChunks.Regex.Find

/-!
# Patterns over the names of kinds

A `KindPattern` puts every kind whose name it matches into a class. It is used in two ways: at the
start of the name, before anything else is known, and anywhere in the name, to refine a verdict.
-/

namespace CodeChunks

structure KindPattern where
  source : String
  cls : CodeClass
  label : String
  caseSensitive : Bool
  atStart : Regex.Program
  anyPlace : Regex.Program

namespace KindPattern

/-- A pattern from its source. -/
def ofSource (source : String) (cls : CodeClass) (label : String) (caseSensitive : Bool) :
    Except Error KindPattern :=
  match Regex.compile? ("^(?:" ++ source ++ ")") (!caseSensitive),
      Regex.compile? source (!caseSensitive) with
  | some atStart, some anyPlace => .ok { source, cls, label, caseSensitive, atStart, anyPlace }
  | _, _ => .error (.invalidConfig (.badPattern source))

/-- The confidence of every verdict of a pattern is at most this. -/
def maxPercent : Int := 95

/-- The confidence of a match in hundredths. Longer patterns are more specific; matching the whole
name counts, and so does a match in the right case. -/
def percent (p : KindPattern) (name : String) : Int :=
  let found := p.anyPlace.find? name
  let whole := found == some (0, name.length)
  let exact := p.caseSensitive && found.isSome
  min maxPercent
    (60 + p.source.utf8ByteSize + (if whole then 10 else 0) + (if exact then 5 else 0))

def evidence : EvidenceSet := .ofList [.simpleNamePattern, .language]

/-- The verdict on a kind whose name matched. -/
def verdict (p : KindPattern) (name : String) : Verdict :=
  .ofTarget p.cls .patternMatch evidence (p.percent name)

end KindPattern

end CodeChunks
