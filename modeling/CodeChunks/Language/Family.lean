import CodeChunks.Language.Basic
import CodeChunks.Text.Search

/-!
# Language families

Families group languages with like delimiters. A sample of code is scored against each `Family` by
the delimiters it contains; a delimiter that several families share counts for its share only. The
best `Score` wins, where weights within the `tolerance` of each other count as equal and the number
of matches, then the matched fraction, decide.
-/

namespace CodeChunks

inductive Family where
  | cStyle
  | pythonStyle
  | mlStyle
  | lispStyle
  | markupStyle
  | shellStyle
  | functionalStyle
  | latexStyle
  | rubyStyle
  | matlabStyle
  | unknown
  deriving DecidableEq, Repr, Inhabited

namespace Family

/-- The families that a sample can show, in order of preference. -/
def detectable : List Family :=
  [.cStyle, .pythonStyle, .mlStyle, .lispStyle, .markupStyle, .shellStyle, .functionalStyle,
   .latexStyle, .rubyStyle, .matlabStyle]

def name : Family → String
  | .cStyle => "c_style"
  | .pythonStyle => "python_style"
  | .mlStyle => "ml_style"
  | .lispStyle => "lisp_style"
  | .markupStyle => "markup_style"
  | .shellStyle => "shell_style"
  | .functionalStyle => "functional_style"
  | .latexStyle => "latex_style"
  | .rubyStyle => "ruby_style"
  | .matlabStyle => "matlab_style"
  | .unknown => "unknown"

/-- The family of a known language. -/
def ofLanguage : Language → Family
  | .c | .cpp | .cSharp | .java | .javaScript | .typeScript | .go | .rust | .swift | .kotlin
  | .scala | .php | .css => .cStyle
  | .python => .pythonStyle
  | .html | .xml | .javaScriptReact | .typeScriptReact => .markupStyle
  | .shell => .shellStyle
  | .ruby => .rubyStyle
  | _ => .unknown

/-- The delimiters that mark a family. -/
def delimiters : Family → List String
  | .cStyle =>
    ["\x7b", "\x7d", "/*", "*/", "//", ";\n", "function ", "struct ", "class ", "return ", "if (",
     "for (", "while (", "switch (", "=>"]
  | .pythonStyle =>
    ["def ", "class ", "import ", "from ", "elif ", "\"\"\"", "lambda ", "self.", "__init__",
     "):\n", "return "]
  | .mlStyle =>
    ["let ", "(*", "*)", "match ", " with\n", "->", "|>", "fun ", "type ", " rec ", ";;"]
  | .lispStyle =>
    ["(defun ", "(define ", "(let ", "(lambda ", "(setq ", "'(", ";;", "(if ", "(cond "]
  | .markupStyle => ["</", "/>", "<!--", "-->", "<div", "<span", "class=\"", "<!DOCTYPE"]
  | .shellStyle =>
    ["#!/bin/", "fi\n", "done\n", "esac", "then\n", "$(", "$\x7b", "echo ", "export "]
  | .functionalStyle =>
    ["::", "->", "where\n", "data ", "module ", "import ", "\x7b-", "-\x7d", "<-", "case "]
  | .latexStyle =>
    ["\\begin\x7b", "\\end\x7b", "\\section", "\\usepackage", "\\documentclass", "$$",
     "\\label\x7b"]
  | .rubyStyle =>
    ["def ", "end\n", "do |", "elsif ", "require ", "module ", "puts ", "attr_accessor", "@"]
  | .matlabStyle =>
    ["function ", "end\n", "%\x7b", "%\x7d", "elseif ", "disp(", "zeros(", "plot("]
  | .unknown => []

/-- The number of families that a delimiter marks. -/
def share (delimiter : String) : Nat :=
  (detectable.filter fun f => f.delimiters.contains delimiter).length

/-- How well a family fits a sample. A delimiter marks one family or two, so weights are whole
numbers of halves; fractions have small denominators. Double precision would do as well: it adds up
such weights without rounding and keeps such fractions apart. -/
structure Score where
  family : Family
  matched : Nat
  weight : Rat
  fraction : Rat
  deriving DecidableEq, Repr

/-- The weight of the delimiters present, each divided among the families it marks. -/
def weigh (present : List String) : Rat :=
  present.foldl (fun w d => w + 1 / (share d : Rat)) 0

def score (content : String) (f : Family) : Score :=
  let present := f.delimiters.filter fun d => Text.contains d content
  { family := f
    matched := present.length
    weight := weigh present
    fraction := (present.length : Rat) / (max 1 f.delimiters.length : Nat) }

def scores (content : String) : List Score := detectable.map (score content)

/-- Weights closer than this count as equal. -/
def tolerance : Rat := 1 / 1000

/-- Whether a later score displaces the best one so far. -/
def Score.beats (new best : Score) : Bool :=
  if best.weight + tolerance < new.weight then true
  else if new.weight - best.weight ≤ tolerance && best.weight - new.weight ≤ tolerance then
    best.matched < new.matched || (new.matched == best.matched && best.fraction < new.fraction)
  else false

/-- The first of the best scores. -/
def best? : List Score → Option Score
  | [] => none
  | s :: rest => some (rest.foldl (fun best new => if new.beats best then new else best) s)

/-- The least number of matches that is taken for a family if nothing else is asked. -/
def defaultMatches : Nat := 3

/-- The family of a sample: the best one, if it has enough matches. -/
def detect (content : String) (least : Nat) : Family :=
  match best? (scores content) with
  | some s => if least ≤ s.matched then s.family else .unknown
  | none => .unknown

def all : List Family := detectable ++ [.unknown]

def ofName? (n : String) : Option Family := all.find? (·.name == n)

def toJson (f : Family) : Json := .str f.name

def ofJson? (j : Json) : Option Family := j.asName?.bind ofName?

theorem ofName?_name (f : Family) : ofName? f.name = some f := by cases f <;> rfl

end Family

end CodeChunks
