import CodeChunks.Evidence.Aggregate
import CodeChunks.Grammar.Basic

/-!
# What the grammar says about a kind

Six signals are read off a kind, each giving candidate verdicts: a fixed list of exceptions,
comments that may stand anywhere, the purpose of a token, the categories of the kind, the roles of
its children, and as a last resort that children are taken by position. The first signal that gives
a single confident verdict while nothing was found before decides alone (`settle`). Otherwise the
candidates of all signals are combined.
-/

namespace CodeChunks

/-- A kind to be classified, with its description if the grammar has one. -/
structure Subject where
  kind : String
  language : Language
  described : Option Kind

namespace Signal

/-- The class of the kinds in a category. -/
def categoryClass? : String → Option CoreClass
  | "expression" => some .operationOperator
  | "primary_expression" => some .operationOperator
  | "statement" => some .flowBranching
  | "compound_statement" => some .flowBranching
  | "pattern" => some .flowBranching
  | "type" => some .definitionType
  | "type_specifier" => some .definitionType
  | "simple_type" => some .definitionType
  | "declaration" => some .definitionData
  | "declarator" => some .definitionData
  | "abstract_declarator" => some .definitionData
  | "field_declarator" => some .definitionData
  | "type_declarator" => some .definitionData
  | "parameter" => some .definitionData
  | "literal" => some .syntaxLiteral
  | "simple_statement" => some .flowControl
  | "argument" => some .syntaxMarker
  | "identifier" => some .syntaxIdentifier
  | _ => none

/-- Kinds whose class is fixed whatever the grammar says. -/
def exceptionClass? : String → Language → Option CoreClass
  | "line_continuation", .python => some .syntaxPunctuation
  | "text_interpolation", .php => some .syntaxIdentifier
  | "decorator", .python => some .syntaxMarker
  | "attribute_item", .rust => some .syntaxMarker
  | _, _ => none

def certain : EvidenceSet := .ofList [.specificThing, .language, .heuristic]

def exception (s : Subject) : List Verdict :=
  match exceptionClass? s.kind s.language with
  | some c => [⟨.core c, .knownException, certain, 90, []⟩]
  | none => []

def commentClass (kind : String) : CoreClass :=
  if kind == "line_comment" then .syntaxMarker else .documentationStructured

def isFloatingComment (k : Kind) : Bool := k.anywhere && Text.contains "comment" k.name

/-- Comments that may stand anywhere. -/
def floating (s : Subject) : List Verdict :=
  match s.described with
  | some k =>
    if isFloatingComment k then [⟨.core (commentClass k.name), .anywhere, certain, 90, []⟩] else []
  | none => []

def tokenClass (name : String) : Significance → CoreClass
  | .comment => commentClass name
  | .identifier => .syntaxIdentifier
  | .literal => .syntaxLiteral
  | .trivial => .syntaxPunctuation
  | .structural => if Significance.isOperator name then .operationOperator else .syntaxKeyword

def tokenAdjustment : Significance → Int
  | .comment => -110
  | _ => -90

/-- What a token is for. -/
def purpose (s : Subject) : List Verdict :=
  match s.described with
  | some k =>
    match k.shape with
    | .token g =>
      [⟨.core (tokenClass k.name g), .tokenPurpose, .ofList [.purpose, .specificThing],
        tokenAdjustment g, []⟩]
    | .composite _ _ => []
  | none => []

/-- A category without the underscores that hide it. -/
def bareCategory (name : String) : String := String.ofList (name.toList.dropWhile (· == '_'))

/-- The classes of the categories of a kind, one for each category that has a class. -/
def categoryClasses (k : Kind) : List CoreClass :=
  k.categories.filterMap fun name => categoryClass? (bareCategory name)

/-- More than one class lowers the confidence; more categories of one class raise it. -/
def categoryAdjustment (distinct agreeing : Nat) : Int :=
  if 1 < distinct then -10 * ((distinct : Int) - 1) else 5 * ((agreeing : Int) - 1)

/-- The classes that the categories suggest, in the order of the classes. -/
def category (s : Subject) : List Verdict :=
  match s.described with
  | some k =>
    let found := categoryClasses k
    let classes := CoreClass.all.filter found.contains
    classes.map fun c =>
      ⟨.core c, .category, .single .categories,
        categoryAdjustment classes.length (found.filter (· == c)).length, []⟩
  | none => []

def typeRoles : List String := ["superclass", "superclasses", "interfaces", "base"]

def dataRoles : List String := ["declarator", "value", "default"]

/-- The class that the roles of the children suggest. -/
def rolesClass? (roles : Names) : Option CoreClass :=
  let has (role : String) : Bool := roles.contains role
  if has "name" && has "body" then
    some (if typeRoles.any has then .definitionType else .definitionCallable)
  else if has "condition" && (has "consequence" || has "body") then some .flowBranching
  else if has "left" && has "right" && has "operator" then some .operationOperator
  else if has "type" && dataRoles.any has then some .definitionData
  else none

def roles (s : Subject) : List Verdict :=
  match s.described with
  | some k =>
    match k.isComposite, rolesClass? k.roles with
    | true, some c =>
      [⟨.core c, .connectionInference, .ofList [.roles, .connections], -65, []⟩]
    | _, _ => []
  | none => []

/-- Children taken by position: a guess. -/
def position (s : Subject) : List Verdict :=
  match s.described with
  | some k =>
    if k.isComposite && !k.positional.isEmpty then
      if k.direct.isEmpty then
        [⟨.core .syntaxIdentifier, .positional, .single .heuristic, 55, []⟩]
      else [⟨.core .flowBranching, .positional, .single .heuristic, 60, []⟩]
    else []
  | none => []

/-- The candidates of each signal, in the order in which they are asked. -/
def candidates (s : Subject) : List (List Verdict) :=
  [exception s, floating s, purpose s, category s, roles s, position s]

/-- From here on a verdict that stands alone is taken at once. -/
def confident : Int := 85

/-- The verdict of the signals that remain, given what was found before. -/
def settle (t : Taxonomy) (found : List Verdict) : List (List Verdict) → Option Verdict
  | [] => Verdict.aggregate t found
  | produced :: rest =>
    match found, produced with
    | [], [v] => if confident ≤ v.percent then some v else settle t [v] rest
    | _, _ => settle t (found ++ produced) rest

end Signal

/-- The verdict that the grammar alone gives. -/
def Subject.classify? (t : Taxonomy) (s : Subject) : Option Verdict :=
  Signal.settle t [] (Signal.candidates s)

end CodeChunks
