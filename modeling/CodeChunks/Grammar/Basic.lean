import CodeChunks.Json.Record
import CodeChunks.Language.Basic
import CodeChunks.Names
import CodeChunks.Table
import CodeChunks.Text.Property
import CodeChunks.Text.Search

/-!
# Grammars

A `Grammar` describes every kind of node that the trees of a language can hold. Kinds without
structure are tokens; a composite kind is connected to the kinds of its children, directly by a role
or by position (`Connection`). Categories group kinds and never stand in a tree themselves.
-/

namespace CodeChunks

/-- How many children a connection takes. -/
inductive Cardinality where
  | optionalSingle
  | optionalMultiple
  | requiredSingle
  | requiredMultiple
  deriving DecidableEq, Repr

namespace Cardinality

def ofFlags : (multiple required : Bool) → Cardinality
  | false, false => .optionalSingle
  | true, false => .optionalMultiple
  | false, true => .requiredSingle
  | true, true => .requiredMultiple

def allowsMultiple : Cardinality → Bool
  | .optionalMultiple | .requiredMultiple => true
  | _ => false

def requiresPresence : Cardinality → Bool
  | .requiredSingle | .requiredMultiple => true
  | _ => false

def all : List Cardinality :=
  [.optionalSingle, .optionalMultiple, .requiredSingle, .requiredMultiple]

def name : Cardinality → String
  | .optionalSingle => "optional_single"
  | .optionalMultiple => "optional_multiple"
  | .requiredSingle => "required_single"
  | .requiredMultiple => "required_multiple"

def toJson (c : Cardinality) : Json := .str c.name

def ofJson? (j : Json) : Option Cardinality := j.asName?.bind fun n => all.find? (·.name == n)

@[simp] theorem allowsMultiple_ofFlags (m r : Bool) : (ofFlags m r).allowsMultiple = m := by
  cases m <;> cases r <;> rfl

@[simp] theorem requiresPresence_ofFlags (m r : Bool) : (ofFlags m r).requiresPresence = r := by
  cases m <;> cases r <;> rfl

@[simp] theorem ofJson?_toJson (c : Cardinality) : ofJson? c.toJson = some c := by cases c <;> rfl

end Cardinality

/-- An edge from a composite kind to the kinds or categories of its children. -/
structure Connection where
  /-- The role of the children; children taken by position have none. -/
  role : Option String
  targets : Names
  cardinality : Cardinality
  deriving DecidableEq, Repr

namespace Connection

def isDirect (c : Connection) : Bool := c.role.isSome

def toJson (c : Connection) : Json :=
  .obj [("class", match c.role with
      | some role => .obj [("direct", .obj [("role", .str role)])]
      | none => .str "positional"),
    ("targets", .strings c.targets),
    ("cardinality", c.cardinality.toJson)]

/-- The role that a document gives to a connection. -/
def roleOfJson? (j : Json) : Option (Option String) :=
  match j.asChoice? with
  | some ("direct", some payload) => do
    let r ← payload.asRecord? ["role"]
    some <$> r.required "role" Json.asString?
  | some ("positional", none) => some none
  | some ("positional", some .null) => some none
  | _ => none

def ofJson? (j : Json) : Option Connection := do
  let r ← j.asRecord? ["class", "targets", "cardinality"]
  pure
    { role := ← r.required "class" roleOfJson?
      targets := .ofList (← r.required "targets" Json.asStrings?)
      cardinality := ← r.required "cardinality" Cardinality.ofJson? }

end Connection

/-- What a token contributes to the code it stands in. -/
inductive Significance where
  /-- Keywords and operators. -/
  | structural
  | identifier
  | literal
  /-- Brackets and separators. -/
  | trivial
  | comment
  deriving DecidableEq, Repr

namespace Significance

def all : List Significance := [.structural, .identifier, .literal, .trivial, .comment]

def name : Significance → String
  | .structural => "structural"
  | .identifier => "identifier"
  | .literal => "literal"
  | .trivial => "trivial"
  | .comment => "comment"

/-- Parts of names that stand for literals. -/
def literalHints : List String :=
  ["string", "number", "integer", "float", "char", "true", "false", "null", "nil", "none",
   "boolean", "escape_sequence", "literal"]

def isPunctuation (c : Char) : Bool := "()[]\x7b\x7d,;:.\"'`".toList.contains c

/-- The significance that the name of a token suggests. -/
def infer (name : String) (named : Bool) : Significance :=
  let lower := Text.toLower name
  if Text.contains "comment" lower then .comment
  else if named then
    if Text.contains "identifier" lower || lower == "name" || Text.endsWith "_name" lower then
      .identifier
    else if literalHints.any fun hint => Text.contains hint lower then .literal
    else .structural
  else if name.toList.all isPunctuation then .trivial
  else .structural

/-- A token made of symbols only. -/
def isOperator (name : String) : Bool :=
  name != "" && !(name.toList.any fun c => Text.isAlphanumeric c || c == '_')

def toJson (s : Significance) : Json := .str s.name

def ofJson? (j : Json) : Option Significance := j.asName?.bind fun n => all.find? (·.name == n)

@[simp] theorem ofJson?_toJson (s : Significance) : ofJson? s.toJson = some s := by
  cases s <;> rfl

end Significance

/-- Tokens and composites. -/
inductive Shape where
  | token (significance : Significance)
  | composite (direct positional : List Connection)
  deriving DecidableEq, Repr

/-- One kind of node of one language. -/
structure Kind where
  name : String
  language : Language
  categories : Names
  shape : Shape
  /-- May stand between any two tokens; nearly always a comment. -/
  anywhere : Bool
  /-- A named rule rather than a literal token. -/
  explicit : Bool
  deriving DecidableEq, Repr

namespace Kind

def isToken (k : Kind) : Bool :=
  match k.shape with
  | .token _ => true
  | .composite _ _ => false

def isComposite (k : Kind) : Bool := !k.isToken

def significance? (k : Kind) : Option Significance :=
  match k.shape with
  | .token s => some s
  | .composite _ _ => none

def direct (k : Kind) : List Connection :=
  match k.shape with
  | .token _ => []
  | .composite direct _ => direct

def positional (k : Kind) : List Connection :=
  match k.shape with
  | .token _ => []
  | .composite _ positional => positional

/-- The roles of the children. -/
def roles (k : Kind) : Names := .ofList (k.direct.filterMap (·.role))

def toJson (k : Kind) : Json :=
  .obj [("name", .str k.name), ("language", k.language.toJson),
    ("categories", .strings k.categories),
    ("kind", match k.shape with
      | .token s => .obj [("Token", .obj [("significance", s.toJson)])]
      | .composite direct positional =>
        .obj [("Composite",
          .obj [("direct_connections", .arr (direct.map Connection.toJson)),
            ("positional_connections", .arr (positional.map Connection.toJson))])]),
    ("can_appear_anywhere", .bool k.anywhere),
    ("is_explicit_rule", .bool k.explicit)]

def shapeOfJson? (j : Json) : Option Shape :=
  match j.asChoice? with
  | some ("Token", some payload) => do
    let r ← payload.asRecord? ["significance"]
    .token <$> r.required "significance" Significance.ofJson?
  | some ("Composite", some payload) => do
    let r ← payload.asRecord? ["direct_connections", "positional_connections"]
    pure (.composite
      (← r.required "direct_connections" (Json.asList? Connection.ofJson?))
      (← r.required "positional_connections" (Json.asList? Connection.ofJson?)))
  | _ => none

def ofJson? (j : Json) : Option Kind := do
  let r ← j.asRecord?
    ["name", "language", "categories", "kind", "can_appear_anywhere", "is_explicit_rule"]
  pure
    { name := ← r.required "name" Json.asString?
      language := ← r.required "language" Language.ofJson?
      categories := .ofList (← r.required "categories" Json.asStrings?)
      shape := ← r.required "kind" shapeOfJson?
      anywhere := ← r.required "can_appear_anywhere" Json.asBool?
      explicit := ← r.required "is_explicit_rule" Json.asBool? }

end Kind

/-- A group of kinds. -/
structure Category where
  name : String
  language : Language
  members : Names
  deriving DecidableEq, Repr

namespace Category

def holds (c : Category) (kind : String) : Bool := c.members.contains kind

def toJson (c : Category) : Json :=
  .obj [("name", .str c.name), ("language", c.language.toJson), ("members", .strings c.members)]

def ofJson? (j : Json) : Option Category := do
  let r ← j.asRecord? ["name", "language", "members"]
  pure
    { name := ← r.required "name" Json.asString?
      language := ← r.required "language" Language.ofJson?
      members := .ofList (← r.required "members" Json.asStrings?) }

end Category

/-- The kinds and categories of one language. -/
structure Grammar where
  language : Language
  kinds : Table String Kind := []
  categories : Table String Category := []
  deriving DecidableEq, Repr

namespace Grammar

def kind? (g : Grammar) (name : String) : Option Kind := g.kinds.get? name

def category? (g : Grammar) (name : String) : Option Category := g.categories.get? name

def size (g : Grammar) : Nat := g.kinds.length

def byName {α : Type} (name : α → String) (xs : List α) : List α :=
  xs.mergeSort fun a b => !(name b < name a)

/-- The kinds in the order of their names. -/
def sortedKinds (g : Grammar) : List Kind := byName Kind.name g.kinds.values

def sortedCategories (g : Grammar) : List Category := byName Category.name g.categories.values

end Grammar

end CodeChunks
