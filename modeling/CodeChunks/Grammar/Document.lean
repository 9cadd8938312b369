import CodeChunks.Grammar.Basic
import CodeChunks.Json.Reader

/-!
# Grammar documents

A grammar document is a list of entries, one `Entry` for each kind or category. An entry with
subtypes is a category. The fields of a kind are its roles, of which a repeated one keeps its last
description.
-/

namespace CodeChunks.Grammar

/-- The children that one role, or the positions together, may hold. -/
structure ChildSpec where
  multiple : Bool
  required : Bool
  targets : List String
  deriving DecidableEq, Repr

/-- One entry of a document. -/
structure Entry where
  name : String
  named : Bool
  subtypes : Option (List String)
  /-- The roles in order of their names. -/
  fields : List (String × ChildSpec)
  children : Option ChildSpec
  extra : Bool
  deriving DecidableEq, Repr

namespace ChildSpec

def cardinality (s : ChildSpec) : Cardinality := .ofFlags s.multiple s.required

/-- The connection that the children make. -/
def connection (s : ChildSpec) (role : Option String) : Connection :=
  ⟨role, .ofList s.targets, s.cardinality⟩

end ChildSpec

/-- A reference to a kind by its name. -/
def referenceOfJson? (j : Json) : Option String := do
  let r ← j.asRecord? ["type"]
  r.required "type" Json.asString?

def ChildSpec.ofJson? (j : Json) : Option ChildSpec := do
  let r ← j.asRecord? ["multiple", "required", "types"]
  pure
    { multiple := ← r.withDefault "multiple" false Json.asBool?
      required := ← r.withDefault "required" false Json.asBool?
      targets := ← r.withDefault "types" [] (Json.asList? referenceOfJson?) }

/-- Sets the description of a role, keeping the roles in order. -/
def setField (role : String) (spec : ChildSpec) :
    List (String × ChildSpec) → List (String × ChildSpec)
  | [] => [(role, spec)]
  | (r, s) :: rest =>
    if role < r then (role, spec) :: (r, s) :: rest
    else if role = r then (role, spec) :: rest
    else (r, s) :: setField role spec rest

/-- The roles of an object, a repeated one keeping its last description. -/
def fieldsOfJson? : Json → Option (List (String × ChildSpec))
  | .obj entries => do
    let specs ← entries.mapM fun (role, j) => (role, ·) <$> ChildSpec.ofJson? j
    pure (specs.foldl (fun fields (role, spec) => setField role spec fields) [])
  | _ => none

def Entry.ofJson? (j : Json) : Option Entry := do
  let r ← j.asRecord? ["type", "named", "subtypes", "fields", "children", "extra"]
  pure
    { name := ← r.required "type" Json.asString?
      named := ← r.required "named" Json.asBool?
      subtypes := ← r.optionalOrAbsent "subtypes" (Json.asList? referenceOfJson?)
      fields := (← r.optionalOrAbsent "fields" fieldsOfJson?).getD []
      children := ← r.optionalOrAbsent "children" ChildSpec.ofJson?
      extra := ← r.withDefault "extra" false Json.asBool? }

def entriesOfJson? (j : Json) : Option (List Entry) := j.asList? Entry.ofJson?

def entriesOfText? (text : String) : Option (List Entry) := (Json.parse? text).bind entriesOfJson?

end CodeChunks.Grammar
