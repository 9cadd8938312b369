import CodeChunks.Json.Basic

/-!
# Records

A `Record` is an object with named fields, or a list of its fields in order. A named field may be
written once; other names are passed over. In a list no field may be left out before another, and
nothing may follow the last one.
-/

namespace CodeChunks.Json

/-- The fields that a document gives to a record. -/
structure Record where
  positional : Bool
  entries : List (String × Json)

namespace Record

def get? (r : Record) (name : String) : Option Json := r.entries.lookup name

/-- A field that must be there. -/
def required {α : Type} (r : Record) (name : String) (read : Json → Option α) : Option α :=
  (r.get? name).bind read

/-- A field that has a value of its own when it is left out. -/
def withDefault {α : Type} (r : Record) (name : String) (fallback : α) (read : Json → Option α) :
    Option α :=
  match r.get? name with
  | none => some fallback
  | some j => read j

/-- A field that may be null, and may be left out of an object but not of a list. -/
def optional {α : Type} (r : Record) (name : String) (read : Json → Option α) :
    Option (Option α) :=
  match r.get? name with
  | none => if r.positional then none else some none
  | some j => asOption? read j

/-- A field that may be null and may be left out. -/
def optionalOrAbsent {α : Type} (r : Record) (name : String) (read : Json → Option α) :
    Option (Option α) :=
  r.withDefault name none (asOption? read)

end Record

/-- The fields of a record with the given names. -/
def asRecord? (names : List String) : Json → Option Record
  | .obj entries =>
    let known := entries.filter fun (k, _) => names.contains k
    if known.map (·.1) |>.Nodup then some ⟨false, known⟩ else none
  | .arr items =>
    if items.length ≤ names.length then some ⟨true, names.zip items⟩ else none
  | _ => none

/-- An object without the entries that are left out. -/
def record (entries : List (Option (String × Json))) : Json := .obj (entries.filterMap id)

/-- An entry that is always written. -/
def field (name : String) (value : Json) : Option (String × Json) := some (name, value)

/-- An entry that is written only if there is a value. -/
def fieldIfSome {α : Type} (name : String) (write : α → Json) (value : Option α) :
    Option (String × Json) :=
  value.map fun a => (name, write a)

def strings (xs : List String) : Json := .arr (xs.map .str)

def nat (n : Nat) : Json := .int n

/-- A number; one that is not finite cannot be written. -/
def ofFloat (x : Float) : Json := if x.isFinite then .float x else .null

theorem asFloat?_ofFloat {x : Float} (h : x.isFinite = true) : asFloat? (ofFloat x) = some x := by
  unfold ofFloat
  rw [if_pos h]
  rfl

end CodeChunks.Json
