import CodeChunks.Json.Record

/-!
# Token budgets

The chunks of a file are meant for a set of embedding models. A chunk should fit the smallest of
their windows, which is `Budget.limit`.
-/

namespace CodeChunks

open Json (field fieldIfSome)

/-- The limits of an embedding model. -/
structure Model where
  name : String
  /-- The most tokens of one request. -/
  window : Nat
  maxBatchTokens : Option Nat := none
  deriving DecidableEq, Repr

namespace Model

def toJson (m : Model) : Json :=
  .record
    [field "name" (.str m.name),
     field "context_window" (.nat m.window),
     fieldIfSome "max_batch_tokens" .nat m.maxBatchTokens]

def ofJson? (j : Json) : Option Model := do
  let r ← j.asRecord? ["name", "context_window", "max_batch_tokens"]
  pure
    { name := ← r.required "name" Json.asString?
      window := ← r.required "context_window" Json.asWord?
      maxBatchTokens := ← r.optionalOrAbsent "max_batch_tokens" Json.asWord? }

end Model

structure Budget where
  models : List Model := []
  deriving DecidableEq, Repr

namespace Budget

/-- The tokens of a chunk where no model is given. -/
def defaultLimit : Nat := 512

def ofLimit (limit : Nat) : Budget := ⟨[⟨"default", limit, none⟩]⟩

/-- The tokens that a chunk may have: the smallest window. -/
def limit (b : Budget) : Nat := (b.models.map (·.window)).min?.getD defaultLimit

/-- The overlap of neighbouring pieces of plain text: a fifth of the limit, within bounds. -/
def overlap (b : Budget) : Nat := min 200 (max 50 (b.limit / 5))

end Budget

end CodeChunks
