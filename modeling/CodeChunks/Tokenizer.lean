import CodeChunks.Error

/-!
# Encodings of tokenizers
-/

namespace CodeChunks

/-- The encodings that tokens can be counted by. -/
inductive Encoding where
  | cl100k
  | p50k
  | p50kEdit
  | r50k
  deriving DecidableEq, Repr

namespace Encoding

def all : List Encoding := [.cl100k, .p50k, .p50kEdit, .r50k]

def name : Encoding → String
  | .cl100k => "cl100k_base"
  | .p50k => "p50k_base"
  | .p50kEdit => "p50k_edit"
  | .r50k => "r50k_base"

def ofName (n : String) : Except Error Encoding :=
  match all.find? (·.name == n) with
  | some e => .ok e
  | none => .error (.invalidConfig (.unknownEncoding n))

end Encoding

end CodeChunks
