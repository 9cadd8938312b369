import CodeChunks.Text.Slice

/-!
# Counting tokens

Budgets are compared with an estimate (`estimateTokens`). What a chunk reports of itself comes from
a `TokenCounter`, which may be exact.
-/

namespace CodeChunks

/-- An estimate of the number of tokens of a text of a number of bytes. -/
def estimateTokens (bytes : Nat) : Nat := bytes / 4

/-- The name of the counter that reports the estimate. -/
def tokenizerName : String := "estimate"

/-- A way in which the tokens of a text are counted. -/
structure TokenCounter where
  name : String
  count : List Char → Nat

/-- The counter that reports the estimate. -/
def TokenCounter.estimating : TokenCounter :=
  { name := tokenizerName, count := fun cs => estimateTokens (Text.byteLength cs) }

end CodeChunks
