import CodeChunks.Config.Basic

/-!
# Configuration from the environment

A setting is taken from its variable; one that is missing or cannot be read keeps its default.
-/

namespace CodeChunks

/-- The variables that are set, the first entry of a name counting. -/
abbrev Environment := List (String × String)

namespace Environment

def get? (env : Environment) (name : String) : Option String := env.lookup name

/-- A variable that is already set keeps its value. -/
def setIfUnset (env : Environment) (name value : String) : Environment :=
  if (env.get? name).isSome then env else (name, value) :: env

/-- A variable read by `read`, or the default. -/
def readOr {α : Type} (env : Environment) (name : String) (read : String → Option α)
    (default : α) : α :=
  ((env.get? name).bind read).getD default

theorem get?_setIfUnset (env : Environment) (name value other : String) :
    (env.setIfUnset name value).get? other =
      match env.get? other with
      | some v => some v
      | none => if other = name then some value else none := by
  simp only [setIfUnset]
  by_cases h : (env.get? name).isSome
  · rw [if_pos h]
    cases ho : env.get? other with
    | some v => rfl
    | none =>
      by_cases hn : other = name
      · subst hn
        simp [ho] at h
      · simp [hn]
  · rw [if_neg h]
    simp only [get?, List.lookup_cons]
    by_cases hn : other = name
    · subst hn
      simp only [get?, Option.not_isSome_iff_eq_none] at h
      simp [h]
    · simp only [beq_eq_false_iff_ne.2 hn, hn, if_false]
      cases List.lookup other env <;> rfl

end Environment

namespace Config

def ofEnvironment (env : Environment) : Config :=
  let d : Config := {}
  { importanceThreshold :=
      env.readOr "CHUNK_IMPORTANCE_THRESHOLD" Decimal.readFloat? d.importanceThreshold
    maxDepth := env.readOr "CHUNK_MAX_AST_DEPTH" Decimal.readWord? d.maxDepth
    timeoutSeconds := env.readOr "CHUNK_TIMEOUT_SECS" Decimal.readWord? d.timeoutSeconds
    maxChunks := env.readOr "CHUNK_MAX_PER_FILE" Decimal.readWord? d.maxChunks
    dedupCapacity := env.readOr "CHUNK_DEDUP_CAPACITY" Decimal.readWord? d.dedupCapacity
    batchCapacity := env.readOr "CHUNK_BATCH_STORE_CAPACITY" Decimal.readWord? d.batchCapacity
    task := env.readOr "CHUNK_AGENT_TASK" Task.ofName? d.task
    maxConcurrentFiles :=
      env.readOr "CHUNK_MAX_CONCURRENT_FILES" Decimal.readWord? d.maxConcurrentFiles }

end Config

end CodeChunks
