import CodeChunks.Error
import CodeChunks.Taxonomy.Importance

/-!
# Configuration

The settings of a chunker. A configuration is accepted when the threshold is a score and no setting
that counts something is zero; the first setting at fault is reported (`fault?`).
-/

namespace CodeChunks

structure Config where
  /-- The score that makes a node worth a chunk. -/
  importanceThreshold : Float := 0.3
  /-- The greatest number of ancestors of a node that is looked at. -/
  maxDepth : Nat := 200
  timeoutSeconds : Nat := 30
  maxChunks : Nat := 5000
  dedupCapacity : Nat := 100000
  batchCapacity : Nat := 512
  task : Task := .default
  maxConcurrentFiles : Nat := 4
  deriving Repr, Inhabited

namespace Config

def timeout (c : Config) : Duration := .ofSeconds c.timeoutSeconds

/-- The first fault of a configuration. -/
def fault? (c : Config) : Option ConfigFault :=
  if !(0.0 ≤ c.importanceThreshold && c.importanceThreshold ≤ 1.0) then
    some (.thresholdOutOfRange c.importanceThreshold)
  else if c.maxDepth = 0 then some (.zeroSetting "max_ast_depth")
  else if c.timeoutSeconds = 0 then some (.zeroSetting "chunk_timeout_secs")
  else if c.maxChunks = 0 then some (.zeroSetting "max_chunks_per_file")
  else if c.dedupCapacity = 0 ∨ c.batchCapacity = 0 then some .zeroCapacity
  else if c.maxConcurrentFiles = 0 then some (.zeroSetting "max_concurrent_files")
  else none

def validate (c : Config) : Except Error Unit :=
  match c.fault? with
  | some fault => .error (.invalidConfig fault)
  | none => .ok ()

def toJson (c : Config) : Json :=
  .obj [("importance_threshold", .float c.importanceThreshold),
    ("max_ast_depth", .nat c.maxDepth),
    ("chunk_timeout_secs", .nat c.timeoutSeconds),
    ("max_chunks_per_file", .nat c.maxChunks),
    ("dedup_capacity", .nat c.dedupCapacity),
    ("batch_store_capacity", .nat c.batchCapacity),
    ("agent_task", c.task.toJson),
    ("max_concurrent_files", .nat c.maxConcurrentFiles)]

def ofJson? (j : Json) : Option Config := do
  let r ← j.asRecord?
    ["importance_threshold", "max_ast_depth", "chunk_timeout_secs", "max_chunks_per_file",
     "dedup_capacity", "batch_store_capacity", "agent_task", "max_concurrent_files"]
  pure
    { importanceThreshold := ← r.required "importance_threshold" Json.asFloat?
      maxDepth := ← r.required "max_ast_depth" Json.asWord?
      timeoutSeconds := ← r.required "chunk_timeout_secs" Json.asWord?
      maxChunks := ← r.required "max_chunks_per_file" Json.asWord?
      dedupCapacity := ← r.required "dedup_capacity" Json.asWord?
      batchCapacity := ← r.required "batch_store_capacity" Json.asWord?
      task := ← r.required "agent_task" Task.ofJson?
      maxConcurrentFiles := ← r.required "max_concurrent_files" Json.asWord? }

end Config

end CodeChunks
