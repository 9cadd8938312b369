import CodeChunks.Chunk.Basic
import CodeChunks.Json.Record

/-!
# Chunks as documents

What is not known is left out of a document, and so are alternates if there are none. `Chunk.toJson`
writes a document and `Chunk.ofJson?` reads one.
-/

namespace CodeChunks

open Json (field fieldIfSome)

namespace LineRange

def toJson (r : LineRange) : Json := .obj [("start", .nat r.first), ("end", .nat r.last)]

/-- A range as it stands, whether empty or not. -/
def ofJson? (j : Json) : Option LineRange := do
  let r ← j.asRecord? ["start", "end"]
  pure ⟨← r.required "start" Json.asWord?, ← r.required "end" Json.asWord?⟩

end LineRange

namespace Origin

def toJson (o : Origin) : Json := .str o.name

def ofJson? (j : Json) : Option Origin := j.asName?.bind ofName?

end Origin

namespace Classification

def toJson (c : Classification) : Json :=
  .record
    [field "kind_name" (.str c.kind),
     field "classification" (.str c.className),
     field "rank" (.nat c.tier),
     field "confidence" (.ofFloat c.confidence),
     field "method" (.str c.method),
     field "evidence" (.strings c.evidence),
     if c.alternates.isEmpty then none else field "alternates" (.strings c.alternates)]

def ofJson? (j : Json) : Option Classification := do
  let r ← j.asRecord?
    ["kind_name", "classification", "rank", "confidence", "method", "evidence", "alternates"]
  pure
    { kind := ← r.required "kind_name" Json.asString?
      className := ← r.required "classification" Json.asString?
      tier := ← r.required "rank" (Json.asNat? 255)
      confidence := ← r.required "confidence" Json.asFloat?
      method := ← r.required "method" Json.asString?
      evidence := ← r.required "evidence" Json.asStrings?
      alternates := ← r.withDefault "alternates" [] Json.asStrings? }

end Classification

namespace ChunkContext

def toJson (c : ChunkContext) : Json :=
  .record
    [field "chunker_type" (.str c.chunker),
     fieldIfSome "content_hash" .str c.contentHash,
     fieldIfSome "classification" .str c.className,
     fieldIfSome "kind" .str c.kind,
     fieldIfSome "category" .str c.rank,
     fieldIfSome "importance_scores" Importance.toJson c.importance,
     fieldIfSome "task_score" .ofFloat c.taskScore,
     fieldIfSome "is_composite" .bool c.isComposite,
     fieldIfSome "nesting_level" .nat c.nesting,
     field "is_partial_node" (.bool c.isPartial),
     field "oversized_fallback" (.bool c.isOversized),
     fieldIfSome "edge_case" .str c.edgeCase,
     fieldIfSome "token_count" .nat c.tokenCount,
     fieldIfSome "tokenizer" .str c.tokenizer]

def ofJson? (j : Json) : Option ChunkContext := do
  let r ← j.asRecord?
    ["chunker_type", "content_hash", "classification", "kind", "category", "importance_scores",
     "task_score", "is_composite", "nesting_level", "is_partial_node", "oversized_fallback",
     "edge_case", "token_count", "tokenizer"]
  pure
    { chunker := ← r.required "chunker_type" Json.asString?
      contentHash := ← r.optional "content_hash" Json.asString?
      className := ← r.optional "classification" Json.asString?
      kind := ← r.optional "kind" Json.asString?
      rank := ← r.optional "category" Json.asString?
      importance := ← r.optional "importance_scores" Importance.ofJson?
      taskScore := ← r.optional "task_score" Json.asFloat?
      isComposite := ← r.optional "is_composite" Json.asBool?
      nesting := ← r.optional "nesting_level" Json.asWord?
      isPartial := ← r.withDefault "is_partial_node" false Json.asBool?
      isOversized := ← r.withDefault "oversized_fallback" false Json.asBool?
      edgeCase := ← r.optional "edge_case" Json.asString?
      tokenCount := ← r.optional "token_count" Json.asWord?
      tokenizer := ← r.optional "tokenizer" Json.asString? }

end ChunkContext

namespace ChunkMetadata

def toJson (m : ChunkMetadata) : Json :=
  .record
    [field "chunk_id" m.id.toJson,
     field "created_at" m.createdAt.toJson,
     field "name" (.str m.name),
     fieldIfSome "semantic_meta" Classification.toJson m.classification,
     field "context" m.context.toJson,
     fieldIfSome "batch_id" Uuid.toJson m.batch]

def ofJson? (j : Json) : Option ChunkMetadata := do
  let r ← j.asRecord?
    ["chunk_id", "created_at", "name", "semantic_meta", "context", "batch_id"]
  pure
    { id := ← r.required "chunk_id" Uuid.ofJson?
      createdAt := ← r.required "created_at" Timestamp.ofJson?
      name := ← r.required "name" Json.asString?
      classification := ← r.optional "semantic_meta" Classification.ofJson?
      context := ← r.required "context" ChunkContext.ofJson?
      batch := ← r.optional "batch_id" Uuid.ofJson? }

end ChunkMetadata

namespace Chunk

def toJson (c : Chunk) : Json :=
  .record
    [field "content" (.str c.content),
     field "line_range" c.lines.toJson,
     fieldIfSome "file_path" .str c.path,
     field "language" c.language.toJson,
     field "source" c.origin.toJson,
     field "token_estimate" (.nat c.tokenEstimate),
     field "metadata" c.metadata.toJson]

def ofJson? (j : Json) : Option Chunk := do
  let r ← j.asRecord?
    ["content", "line_range", "file_path", "language", "source", "token_estimate", "metadata"]
  pure
    { content := ← r.required "content" Json.asString?
      lines := ← r.required "line_range" LineRange.ofJson?
      path := ← r.optional "file_path" Json.asString?
      language := ← r.required "language" Language.ofJson?
      origin := ← r.required "source" Origin.ofJson?
      tokenEstimate := ← r.required "token_estimate" Json.asWord?
      metadata := ← r.required "metadata" ChunkMetadata.ofJson? }

end Chunk

end CodeChunks
