import CodeChunks.Chunk.Document
import CodeChunks.Proofs.Document.Slots
import CodeChunks.Proofs.Document.Texts

/-!
# Chunks from their documents

A document leaves out what is not known, and alternates if there are none. A chunk is read back from
its document all the same, whatever is left out. A number that is not finite is written as `null`
and is lost, so a chunk that `Fits` has none.
-/

namespace CodeChunks

open Json (field)
open Json.Record

theorem Json.asStrings?_strings (xs : List String) : Json.asStrings? (.strings xs) = some xs :=
  Json.asList?_map Json.asString?_str xs

theorem Json.asWord?_nat {n : Nat} (h : n ≤ Decimal.maxWord) : Json.asWord? (.nat n) = some n :=
  Json.asNat?_int h

theorem Uuid.ofJson?_toJson (u : Uuid) : ofJson? u.toJson = some u := by
  rw [ofJson?, toJson, Json.asString?_str, Option.bind_some, ofText?_text]

theorem Timestamp.ofJson?_toJson {t : Timestamp} (h : t.isValid = true) :
    ofJson? t.toJson = some t := by
  rw [ofJson?, toJson, Json.asString?_str, Option.bind_some, ofText?_text h]

theorem Origin.ofJson?_toJson (o : Origin) : ofJson? o.toJson = some o := by cases o <;> rfl

/-! ## Lines -/

namespace LineRange

def Fits (r : LineRange) : Prop := r.first ≤ Decimal.maxWord ∧ r.last ≤ Decimal.maxWord

theorem ofJson?_toJson {r : LineRange} (h : r.Fits) : ofJson? r.toJson = some r := by
  have hrecord : r.toJson = .record [field "start" (.nat r.first), field "end" (.nat r.last)] := rfl
  unfold ofJson?
  rw [hrecord]
  refine asRecord?_record_bind (by decide) (by simp) fun record _ hget => ?_
  simp only [List.zip_cons_cons, List.zip_nil_right, List.forall_mem_cons] at hget
  obtain ⟨hfirst, hlast, -⟩ := hget
  rw [required_of_get? hfirst, Json.asWord?_nat h.1, required_of_get? hlast, Json.asWord?_nat h.2]
  rfl

end LineRange

/-! ## Classifications -/

namespace Classification

/-- The tier is an 8-bit number, and the confidence is finite. -/
def Fits (c : Classification) : Prop := c.tier ≤ 255 ∧ c.confidence.isFinite = true

theorem ofJson?_toJson {c : Classification} (h : c.Fits) : ofJson? c.toJson = some c := by
  have htier : Json.asNat? 255 (.nat c.tier) = some c.tier := Json.asNat?_int h.1
  have hnone : (if c.alternates.isEmpty then some [] else some c.alternates) =
      some c.alternates := by
    cases c.alternates <;> rfl
  refine asRecord?_record_bind (by decide) (by simp) fun r _ hget => ?_
  simp only [List.zip_cons_cons, List.zip_nil_right, List.forall_mem_cons] at hget
  obtain ⟨hkind, hclass, hrank, hconfidence, hmethod, hevidence, halternates, -⟩ := hget
  rw [required_of_get? hkind, required_of_get? hclass, required_of_get? hrank, htier,
    required_of_get? hconfidence, Json.asFloat?_ofFloat h.2, required_of_get? hmethod,
    required_of_get? hevidence, Json.asStrings?_strings, withDefault_unless_of_get? halternates,
    Json.asStrings?_strings, hnone]
  rfl

theorem isSome_alternates_toJson (c : Classification) :
    (c.toJson.get? "alternates").isSome = !c.alternates.isEmpty := by
  cases h : c.alternates <;> simp [toJson, h]

end Classification

/-! ## Contexts -/

namespace ChunkContext

/-- The counts are 64-bit numbers, and the scores are finite. -/
def Fits (c : ChunkContext) : Prop :=
  (∀ n ∈ c.nesting, n ≤ Decimal.maxWord) ∧ (∀ n ∈ c.tokenCount, n ≤ Decimal.maxWord) ∧
    (∀ i ∈ c.importance, i.IsFinite) ∧ ∀ x ∈ c.taskScore, x.isFinite = true

theorem ofJson?_toJson {c : ChunkContext} (h : c.Fits) : ofJson? c.toJson = some c := by
  have htext : ∀ s, Json.asOption? Json.asString? (.str s) = some (some s) := fun s => rfl
  have hcount : ∀ n ≤ Decimal.maxWord, Json.asOption? Json.asWord? (.nat n) = some (some n) :=
    fun n hn => congrArg (Option.map some) (Json.asWord?_nat hn)
  have hscores : ∀ i : Importance, i.IsFinite →
      Json.asOption? Importance.ofJson? (Importance.toJson i) = some (some i) :=
    fun i hi => congrArg (Option.map some) (Importance.ofJson?_toJson hi)
  have hscore : ∀ x : Float, x.isFinite = true →
      Json.asOption? Json.asFloat? (.ofFloat x) = some (some x) := by
    intro x hx
    unfold Json.ofFloat
    rw [if_pos hx]
    rfl
  obtain ⟨hdeep, hlong, hfinite, hweighed⟩ := h
  refine asRecord?_record_bind (by decide) (by simp) fun r hr hget => ?_
  simp only [List.zip_cons_cons, List.zip_nil_right, List.forall_mem_cons] at hget
  obtain ⟨hchunker, hhash, hclass, hkind, hrank, himportance, htask, hcomposite, hnesting, hpartial,
    hoversized, hedge, htokens, htokenizer, -⟩ := hget
  rw [required_of_get? hchunker, optional_of_get? hr hhash fun s _ => htext s,
    optional_of_get? hr hclass fun s _ => htext s, optional_of_get? hr hkind fun s _ => htext s,
    optional_of_get? hr hrank fun s _ => htext s,
    optional_of_get? hr himportance fun i hi => hscores i (hfinite i hi),
    optional_of_get? hr htask fun x hx => hscore x (hweighed x hx),
    optional_of_get? hr hcomposite fun b _ => rfl,
    optional_of_get? hr hnesting fun n hn => hcount n (hdeep n hn),
    withDefault_of_get? hpartial, withDefault_of_get? hoversized,
    optional_of_get? hr hedge fun s _ => htext s,
    optional_of_get? hr htokens fun n hn => hcount n (hlong n hn),
    optional_of_get? hr htokenizer fun s _ => htext s]
  rfl

end ChunkContext

/-! ## Metadata -/

namespace ChunkMetadata

/-- The numbers have the size that they are kept in or are finite, and the time exists. -/
def Fits (m : ChunkMetadata) : Prop :=
  m.createdAt.isValid = true ∧ (∀ c ∈ m.classification, c.Fits) ∧ m.context.Fits

theorem ofJson?_toJson {m : ChunkMetadata} (h : m.Fits) : ofJson? m.toJson = some m := by
  obtain ⟨htime, hclassification, hcontext⟩ := h
  refine asRecord?_record_bind (by decide) (by simp) fun r hr hget => ?_
  simp only [List.zip_cons_cons, List.zip_nil_right, List.forall_mem_cons] at hget
  obtain ⟨hid, hcreated, hname, hmeta, hflat, hbatch, -⟩ := hget
  rw [required_of_get? hid, Uuid.ofJson?_toJson, required_of_get? hcreated,
    Timestamp.ofJson?_toJson htime, required_of_get? hname,
    optional_of_get? hr hmeta fun c hc =>
      congrArg (Option.map some) (Classification.ofJson?_toJson (hclassification c hc)),
    required_of_get? hflat, ChunkContext.ofJson?_toJson hcontext,
    optional_of_get? hr hbatch fun u _ => congrArg (Option.map some) u.ofJson?_toJson]
  rfl

end ChunkMetadata

/-! ## Chunks -/

namespace Chunk

def Fits (c : Chunk) : Prop :=
  c.lines.Fits ∧ c.tokenEstimate ≤ Decimal.maxWord ∧ c.metadata.Fits

theorem ofJson?_toJson {c : Chunk} (h : c.Fits) : ofJson? c.toJson = some c := by
  obtain ⟨hlines, hestimate, hmetadata⟩ := h
  refine asRecord?_record_bind (by decide) (by simp) fun r hr hget => ?_
  simp only [List.zip_cons_cons, List.zip_nil_right, List.forall_mem_cons] at hget
  obtain ⟨hcontent, hrange, hpath, hlanguage, horigin, htokens, hmeta, -⟩ := hget
  rw [required_of_get? hcontent, required_of_get? hrange, LineRange.ofJson?_toJson hlines,
    optional_of_get? hr hpath fun s _ => rfl, required_of_get? hlanguage,
    Language.ofJson?_toJson, required_of_get? horigin, Origin.ofJson?_toJson,
    required_of_get? htokens, Json.asWord?_nat hestimate, required_of_get? hmeta,
    ChunkMetadata.ofJson?_toJson hmetadata]
  rfl

/-- The fields that a document may leave out, each with whether it is written. -/
def optionalFields (c : Chunk) : List (List String × Bool) :=
  let m := c.metadata
  [(["file_path"], c.path.isSome),
   (["metadata", "semantic_meta"], m.classification.isSome),
   (["metadata", "semantic_meta", "alternates"], m.classification.any (!·.alternates.isEmpty)),
   (["metadata", "batch_id"], m.batch.isSome),
   (["metadata", "context", "content_hash"], m.context.contentHash.isSome),
   (["metadata", "context", "classification"], m.context.className.isSome),
   (["metadata", "context", "kind"], m.context.kind.isSome),
   (["metadata", "context", "category"], m.context.rank.isSome),
   (["metadata", "context", "importance_scores"], m.context.importance.isSome),
   (["metadata", "context", "task_score"], m.context.taskScore.isSome),
   (["metadata", "context", "is_composite"], m.context.isComposite.isSome),
   (["metadata", "context", "nesting_level"], m.context.nesting.isSome),
   (["metadata", "context", "edge_case"], m.context.edgeCase.isSome),
   (["metadata", "context", "token_count"], m.context.tokenCount.isSome),
   (["metadata", "context", "tokenizer"], m.context.tokenizer.isSome)]

theorem isSome_at?_toJson (c : Chunk) :
    ∀ x ∈ c.optionalFields, (c.toJson.at? x.1).isSome = x.2 := by
  have hmetadata : c.toJson.get? "metadata" = some c.metadata.toJson := by simp [toJson]
  have hcontext : c.metadata.toJson.get? "context" = some c.metadata.context.toJson := by
    simp [ChunkMetadata.toJson]
  have halternates : (c.metadata.toJson.at? ["semantic_meta", "alternates"]).isSome =
      c.metadata.classification.any (!·.alternates.isEmpty) := by
    cases h : c.metadata.classification with
    | none => simp [Json.at?, ChunkMetadata.toJson, h]
    | some k => simp [Json.at?, ChunkMetadata.toJson, h, k.isSome_alternates_toJson]
  simp only [Json.at?] at halternates
  simp only [optionalFields, List.forall_mem_cons, Json.at?, hmetadata, hcontext, Option.bind_some,
    halternates]
  simp [toJson, ChunkMetadata.toJson, ChunkContext.toJson]

/-- Whatever a document leaves out, the chunk is read back from it and written as it was. A field
is left out exactly if it is not known, and alternates also if there are none. -/
theorem read_back_from_document {c : Chunk} (h : c.Fits) :
    ofJson? c.toJson = some c ∧ (ofJson? c.toJson).map toJson = some c.toJson ∧
      ∀ x ∈ c.optionalFields, (c.toJson.at? x.1).isSome = x.2 := by
  rw [ofJson?_toJson h]
  exact ⟨rfl, rfl, c.isSome_at?_toJson⟩

end Chunk

namespace Sample

/-- A chunk without a path, from a node that is classified without alternates, at the end of the
largest file. -/
def lastLine : Chunk where
  content := "fn main() \x7b\x7d"
  lines := ⟨Decimal.maxWord, Decimal.maxWord⟩
  path := none
  language := .rust
  origin := .node
  tokenEstimate := 3
  metadata :=
    { id := .ofNat 255
      createdAt := ⟨⟨2024, 2, 29⟩, 23, 59, 60, 500⟩
      name := "main"
      classification := some ⟨"function_item", "definition_callable", 2, 0.5, "rule", [], []⟩
      context :=
        { chunker := "semantic", nesting := some 1, edgeCase := some "single_line"
          importance := some .zero, taskScore := some 0.25 } }

end Sample

theorem Chunk.last_line_read_back :
    Sample.lastLine.Fits ∧ ofJson? Sample.lastLine.toJson = some Sample.lastLine ∧
      (Sample.lastLine.toJson.at? ["metadata", "semantic_meta", "alternates"]).isSome = false ∧
      (Sample.lastLine.toJson.at? ["metadata", "context", "edge_case"]).isSome = true := by
  have hfits : Sample.lastLine.Fits := by
    refine ⟨⟨le_rfl, le_rfl⟩, by decide, by decide, ?_, ?_, ?_, ?_, ?_⟩
    · rintro k ⟨⟩
      exact ⟨by decide, by decide⟩
    · rintro n ⟨⟩
      decide
    · rintro n ⟨⟩
    · rintro i ⟨⟩
      decide
    · rintro x ⟨⟩
      decide
  obtain ⟨hread, -, hwritten⟩ := read_back_from_document hfits
  refine ⟨hfits, hread, hwritten (_, false) ?_, hwritten (_, true) ?_⟩ <;>
    simp [optionalFields, Sample.lastLine]

end CodeChunks
