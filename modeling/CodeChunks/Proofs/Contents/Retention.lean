import CodeChunks.Proofs.Contents.Counts
import CodeChunks.Proofs.Store.Recency

/-!
# Batches that are retained

A chunker keeps the chunks of recent calls by their batch. A `Visit` that returns chunks puts them
under its batch, and one that returns none puts nothing; asking for a batch uses it if it is found.
This is its `retention`. So a batch can be had as long as fewer others were used since its own last
use than the chunker retains, and it is what the call returned, every chunk of it marked with the
batch.
-/

namespace CodeChunks.Chunker

/-- A call of a chunker. What was seen before is given with it, since other chunkers may have seen
more. -/
inductive Visit where
  | chunk (seen : SeenContents) (parser : Parser) (budget : Budget) (f : SourceFile)
      (stamp : Stamp) (clock : Clock)
  | batch (id : Uuid)

def visit (c : Chunker) : Visit → Chunker
  | .chunk seen parser budget f stamp clock => (c.chunkAs seen parser budget f stamp clock).1
  | .batch id => (c.batch id).1

def visitAll (c : Chunker) (vs : List Visit) : Chunker := vs.foldl visit c

/-- What a call does to the batches that are retained. -/
def retention (c : Chunker) : Visit → Option (Recent.Action Uuid (List Chunk))
  | .chunk seen parser budget f stamp clock =>
    let returned := (c.chunkAs seen parser budget f stamp clock).2.2.chunkList
    if returned.isEmpty then none else some (.put stamp.batch returned)
  | .batch id => some (.get id)

def retentions (c : Chunker) : List Visit → List (Recent.Action Uuid (List Chunk))
  | [] => []
  | v :: vs => (c.retention v).toList ++ (c.visit v).retentions vs

/-! ## One call -/

variable (c : Chunker) (seen : SeenContents) (parser : Parser) (budget : Budget) (f : SourceFile)
  (stamp : Stamp) (clock : Clock)

theorem batch_of_mem_chunkAs {d : Chunk}
    (h : d ∈ (c.chunkAs seen parser budget f stamp clock).2.2.chunkList) :
    d.metadata.batch = some stamp.batch := by
  rw [outcome_chunkAs, Outcome.chunkList_mapChunks rfl] at h
  obtain ⟨e, -, rfl⟩ := List.mem_map.1 h
  rfl

theorem batches_visit (v : Visit) :
    (c.visit v).batches = c.batches.afterAll (c.retention v).toList := by
  cases v with
  | chunk seen parser budget f stamp clock =>
    rw [visit, batches_chunkAs, retention]
    split <;> rfl
  | batch id => rfl

theorem chunks_of_retention {id : Uuid} {cs : List Chunk}
    (h : Recent.lastPut? id (c.retention (.chunk seen parser budget f stamp clock)).toList =
      some cs) :
    stamp.batch = id ∧ (c.chunkAs seen parser budget f stamp clock).2.2 = .chunks cs := by
  rw [retention] at h
  cases houtcome : (c.chunkAs seen parser budget f stamp clock).2.2 with
  | chunks returned =>
    rw [houtcome, Outcome.chunkList_chunks] at h
    cases hempty : returned.isEmpty with
    | true =>
      rw [hempty] at h
      cases h
    | false =>
      have hput : (if stamp.batch = id then some returned else none) = some cs := by
        rw [hempty] at h
        simpa [Recent.lastPut?, Recent.Action.put?] using h
      split at hput
      · exact ⟨‹_›, congrArg _ (Option.some.inj hput)⟩
      · cases hput
  | failed e =>
    rw [houtcome] at h
    cases h
  | crashed =>
    rw [houtcome] at h
    cases h

/-! ## Many calls -/

theorem batches_visitAll (vs : List Visit) :
    (c.visitAll vs).batches = c.batches.afterAll (c.retentions vs) := by
  induction vs generalizing c with
  | nil => rfl
  | cons v vs ih =>
    have hrest := ih (c.visit v)
    rw [batches_visit, Recent.afterAll, Recent.afterAll, ← List.foldl_append] at hrest
    exact hrest

/-- A batch that was put last was returned by a call, and by none after it. -/
theorem exists_call_of_lastPut? {vs : List Visit} {id : Uuid} {cs : List Chunk}
    (h : Recent.lastPut? id (c.retentions vs) = some cs) :
    ∃ before seen parser budget f stamp clock after,
      vs = before ++ .chunk seen parser budget f stamp clock :: after ∧ stamp.batch = id ∧
      ((c.visitAll before).chunkAs seen parser budget f stamp clock).2.2 = .chunks cs ∧
      ∀ ds, .put id ds ∉ ((c.visitAll before).visit
        (.chunk seen parser budget f stamp clock)).retentions after := by
  induction vs generalizing c with
  | nil => cases h
  | cons v vs ih =>
    rw [retentions, Recent.lastPut?_append] at h
    cases hrest : Recent.lastPut? id ((c.visit v).retentions vs) with
    | some ds =>
      rw [hrest, Option.some_or] at h
      obtain ⟨before, seen, parser, budget, f, stamp, clock, after, rfl, hcall⟩ :=
        ih (c.visit v) (hrest.trans h)
      exact ⟨v :: before, seen, parser, budget, f, stamp, clock, after, rfl, hcall⟩
    | none =>
      rw [hrest, Option.none_or] at h
      have hnone : ∀ ds, .put id ds ∉ (c.visit v).retentions vs := by
        intro ds hds
        have hsome := Recent.isSome_lastPut?_iff.2 ⟨ds, hds⟩
        rw [hrest] at hsome
        cases hsome
      cases v with
      | batch other => cases h
      | chunk seen parser budget f stamp clock =>
        obtain ⟨hbatch, hchunks⟩ := c.chunks_of_retention seen parser budget f stamp clock h
        exact ⟨[], seen, parser, budget, f, stamp, clock, vs, rfl, hbatch, hchunks, hnone⟩

/-- After any puts and gets a store of batches has a batch exactly if it was put and, since it was
last put or found, fewer different ones were used than there is room for. It has what was put last,
and never more batches than there is room for. So after any calls a chunker that retained nothing
at first has a batch under the same condition, and it is what a call returned, marked with the
batch; no later call returned any chunks under it. A call that returns no chunk changes nothing. -/
theorem batches_retained :
    (∀ (capacity : Nat) (xs : List (Recent.Action Uuid (List Chunk))) (id : Uuid),
      let start : Recent Uuid (List Chunk) := .ofCapacity capacity
      let found := ((start.afterAll xs).get? id).2
      (found.isSome = true ↔ (∃ cs, .put id cs ∈ xs) ∧
        ((start.uses xs).takeWhile (· != id)).dedup.length < max capacity 1) ∧
      (∀ cs, found = some cs → Recent.lastPut? id xs = some cs) ∧
      (start.afterAll xs).size ≤ max capacity 1) ∧
    (∀ (c : Chunker) (capacity : Nat), c.batches = .ofCapacity capacity →
      ∀ (vs : List Visit) (id : Uuid),
        let found := ((c.visitAll vs).batch id).2
        (found.isSome = true ↔ (∃ cs, .put id cs ∈ c.retentions vs) ∧
          ((c.batches.uses (c.retentions vs)).takeWhile (· != id)).dedup.length <
            max capacity 1) ∧
        ∀ cs, found = some cs → ∃ before seen parser budget f stamp clock after,
          vs = before ++ .chunk seen parser budget f stamp clock :: after ∧ stamp.batch = id ∧
          ((c.visitAll before).chunkAs seen parser budget f stamp clock).2.2 = .chunks cs ∧
          (∀ d ∈ cs, d.metadata.batch = some id) ∧
          ∀ ds, .put id ds ∉ ((c.visitAll before).visit
            (.chunk seen parser budget f stamp clock)).retentions after) ∧
    ∀ (c : Chunker) (seen : SeenContents) (parser : Parser) (budget : Budget) (f : SourceFile)
      (stamp : Stamp) (clock : Clock),
      (c.chunkAs seen parser budget f stamp clock).2.2.chunkList = [] →
      (c.chunkAs seen parser budget f stamp clock).1.batches = c.batches := by
  refine ⟨fun capacity xs id => ⟨Recent.isSome_get?_afterAll_iff capacity xs id,
    fun cs => Recent.lastPut?_of_get?_afterAll capacity xs, Recent.size_afterAll_le capacity xs⟩,
    fun c capacity hc vs id => ?_, fun c seen parser budget f stamp clock hnone => ?_⟩
  · have hfound : ((c.visitAll vs).batch id).2 =
        (((Recent.ofCapacity capacity).afterAll (c.retentions vs)).get? id).2 := by
      rw [← hc, ← batches_visitAll]
      rfl
    rw [hfound, hc]
    refine ⟨Recent.isSome_get?_afterAll_iff capacity _ id, fun cs hcs => ?_⟩
    obtain ⟨before, seen, parser, budget, f, stamp, clock, after, hvs, hbatch, hchunks, hlast⟩ :=
      c.exists_call_of_lastPut? (Recent.lastPut?_of_get?_afterAll capacity _ hcs)
    refine ⟨before, seen, parser, budget, f, stamp, clock, after, hvs, hbatch, hchunks, ?_, hlast⟩
    intro d hd
    rw [← hbatch]
    apply batch_of_mem_chunkAs (c.visitAll before) seen parser budget f stamp clock
    rw [hchunks]
    exact hd
  · rw [batches_chunkAs, hnone]
    rfl

end CodeChunks.Chunker

namespace CodeChunks

namespace Sample

def forgetful : Chunker := { chunker with batches := .ofCapacity 1 }

def visit (f : SourceFile) (stamp : Stamp) : Chunker.Visit :=
  .chunk .empty (settings 4).parser (settings 4).budget f stamp .still

/-- A line makes a batch. An empty file makes none, and there is none of the last number. -/
def visits : List Chunker.Visit :=
  [visit line.file stamp, visit ⟨"", none, .python⟩ later, .batch (.ofNat 7)]

end Sample

namespace Chunker

/-- The batch of the line is retained until another one is made. -/
theorem line_retained :
    (∃ cs, ((Sample.forgetful.visitAll Sample.visits).batch Sample.stamp.batch).2 = some cs ∧
      ∀ d ∈ cs, d.metadata.batch = some Sample.stamp.batch) ∧
    ((Sample.forgetful.visitAll
      (Sample.visits ++ [Sample.visit Sample.line.file Sample.later])).batch
        Sample.stamp.batch).2 = none := by
  obtain ⟨-, hretained, -⟩ := batches_retained
  constructor
  · obtain ⟨hiff, hcall⟩ := hretained Sample.forgetful 1 rfl Sample.visits Sample.stamp.batch
    obtain ⟨cs, hcs⟩ := Option.isSome_iff_exists.1
      (hiff.2 ⟨Recent.isSome_lastPut?_iff.1 (by decide +kernel), by decide +kernel⟩)
    obtain ⟨_, _, _, _, _, _, _, _, -, -, -, hmarked, -⟩ := hcall cs hcs
    exact ⟨cs, hcs, hmarked⟩
  · obtain ⟨hiff, -⟩ := hretained Sample.forgetful 1 rfl
      (Sample.visits ++ [Sample.visit Sample.line.file Sample.later]) Sample.stamp.batch
    rw [← Option.not_isSome_iff_eq_none, hiff]
    rintro ⟨-, hfew⟩
    revert hfew
    decide +kernel

end Chunker

end CodeChunks
