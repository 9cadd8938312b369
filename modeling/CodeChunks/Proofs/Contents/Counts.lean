import CodeChunks.Proofs.Contents.Calls
import Mathlib.Algebra.GroupWithZero.Nat

/-!
# Counts over many calls

A chunker counts every call once, under the extension of its file: as processed if chunks came of
it, as skipped if the file could not be chunked at all, and as errored if it failed otherwise
(`Record.counts`, which `Stats.enter` adds). The chunks that were returned and those that were
dropped are together those that were drafted. A call that fails, be it that it took too long, leaves
the contents seen and the batches alone (`SameStores`), so after any calls they are what the
`processedCalls` have made of them. Contents may be forgotten by a store without room for more.
-/

namespace CodeChunks

/-! ## Counts of files -/

namespace FileCounts

theorem zero_add (a : FileCounts) : add {} a = a := by
  simp [add]

theorem add_zero (a : FileCounts) : a.add {} = a := rfl

theorem add_assoc (a b c : FileCounts) : (a.add b).add c = a.add (b.add c) := by
  simp [add, Nat.add_assoc]

theorem add_right_comm (a b c : FileCounts) : (a.add b).add c = (a.add c).add b := by
  simp [add, Nat.add_right_comm]

theorem total_add (a b : FileCounts) : (a.add b).total = a.total + b.total := by
  simp only [total, add]
  omega

theorem foldl_add (xs : List FileCounts) (a b : FileCounts) :
    xs.foldl add (a.add b) = (xs.foldl add a).add b := by
  induction xs generalizing a with
  | nil => rfl
  | cons x xs ih => rw [List.foldl_cons, List.foldl_cons, add_right_comm, ih]

theorem foldl_values_insert (t : Table String FileCounts) (key : String) (a more : FileCounts) :
    (Table.values (Table.insert key (((t.get? key).getD {}).add more) t)).foldl add a =
      (t.values.foldl add a).add more := by
  induction t generalizing a with
  | nil => exact congrArg a.add (zero_add more)
  | cons e t ih =>
    obtain ⟨key', b⟩ := e
    by_cases hkey : key' = key
    · have hfound : Table.get? ((key', b) :: t) key = some b := by rw [Table.get?, if_pos hkey]
      rw [hfound, Option.getD_some, Table.insert, if_pos hkey]
      show (Table.values t).foldl add (a.add (b.add more)) = _
      rw [← add_assoc, foldl_add]
      rfl
    · have hrest : Table.get? ((key', b) :: t) key = Table.get? t key := by
        rw [Table.get?, if_neg hkey]
      rw [hrest, Table.insert, if_neg hkey]
      exact ih (a.add b)

end FileCounts

namespace Stats

theorem countsOf_count (s : Stats) (key x : String) (more : FileCounts) :
    (s.count key more).countsOf x =
      if key = x then (s.countsOf x).add more else s.countsOf x := by
  unfold count countsOf
  rw [Table.get?_insert]
  by_cases hx : key = x
  · rw [if_pos hx, if_pos hx, hx, Option.getD_some]
  · rw [if_neg hx, if_neg hx]

theorem files_count (s : Stats) (key : String) (more : FileCounts) :
    (s.count key more).files = s.files.add more :=
  FileCounts.foldl_values_insert s.byExtension key {} more

theorem tally_of_lt {counter more : Nat} (h : counter + more < 2 ^ 64) :
    tally counter more = counter + more :=
  Nat.mod_eq_of_lt h

end Stats

/-! ## Entering a call -/

namespace Error

/-- The kinds of failure for which a file counts as skipped. -/
def skippedKinds : List String := ["binary_file", "parse", "unsupported_language"]

theorem isSkipped_eq (e : Error) : Chunker.isSkipped e = skippedKinds.contains e.kind := by
  cases e <;> simp [Chunker.isSkipped, skippedKinds, kind]

end Error

namespace Outcome

def isProcessed : Outcome → Bool
  | .chunks _ => true
  | _ => false

def isSkipped : Outcome → Bool
  | .failed e => Error.skippedKinds.contains e.kind
  | _ => false

def isErrored : Outcome → Bool
  | .failed e => !Error.skippedKinds.contains e.kind
  | _ => false

/-- The parser broke down, and nothing was returned. -/
def isCrashed : Outcome → Bool
  | .crashed => true
  | _ => false

theorem chunkList_of_not_isProcessed {o : Outcome} (h : o.isProcessed = false) :
    o.chunkList = [] := by
  cases o with
  | chunks cs => cases h
  | failed e => rfl
  | crashed => rfl

theorem isProcessed_mapChunks (g : List Chunk → List Chunk) (o : Outcome) :
    (o.mapChunks g).isProcessed = o.isProcessed := by
  cases o <;> rfl

end Outcome

namespace Record

/-- The extension under which a call is counted. -/
def key (r : Record) : String := Chunker.extensionKey r.call.file.path

/-- How many calls ended in each way. -/
def counts (rs : List Record) : FileCounts where
  processed := rs.countP (·.outcome.isProcessed)
  skipped := rs.countP (·.outcome.isSkipped)
  errored := rs.countP (·.outcome.isErrored)

def draftedTotal (rs : List Record) : Nat := (rs.map fun r => r.drafted.chunkList.length).sum

def returnedTotal (rs : List Record) : Nat := (rs.map fun r => r.returned.length).sum

/-- How many chunks were drafted and not returned. -/
def dropped (r : Record) : Nat := r.drafted.chunkList.length - r.returned.length

theorem counts_cons (r : Record) (rs : List Record) :
    counts (r :: rs) = (counts [r]).add (counts rs) := by
  simp only [counts, FileCounts.add, List.countP_cons, List.countP_nil]
  simp only [Nat.zero_add, Nat.add_comm]

theorem counts_singleton (r : Record) : counts [r] =
    match r.outcome with
    | .chunks _ => { processed := 1 }
    | .failed e => if Chunker.isSkipped e then { skipped := 1 } else { errored := 1 }
    | .crashed => {} := by
  obtain ⟨call, drafted, outcome⟩ := r
  cases outcome with
  | chunks cs => rfl
  | failed e =>
    dsimp only
    rw [e.isSkipped_eq]
    by_cases h : e.kind ∈ Error.skippedKinds <;>
      simp [counts, Outcome.isProcessed, Outcome.isSkipped, Outcome.isErrored, h]
  | crashed => rfl

theorem total_counts_singleton (r : Record) :
    (counts [r]).total + [r].countP (·.outcome.isCrashed) = 1 := by
  rw [counts_singleton]
  obtain ⟨call, drafted, outcome⟩ := r
  cases outcome with
  | chunks cs => rfl
  | failed e => cases h : Chunker.isSkipped e <;> simp [h, FileCounts.total, Outcome.isCrashed]
  | crashed => rfl

theorem total_counts (rs : List Record) :
    (counts rs).total + rs.countP (·.outcome.isCrashed) = rs.length := by
  induction rs with
  | nil => rfl
  | cons r rs ih =>
    have hone := total_counts_singleton r
    rw [List.countP_singleton] at hone
    rw [counts_cons, FileCounts.total_add, List.length_cons, List.countP_cons]
    omega

/-- What became of a call that a team made. -/
def IsMade (r : Record) : Prop := ∃ t : Team, r = t.record r.call

theorem IsMade.outcome_eq {r : Record} (h : r.IsMade) :
    ∃ g : List Chunk → List Chunk, r.outcome = r.drafted.mapChunks g := by
  obtain ⟨t, ht⟩ := h
  rw [ht]
  exact ⟨_, t.outcome_record r.call⟩

theorem IsMade.returned_add_dropped {r : Record} (h : r.IsMade) :
    r.returned.length + r.dropped = r.drafted.chunkList.length := by
  obtain ⟨t, ht⟩ := h
  have hsub := Cache.offerAll_sublist Chunker.contentKey? (fun _ => r.call.stamp.batch) t.seen
    (t.record r.call).offered
  rw [Team.offerAll_offered, ← ht] at hsub
  have hle : r.returned.length ≤ r.offered.length := hsub.length_le
  rw [offered, List.length_map] at hle
  unfold dropped
  omega

/-- Nothing is drafted in a call that does not go well. -/
theorem IsMade.drafted_eq_nil {r : Record} (h : r.IsMade) (hr : r.outcome.isProcessed = false) :
    r.drafted.chunkList = [] := by
  obtain ⟨g, hg⟩ := h.outcome_eq
  rw [hg, Outcome.isProcessed_mapChunks] at hr
  exact Outcome.chunkList_of_not_isProcessed hr

theorem IsMade.dropped_eq_zero {r : Record} (h : r.IsMade) (hr : r.outcome.isProcessed = false) :
    r.dropped = 0 := by
  unfold dropped
  rw [h.drafted_eq_nil hr]
  exact Nat.zero_sub _

theorem draftedTotal_eq {rs : List Record} (h : ∀ r ∈ rs, r.IsMade) :
    draftedTotal rs = returnedTotal rs + (rs.map dropped).sum := by
  induction rs with
  | nil => rfl
  | cons r rs ih =>
    have hr := (h r List.mem_cons_self).returned_add_dropped
    have hrs := ih fun r' hr' => h r' (List.mem_cons_of_mem r hr')
    simp only [draftedTotal, returnedTotal, List.map_cons, List.sum_cons] at hrs ⊢
    omega

theorem draftedTotal_filter {rs : List Record} (h : ∀ r ∈ rs, r.IsMade) :
    draftedTotal (rs.filter (·.outcome.isProcessed)) = draftedTotal rs := by
  induction rs with
  | nil => rfl
  | cons r rs ih =>
    have hrs := ih fun r' hr' => h r' (List.mem_cons_of_mem r hr')
    have hcons : ∀ rs', draftedTotal (r :: rs') =
        r.drafted.chunkList.length + draftedTotal rs' := fun _ => List.sum_cons
    cases hr : r.outcome.isProcessed with
    | true => rw [List.filter_cons, if_pos hr, hcons, hcons, hrs]
    | false =>
      rw [List.filter_cons_of_neg (by simp [hr]), hcons, hrs,
        (h r List.mem_cons_self).drafted_eq_nil hr, List.length_nil, Nat.zero_add]

end Record

namespace Stats

def enter (s : Stats) (r : Record) : Stats :=
  match r.outcome with
  | .chunks cs => s.processed r.key cs.length r.dropped
  | .failed e => if Chunker.isSkipped e then s.skipped r.key else s.errored r.key
  | .crashed => s

variable (s : Stats) (r : Record) (rs : List Record)

theorem byExtension_enter : (s.enter r).byExtension = s.byExtension ∧ Record.counts [r] = {} ∨
    (s.enter r).byExtension = (s.count r.key (Record.counts [r])).byExtension := by
  rw [Record.counts_singleton]
  unfold enter
  cases r.outcome with
  | chunks cs => exact .inr rfl
  | failed e =>
    right
    dsimp only
    split <;> rfl
  | crashed => exact .inl ⟨rfl, rfl⟩

theorem countsOf_enter (key : String) : (s.enter r).countsOf key =
    if r.key = key then (s.countsOf key).add (Record.counts [r]) else s.countsOf key := by
  rcases s.byExtension_enter r with ⟨hsame, hnone⟩ | hcount
  · rw [countsOf, hsame, hnone, FileCounts.add_zero]
    split <;> rfl
  · rw [countsOf, hcount]
    exact s.countsOf_count r.key key _

theorem files_enter : (s.enter r).files = s.files.add (Record.counts [r]) := by
  rcases s.byExtension_enter r with ⟨hsame, hnone⟩ | hcount
  · rw [files, hsame, hnone, FileCounts.add_zero]
    rfl
  · rw [files, hcount]
    exact s.files_count r.key _

variable {s r rs}

theorem chunksEmitted_enter (h : s.chunksEmitted + r.returned.length < 2 ^ 64) :
    (s.enter r).chunksEmitted = s.chunksEmitted + r.returned.length := by
  unfold Record.returned at h ⊢
  unfold enter
  cases ho : r.outcome with
  | chunks cs =>
    rw [ho] at h
    exact tally_of_lt h
  | failed e =>
    dsimp only
    split <;> rfl
  | crashed => rfl

theorem duplicatesDropped_enter (hr : r.IsMade) (h : s.duplicatesDropped + r.dropped < 2 ^ 64) :
    (s.enter r).duplicatesDropped = s.duplicatesDropped + r.dropped := by
  unfold enter
  cases ho : r.outcome with
  | chunks cs => exact tally_of_lt h
  | failed e =>
    rw [hr.dropped_eq_zero (by rw [ho]; rfl)]
    dsimp only
    split <;> rfl
  | crashed =>
    rw [hr.dropped_eq_zero (by rw [ho]; rfl)]
    rfl

/-! ### Calls in a row -/

theorem countsOf_foldl_enter (s : Stats) (rs : List Record) (key : String) :
    (rs.foldl enter s).countsOf key =
      (s.countsOf key).add (Record.counts (rs.filter fun r => r.key = key)) := by
  induction rs generalizing s with
  | nil => rfl
  | cons r rs ih =>
    rw [List.foldl_cons, ih, countsOf_enter]
    by_cases hkey : r.key = key
    · rw [if_pos hkey, List.filter_cons_of_pos (by simpa using hkey), FileCounts.add_assoc,
        ← Record.counts_cons]
    · rw [if_neg hkey, List.filter_cons_of_neg (by simpa using hkey)]

theorem files_foldl_enter (s : Stats) (rs : List Record) :
    (rs.foldl enter s).files = s.files.add (Record.counts rs) := by
  induction rs generalizing s with
  | nil => rfl
  | cons r rs ih =>
    rw [List.foldl_cons, ih, files_enter, FileCounts.add_assoc, ← Record.counts_cons]

theorem chunksEmitted_foldl_enter (h : s.chunksEmitted + Record.returnedTotal rs < 2 ^ 64) :
    (rs.foldl enter s).chunksEmitted = s.chunksEmitted + Record.returnedTotal rs := by
  induction rs generalizing s with
  | nil => rfl
  | cons r rs ih =>
    have hcons : Record.returnedTotal (r :: rs) = r.returned.length + Record.returnedTotal rs :=
      List.sum_cons
    rw [hcons] at h ⊢
    have hstep := chunksEmitted_enter (s := s) (r := r) (by omega)
    rw [List.foldl_cons, ih (by omega), hstep, Nat.add_assoc]

theorem duplicatesDropped_foldl_enter (hrs : ∀ r ∈ rs, r.IsMade)
    (h : s.duplicatesDropped + (rs.map Record.dropped).sum < 2 ^ 64) :
    (rs.foldl enter s).duplicatesDropped =
      s.duplicatesDropped + (rs.map Record.dropped).sum := by
  induction rs generalizing s with
  | nil => rfl
  | cons r rs ih =>
    rw [List.map_cons, List.sum_cons] at h ⊢
    have hstep := duplicatesDropped_enter (s := s) (hrs r List.mem_cons_self) (by omega)
    rw [List.foldl_cons, ih (fun r' hr' => hrs r' (List.mem_cons_of_mem r hr')) (by omega), hstep,
      Nat.add_assoc]

end Stats

/-! ## Stores and counts after calls -/

namespace Chunker

theorem Agrees.symm {c d : Chunker} (h : c.Agrees d) : d.Agrees c :=
  ⟨h.config.symm,
    ⟨h.classifier.taxonomy.symm, fun kind l => (h.classifier.answer kind l).symm⟩, h.counter.symm⟩

variable (c : Chunker) (seen : SeenContents) (parser : Parser) (budget : Budget) (f : SourceFile)
  (stamp : Stamp) (clock : Clock)

theorem batches_chunkAs : (c.chunkAs seen parser budget f stamp clock).1.batches =
    if (c.chunkAs seen parser budget f stamp clock).2.2.chunkList.isEmpty then c.batches
    else c.batches.put stamp.batch (c.chunkAs seen parser budget f stamp clock).2.2.chunkList := by
  rw [chunkAs_eq]
  obtain ⟨outcome, asked⟩ := (c.settings parser budget clock).run f stamp
  cases outcome <;> rfl

theorem seen_chunkAs_of_chunkList
    (h : ((c.settings parser budget clock).run f stamp).1.chunkList = []) :
    (c.chunkAs seen parser budget f stamp clock).2.1 = seen := by
  rw [seen_chunkAs, h]
  rfl

end Chunker

namespace Team

variable {t u : Team} {k : Call} {ks : List Call}

theorem isMade_record (t : Team) (k : Call) : (t.record k).IsMade := ⟨t, rfl⟩

def statsOf (t : Team) (n : Nat) : Stats := (t.chunkers n).stats

theorem statsOf_after (t : Team) (k : Call) (n : Nat) : (t.after k).statsOf n =
    if k.chunker = n then (t.statsOf n).enter (t.record k) else t.statsOf n := by
  unfold statsOf after
  dsimp only
  by_cases hn : k.chunker = n
  · subst hn
    rw [if_pos rfl, Function.update_self]
    unfold Stats.enter Record.dropped Record.returned record
    dsimp only
    rw [Chunker.chunkAs_eq]
    obtain ⟨outcome, asked⟩ :=
      ((t.chunkers k.chunker).settings k.parser k.budget k.clock).run k.file k.stamp
    cases outcome with
    | chunks drafted => rfl
    | failed e =>
      dsimp only
      unfold Chunker.recordFailure
      split <;> rfl
    | crashed => rfl
  · rw [if_neg hn, Function.update_of_ne (Ne.symm hn)]

def recordsOf (t : Team) (n : Nat) (ks : List Call) : List Record :=
  (t.records ks).filter fun r => r.call.chunker = n

theorem length_recordsOf (t : Team) (n : Nat) (ks : List Call) :
    (t.recordsOf n ks).length = ks.countP fun k => k.chunker = n := by
  unfold recordsOf
  induction ks generalizing t with
  | nil => rfl
  | cons k ks ih =>
    rw [records, List.filter_cons, List.countP_cons, ← ih (t.after k)]
    have hcall : (t.record k).call = k := rfl
    rw [hcall]
    split <;> simp

theorem isMade_of_mem_recordsOf {n : Nat} {r : Record} (h : r ∈ t.recordsOf n ks) : r.IsMade := by
  obtain ⟨s, hs, _⟩ := exists_of_mem_records (List.mem_filter.1 h).1
  exact ⟨s, hs⟩

/-- The counts of a chunker are those of its own calls, entered in a row. -/
theorem statsOf_afterAll (t : Team) (ks : List Call) (n : Nat) :
    (t.afterAll ks).statsOf n = (t.recordsOf n ks).foldl Stats.enter (t.statsOf n) := by
  unfold recordsOf
  induction ks generalizing t with
  | nil => rfl
  | cons k ks ih =>
    have hcall : (t.record k).call = k := rfl
    rw [afterAll, ih, statsOf_after, records, List.filter_cons, hcall]
    by_cases hn : k.chunker = n <;> simp [hn]

/-! ### Stores -/

/-- The contents seen and the batches are the same. -/
structure SameStores (t u : Team) : Prop where
  seen : u.seen = t.seen
  batches : ∀ n, (u.chunkers n).batches = (t.chunkers n).batches

/-- The stores are the same, and so are all answers. -/
structure Alike (t u : Team) : Prop extends t.SameStores u where
  agrees : ∀ n, (t.chunkers n).Agrees (u.chunkers n)

theorem Alike.refl (t : Team) : t.Alike t := ⟨⟨rfl, fun _ => rfl⟩, fun _ => .refl _⟩

theorem batches_after (t : Team) (k : Call) (n : Nat) : ((t.after k).chunkers n).batches =
    if n = k.chunker ∧ (t.record k).returned.isEmpty = false then
      (t.chunkers n).batches.put k.stamp.batch (t.record k).returned
    else (t.chunkers n).batches := by
  unfold after
  dsimp only
  by_cases hn : n = k.chunker
  · subst hn
    rw [Function.update_self, Chunker.batches_chunkAs]
    have hreturned : (t.record k).returned = ((t.chunkers k.chunker).chunkAs t.seen k.parser
      k.budget k.file k.stamp k.clock).2.2.chunkList := rfl
    rw [hreturned]
    cases List.isEmpty _ <;> simp
  · rw [Function.update_of_ne hn, if_neg fun h => hn h.1]

/-- A call that does not go well leaves the stores as they were. -/
theorem sameStores_after (h : (t.record k).outcome.isProcessed = false) :
    t.SameStores (t.after k) := by
  have hdrafted := (t.isMade_record k).drafted_eq_nil h
  have hreturned : (t.record k).returned = [] := Outcome.chunkList_of_not_isProcessed h
  refine ⟨Chunker.seen_chunkAs_of_chunkList _ _ _ _ _ _ _ hdrafted, fun n => ?_⟩
  rw [batches_after, hreturned]
  exact if_neg fun h => nomatch h.2

theorem Alike.record (h : t.Alike u) (k : Call) : u.record k = t.record k := by
  unfold Team.record
  rw [Chunker.outcome_chunkAs, Chunker.outcome_chunkAs, (h.agrees k.chunker).run, h.seen]

theorem Alike.after (h : t.Alike u) (k : Call) : (t.after k).Alike (u.after k) := by
  refine ⟨⟨?_, fun n => ?_⟩, fun n => ?_⟩
  · unfold Team.after
    dsimp only
    rw [Chunker.seen_chunkAs, Chunker.seen_chunkAs, (h.agrees k.chunker).run, h.seen]
  · rw [batches_after, batches_after, h.record, h.batches]
  · exact ((t.agrees_after k n).symm.trans (h.agrees n)).trans (u.agrees_after k n)

theorem Alike.skip (h : t.Alike u) (hk : (t.record k).outcome.isProcessed = false) :
    (t.after k).Alike u := by
  have hsame := sameStores_after hk
  exact ⟨⟨h.seen.trans hsame.seen.symm, fun n => (h.batches n).trans (hsame.batches n).symm⟩,
    fun n => (t.agrees_after k n).symm.trans (h.agrees n)⟩

def processedCalls (t : Team) (ks : List Call) : List Call :=
  ((t.records ks).filter fun r => r.outcome.isProcessed).map (·.call)

/-- Calls that do not go well might as well not have been made. -/
theorem Alike.afterAll_processedCalls (h : t.Alike u) (ks : List Call) :
    (t.afterAll ks).Alike (u.afterAll (t.processedCalls ks)) := by
  unfold processedCalls
  -- The team on the right makes the calls that go well only, and stays alike all the time.
  induction ks generalizing t u with
  | nil => exact h
  | cons k ks ih =>
    rw [afterAll, records]
    cases hk : (t.record k).outcome.isProcessed with
    | true =>
      rw [List.filter_cons, if_pos hk]
      exact ih (h.after k)
    | false =>
      rw [List.filter_cons_of_neg (by simp [hk])]
      exact ih (h.skip hk)

/-- A call that fails leaves the stores as they were, so after any calls they are what the calls
that went well have made of them. A chunker counts each of its calls once, under its own extension
and by how it ended, unless the parser broke down. The chunks that it counts as returned are those
that were returned; with those that it counts as dropped they are all that were drafted. -/
theorem counts_of_calls (t : Team) (calls : List Call) (n : Nat) :
    (∀ k e, ((t.afterAll calls).record k).outcome = .failed e →
      (t.afterAll calls).SameStores ((t.afterAll calls).after k)) ∧
    (t.afterAll calls).SameStores (t.afterAll (t.processedCalls calls)) ∧
    (∀ key, ((t.afterAll calls).statsOf n).countsOf key = ((t.statsOf n).countsOf key).add
      (Record.counts ((t.recordsOf n calls).filter fun r => r.key = key))) ∧
    ((t.afterAll calls).statsOf n).files.total +
        (t.recordsOf n calls).countP (·.outcome.isCrashed) =
      (t.statsOf n).files.total + calls.countP (·.chunker = n) ∧
    ((t.statsOf n).chunksEmitted + Record.returnedTotal (t.recordsOf n calls) < 2 ^ 64 →
      ((t.afterAll calls).statsOf n).chunksEmitted =
        (t.statsOf n).chunksEmitted + Record.returnedTotal (t.recordsOf n calls) ∧
      ((t.statsOf n).duplicatesDropped + (Record.draftedTotal (t.recordsOf n calls) -
          Record.returnedTotal (t.recordsOf n calls)) < 2 ^ 64 →
        ((t.afterAll calls).statsOf n).chunksEmitted +
            ((t.afterAll calls).statsOf n).duplicatesDropped =
          (t.statsOf n).chunksEmitted + (t.statsOf n).duplicatesDropped +
            Record.draftedTotal ((t.recordsOf n calls).filter (·.outcome.isProcessed)))) := by
  have hmade : ∀ r ∈ t.recordsOf n calls, r.IsMade := fun r hr => isMade_of_mem_recordsOf hr
  have hdrafted := Record.draftedTotal_eq hmade
  rw [statsOf_afterAll]
  refine ⟨fun k e he => sameStores_after (by rw [he]; rfl),
    ((Alike.refl t).afterAll_processedCalls calls).toSameStores,
    Stats.countsOf_foldl_enter _ _, ?_, fun hemitted => ?_⟩
  · have htotal := Record.total_counts (t.recordsOf n calls)
    rw [length_recordsOf] at htotal
    rw [Stats.files_foldl_enter, FileCounts.total_add, Nat.add_assoc, htotal]
  · have hreturned := Stats.chunksEmitted_foldl_enter hemitted
    refine ⟨hreturned, fun hdropped => ?_⟩
    rw [hreturned, Stats.duplicatesDropped_foldl_enter hmade (by omega),
      Record.draftedTotal_filter hmade]
    omega

end Team

def Outcome.kind? : Outcome → Option String
  | .failed e => some e.kind
  | _ => none

theorem Outcome.exists_of_kind? {o : Outcome} {kind : String} (h : o.kind? = some kind) :
    ∃ e, o = .failed e ∧ e.kind = kind := by
  cases o with
  | chunks cs => cases h
  | failed e => exact ⟨e, rfl, Option.some.inj h⟩
  | crashed => cases h

namespace Sample

/-- Chunkers whose store has room for one content and has seen one. -/
def crowded : Team := ⟨fun _ => chunker, { shelf 1 with entries := [("", later.batch)] }⟩

def line : Call := { call with file := ⟨"pass", some "src/A.PY", .python⟩ }

def nulls : Call := { call with file := ⟨"a\x00b\n", some "b.py", .python⟩ }

def whole : Call := { call with budget := .ofLimit 512 }

/-- The class with two functions, with ten seconds between two looks at the clock. -/
def slow : Call := { call with clock := ⟨fun look => .ofSeconds (10 * look)⟩ }

def calls : List Call := [line, nulls, whole]

end Sample

namespace Team

/-- A line is chunked and a binary file skipped, both as Python. The class with two functions is
chunked, for which the store forgets what it had seen. Done slowly it takes too long, which is
counted but leaves the stores alone. -/
theorem timeout_and_eviction_counted :
    (∃ e, ((Sample.crowded.afterAll Sample.calls).record Sample.slow).outcome = .failed e ∧
      e.kind = "timeout") ∧
    (Sample.crowded.afterAll Sample.calls).SameStores
      ((Sample.crowded.afterAll Sample.calls).after Sample.slow) ∧
    (Sample.crowded.afterAll Sample.calls).seen.contains "" = false ∧
    ((Sample.crowded.afterAll (Sample.calls ++ [Sample.slow])).statsOf 0).countsOf "py" =
      ⟨1, 1, 0⟩ ∧
    ((Sample.crowded.afterAll (Sample.calls ++ [Sample.slow])).statsOf 0).countsOf "none" =
      ⟨1, 0, 1⟩ ∧
    ((Sample.crowded.afterAll (Sample.calls ++ [Sample.slow])).statsOf 0).files.total = 4 ∧
    ((Sample.crowded.afterAll (Sample.calls ++ [Sample.slow])).statsOf 0).chunksEmitted = 2 := by
  obtain ⟨hstores, -⟩ := Sample.crowded.counts_of_calls Sample.calls 0
  obtain ⟨-, -, hkey, htotal, hchunks⟩ :=
    Sample.crowded.counts_of_calls (Sample.calls ++ [Sample.slow]) 0
  have hlate : ((Sample.crowded.afterAll Sample.calls).record Sample.slow).outcome.kind? =
      some "timeout" := by decide +kernel
  have hcrashed : (Sample.crowded.recordsOf 0 (Sample.calls ++ [Sample.slow])).countP
      (·.outcome.isCrashed) = 0 := by decide +kernel
  have hreturned : Record.returnedTotal
      (Sample.crowded.recordsOf 0 (Sample.calls ++ [Sample.slow])) = 2 := by decide +kernel
  obtain ⟨e, he, hkind⟩ := Outcome.exists_of_kind? hlate
  refine ⟨⟨e, he, hkind⟩, hstores Sample.slow e he, by decide +kernel, ?_, ?_, ?_, ?_⟩
  · rw [hkey]
    decide +kernel
  · rw [hkey]
    decide +kernel
  · rw [hcrashed, Nat.add_zero] at htotal
    exact htotal.trans (by decide +kernel)
  · rw [hreturned] at hchunks
    exact (hchunks (by decide)).1.trans (by decide +kernel)

end Team

end CodeChunks
