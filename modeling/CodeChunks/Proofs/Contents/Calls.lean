import CodeChunks.Proofs.Chunking.Emitted
import CodeChunks.Proofs.Chunking.Repeat
import CodeChunks.Proofs.Store.Offer
import Mathlib.Logic.Function.Basic

/-!
# Contents over many calls

The chunkers of a `Team` share one store of the contents seen, and are called one after another; a
`Record` says what came of a `Call`. Taken together, the calls return each content once, where it
first came up: a chunk is dropped if its digest is that of a chunk before it, in the same file or an
earlier one. Chunks of contents that needed no parser take no part in this. The store has for each
digest the batch of the call that returned it, so a call that is done again returns nothing new. All
this holds while the store has room for the digests that come up; a call may break a limit or take
too long.
-/

namespace CodeChunks

/-! ## Digests of chunks -/

namespace Chunk

def isParsed (c : Chunk) : Bool := c.metadata.context.edgeCase.isNone

/-- Whether the content of a chunk was parsed and has a given digest. -/
def hasDigest (h : String) (c : Chunk) : Bool := c.isParsed && c.contentHash? == some h

def sameContent (a b : Chunk) : Bool := a.contentHash? == b.contentHash?

theorem any_hasDigest_mark (stamp : Stamp) (cs : List Chunk) (h : String) :
    (stamp.mark cs).any (·.hasDigest h) = cs.any (·.hasDigest h) := by
  have hmap : (stamp.mark cs).map (·.hasDigest h) = cs.map (·.hasDigest h) := by
    apply List.ext_getElem
    · simp [Stamp.mark]
    · intro n _ _
      simp only [Stamp.mark, List.getElem_map, List.getElem_mapIdx]
      rfl
  have hany := congrArg (List.any · id) hmap
  simpa [List.any_map] using hany

end Chunk

namespace Chunker

theorem contentKey?_eq_some_iff {c : Chunk} {h : String} :
    contentKey? c = some h ↔ c.hasDigest h = true := by
  unfold contentKey? Chunk.hasDigest Chunk.isParsed
  cases c.metadata.context.edgeCase <;> simp

theorem contentKey?_of_isParsed {c : Chunk} (h : c.isParsed = true) :
    contentKey? c = c.contentHash? := by
  unfold Chunk.isParsed at h
  unfold contentKey?
  rw [if_neg (by simpa using h)]

theorem isSome_contentKey? {c : Chunk} (h : c.contentHash?.isSome = true) :
    (contentKey? c).isSome = c.isParsed := by
  unfold contentKey? Chunk.isParsed
  cases c.metadata.context.edgeCase <;> simp [h]

theorem isNone_contentKey? {c : Chunk} (h : c.contentHash?.isSome = true) :
    (contentKey? c).isNone = !c.isParsed := by
  rw [← isSome_contentKey? h, Option.not_isSome]

/-- Dropping the chunks seen before is offering them all. -/
theorem offerAll_map_inBatch (batch : Uuid) (seen : SeenContents) (cs : List Chunk) :
    Cache.offerAll contentKey? (fun _ => batch) seen (cs.map (inBatch batch)) =
      ((keepNew batch seen cs).1, (keepNew batch seen cs).2.map (inBatch batch)) := by
  induction cs generalizing seen with
  | nil => rfl
  | cons c cs ih =>
    have hkey : contentKey? (inBatch batch c) = contentKey? c := rfl
    rw [List.map_cons, Cache.offerAll_cons, ih, keepNew, Cache.isNew, hkey]
    unfold Cache.offer
    rw [hkey]
    cases contentKey? c with
    | none => rfl
    | some k =>
      dsimp only
      rw [Option.all_some, ← Cache.snd_insertIfAbsent seen k batch]
      split <;> rfl

/-! ## One call -/

/-- A later state of a chunker, which gives the same answers. -/
structure Agrees (c d : Chunker) : Prop where
  config : d.config = c.config
  classifier : c.classifier.Agrees d.classifier
  counter : d.counter = c.counter

theorem Agrees.refl (c : Chunker) : c.Agrees c := ⟨rfl, .refl _, rfl⟩

theorem Agrees.trans {c d e : Chunker} (h : c.Agrees d) (k : d.Agrees e) : c.Agrees e :=
  ⟨k.config.trans h.config, h.classifier.trans k.classifier, k.counter.trans h.counter⟩

theorem Agrees.run {c d : Chunker} (h : c.Agrees d) (parser : Parser) (budget : Budget)
    (clock : Clock) (f : SourceFile) (stamp : Stamp) :
    (d.settings parser budget clock).run f stamp =
      (c.settings parser budget clock).run f stamp := by
  rw [← Settings.run_of_agrees (s := c.settings parser budget clock) h.classifier, settings,
    h.config, h.counter]
  rfl

variable (c : Chunker) (seen : SeenContents) (parser : Parser) (budget : Budget) (f : SourceFile)
  (stamp : Stamp) (clock : Clock)

theorem agrees_learn (l : Language) (kinds : List String) : c.Agrees (c.learn l kinds) :=
  ⟨rfl, .askAll _ _ _, rfl⟩

theorem chunkAs_eq : c.chunkAs seen parser budget f stamp clock =
    match (c.settings parser budget clock).run f stamp with
    | (.chunks drafted, asked) =>
      let kept := (c.learn f.language asked).accept seen (extensionKey f.path) stamp.batch drafted
      (kept.1, kept.2.1, .chunks kept.2.2)
    | (.failed e, asked) =>
      ((c.learn f.language asked).recordFailure (extensionKey f.path) e, seen, .failed e)
    | (.crashed, asked) => (c.learn f.language asked, seen, .crashed) := by
  unfold chunkAs
  generalize Settings.run _ f stamp = result
  obtain ⟨outcome, asked⟩ := result
  cases outcome <;> rfl

theorem agrees_chunkAs : c.Agrees (c.chunkAs seen parser budget f stamp clock).1 := by
  rw [chunkAs_eq]
  obtain ⟨outcome, asked⟩ := (c.settings parser budget clock).run f stamp
  have hlearn := c.agrees_learn f.language asked
  cases outcome with
  | chunks drafted => exact ⟨hlearn.config, hlearn.classifier, hlearn.counter⟩
  | failed e => exact ⟨hlearn.config, hlearn.classifier, hlearn.counter⟩
  | crashed => exact hlearn

theorem seen_chunkAs : (c.chunkAs seen parser budget f stamp clock).2.1 =
    (keepNew stamp.batch seen ((c.settings parser budget clock).run f stamp).1.chunkList).1 := by
  rw [chunkAs_eq]
  obtain ⟨outcome, asked⟩ := (c.settings parser budget clock).run f stamp
  cases outcome <;> rfl

theorem outcome_chunkAs : (c.chunkAs seen parser budget f stamp clock).2.2 =
    ((c.settings parser budget clock).run f stamp).1.mapChunks fun drafted =>
      (keepNew stamp.batch seen drafted).2.map (inBatch stamp.batch) := by
  rw [chunkAs_eq]
  obtain ⟨outcome, asked⟩ := (c.settings parser budget clock).run f stamp
  cases outcome <;> rfl

end Chunker

/-! ## Calls in a row -/

/-- A call of one of several chunkers. -/
structure Call where
  chunker : Nat
  parser : Parser
  budget : Budget
  file : SourceFile
  stamp : Stamp
  clock : Clock := .still

/-- Chunkers that share the contents seen. -/
structure Team where
  chunkers : Nat → Chunker
  seen : SeenContents

/-- A call with what its run drafted and what it returned. -/
structure Record where
  call : Call
  drafted : Outcome
  outcome : Outcome

namespace Record

/-- The chunks that were drafted, in the batch of the call. -/
def offered (r : Record) : List Chunk :=
  r.drafted.chunkList.map (Chunker.inBatch r.call.stamp.batch)

def returned (r : Record) : List Chunk := r.outcome.chunkList

/-- The digests by which the chunks drafted are recognised. -/
def digests (r : Record) : List String := r.offered.filterMap Chunker.contentKey?

theorem mem_digests {r : Record} {h : String} :
    h ∈ r.digests ↔ r.offered.any (·.hasDigest h) = true := by
  simp [digests, Chunker.contentKey?_eq_some_iff]

end Record

namespace Team

def after (t : Team) (k : Call) : Team :=
  let result := (t.chunkers k.chunker).chunkAs t.seen k.parser k.budget k.file k.stamp k.clock
  { chunkers := Function.update t.chunkers k.chunker result.1, seen := result.2.1 }

def record (t : Team) (k : Call) : Record where
  call := k
  drafted := (((t.chunkers k.chunker).settings k.parser k.budget k.clock).run k.file k.stamp).1
  outcome := ((t.chunkers k.chunker).chunkAs t.seen k.parser k.budget k.file k.stamp k.clock).2.2

def afterAll (t : Team) : List Call → Team
  | [] => t
  | k :: ks => (t.after k).afterAll ks

def records (t : Team) : List Call → List Record
  | [] => []
  | k :: ks => t.record k :: (t.after k).records ks

def digests (t : Team) (ks : List Call) : List String := (t.records ks).flatMap Record.digests

variable {t : Team} {k : Call} {ks : List Call} {r : Record}

/-! ### One of them -/

theorem contentHash?_of_mem_offered {c : Chunk} (h : c ∈ (t.record k).offered) :
    c.contentHash?.isSome = true := by
  obtain ⟨d, hd, rfl⟩ := List.mem_map.1 h
  have hdigest := Settings.contentHash?_of_mem_run hd
  exact Option.isSome_iff_exists.2 ⟨_, hdigest⟩

theorem offerAll_offered (t : Team) (k : Call) :
    Cache.offerAll Chunker.contentKey? (fun _ => k.stamp.batch) t.seen (t.record k).offered =
      ((t.after k).seen, (t.record k).returned) := by
  have hreturned : (t.record k).returned =
      (Chunker.keepNew k.stamp.batch t.seen (t.record k).drafted.chunkList).2.map
        (Chunker.inBatch k.stamp.batch) := by
    rw [Record.returned, record, Chunker.outcome_chunkAs]
    exact Outcome.chunkList_mapChunks rfl _
  rw [hreturned, after, Chunker.seen_chunkAs]
  exact Chunker.offerAll_map_inBatch _ _ _

theorem mem_offered_of_mem_returned {c : Chunk} (h : c ∈ (t.record k).returned) :
    c ∈ (t.record k).offered := by
  have hsub := Cache.offerAll_sublist Chunker.contentKey? (fun _ => k.stamp.batch) t.seen
    (t.record k).offered
  rw [offerAll_offered] at hsub
  exact hsub.subset h

theorem filter_not_isParsed_returned (t : Team) (k : Call) :
    (t.record k).returned.filter (fun c => !c.isParsed) =
      (t.record k).offered.filter fun c => !c.isParsed := by
  have hkept := Cache.filter_isNone_offerAll Chunker.contentKey? (fun _ => k.stamp.batch) t.seen
    (t.record k).offered
  rw [offerAll_offered] at hkept
  have hkey : ∀ c ∈ (t.record k).offered, (Chunker.contentKey? c).isNone = !c.isParsed :=
    fun c hc => Chunker.isNone_contentKey? (contentHash?_of_mem_offered hc)
  rw [← List.filter_congr hkey, ← hkept]
  exact (List.filter_congr fun c hc => hkey c (mem_offered_of_mem_returned hc)).symm

theorem any_hasDigest_returned (hroom : t.seen.RoomFor (t.record k).digests) (h : String) :
    (t.record k).returned.any (·.hasDigest h) =
      (!t.seen.contains h && (t.record k).offered.any (·.hasDigest h)) := by
  have hany := Cache.any_offerAll Chunker.contentKey? (fun _ => k.stamp.batch) t.seen hroom h
  rw [offerAll_offered] at hany
  simpa [Chunker.contentKey?_eq_some_iff] using hany

theorem get?_after (hroom : t.seen.RoomFor (t.record k).digests) (h : String) :
    (t.after k).seen.get? h = (t.seen.get? h).or
      (if (t.record k).offered.any (·.hasDigest h) then some k.stamp.batch else none) := by
  have hget := Cache.get?_offerAll Chunker.contentKey? (fun _ => k.stamp.batch) t.seen hroom h
  rw [offerAll_offered] at hget
  rw [hget]
  congr 1
  cases hfind : (t.record k).offered.find? fun c => Chunker.contentKey? c = some h with
  | none =>
    have hnone : (t.record k).offered.any (·.hasDigest h) = false := by
      simpa [Chunker.contentKey?_eq_some_iff] using hfind
    simp [hnone]
  | some c =>
    have hc : c.hasDigest h = true := by
      simpa [Chunker.contentKey?_eq_some_iff] using List.find?_some hfind
    have hsome : (t.record k).offered.any (·.hasDigest h) = true :=
      List.any_eq_true.2 ⟨c, List.mem_of_find?_eq_some hfind, hc⟩
    simp [hsome]

theorem roomFor_after {xs : List String} (hroom : t.seen.RoomFor xs)
    (hsub : (t.record k).digests ⊆ xs) : (t.after k).seen.RoomFor xs := by
  have hoffered := hroom.offerAll (fun _ => k.stamp.batch) hsub
  rw [offerAll_offered] at hoffered
  exact hoffered

/-! ### All of them -/

theorem digests_cons (t : Team) (k : Call) (ks : List Call) :
    t.digests (k :: ks) = (t.record k).digests ++ (t.after k).digests ks := rfl

theorem roomFor_afterAll {xs : List String} (hroom : t.seen.RoomFor xs)
    (hsub : t.digests ks ⊆ xs) : (t.afterAll ks).seen.RoomFor xs := by
  induction ks generalizing t with
  | nil => exact hroom
  | cons k ks ih =>
    rw [digests_cons, List.append_subset] at hsub
    exact ih (roomFor_after hroom hsub.1) hsub.2

/-- Room for the digests of calls in a row is room for those of the first, and then for the
others. -/
theorem roomFor_cons (hroom : t.seen.RoomFor (t.digests (k :: ks))) :
    t.seen.RoomFor (t.record k).digests ∧
      (t.after k).seen.RoomFor ((t.after k).digests ks) := by
  rw [digests_cons] at hroom
  have hafter := roomFor_after hroom (List.subset_append_left _ _)
  exact ⟨hroom.mono (List.subset_append_left _ _), hafter.mono (List.subset_append_right _ _)⟩

theorem agrees_after (t : Team) (k : Call) (n : Nat) :
    (t.chunkers n).Agrees ((t.after k).chunkers n) := by
  unfold after
  dsimp only
  by_cases hn : n = k.chunker
  · subst hn
    rw [Function.update_self]
    exact Chunker.agrees_chunkAs _ _ _ _ _ _ _
  · rw [Function.update_of_ne hn]
    exact .refl _

theorem agrees_afterAll (t : Team) (ks : List Call) (n : Nat) :
    (t.chunkers n).Agrees ((t.afterAll ks).chunkers n) := by
  induction ks generalizing t with
  | nil => exact .refl _
  | cons k ks ih => exact (t.agrees_after k n).trans (ih (t.after k))

theorem exists_of_mem_records (h : r ∈ t.records ks) : ∃ s : Team, r = s.record r.call ∧
    ∀ n, (s.chunkers n).Agrees ((t.afterAll ks).chunkers n) := by
  induction ks generalizing t with
  | nil => cases h
  | cons k ks ih =>
    rcases List.mem_cons.1 h with rfl | h
    · exact ⟨t, rfl, t.agrees_afterAll (k :: ks)⟩
    · exact ih h

theorem isSome_of_mem_offered {c : Chunk} (h : c ∈ (t.records ks).flatMap Record.offered) :
    c.contentHash?.isSome = true := by
  obtain ⟨r, hr, hc⟩ := List.mem_flatMap.1 h
  obtain ⟨s, hs, _⟩ := exists_of_mem_records hr
  rw [hs] at hc
  exact contentHash?_of_mem_offered hc

theorem returned_subset_offered (t : Team) (ks : List Call) :
    (t.records ks).flatMap Record.returned ⊆ (t.records ks).flatMap Record.offered := by
  intro c hc
  obtain ⟨r, hr, hc⟩ := List.mem_flatMap.1 hc
  obtain ⟨s, hs, _⟩ := exists_of_mem_records hr
  refine List.mem_flatMap.2 ⟨r, hr, ?_⟩
  rw [hs] at hc ⊢
  exact mem_offered_of_mem_returned hc

theorem filter_isSome_returned (hroom : t.seen.RoomFor (t.digests ks)) :
    ((t.records ks).flatMap Record.returned).filter
        (fun c => (Chunker.contentKey? c).isSome) =
      (((t.records ks).flatMap Record.offered).filter fun c => (Chunker.contentKey? c).isSome &&
        Cache.isNew Chunker.contentKey? t.seen c).eraseDupsBy
          fun a b => Chunker.contentKey? a == Chunker.contentKey? b := by
  induction ks generalizing t with
  | nil => rfl
  | cons k ks ih =>
    obtain ⟨hfirst, hrest⟩ := roomFor_cons hroom
    have hkept := Cache.filter_isSome_offerAll Chunker.contentKey? (fun _ => k.stamp.batch) t.seen
      hfirst
    -- What the later calls find new is what is new after the offers of the first.
    have hall : t.seen.RoomFor (((t.record k).offered ++
        ((t.after k).records ks).flatMap Record.offered).filterMap Chunker.contentKey?) := by
      rw [List.filterMap_append, List.filterMap_flatMap]
      exact hroom
    rw [offerAll_offered] at hkept
    rw [records, List.flatMap_cons, List.flatMap_cons, List.filter_append, hkept, ih hrest,
      Cache.eraseDupsBy_append Chunker.contentKey? (fun _ => k.stamp.batch) t.seen hall,
      offerAll_offered]

/-- Calls in a row return the chunks whose digest is neither in the store nor that of a chunk before
them. -/
theorem filter_isParsed_returned (hroom : t.seen.RoomFor (t.digests ks)) :
    ((t.records ks).flatMap Record.returned).filter Chunk.isParsed =
      (((t.records ks).flatMap Record.offered).filter fun c => c.isParsed &&
        c.contentHash?.all fun h => !t.seen.contains h).eraseDupsBy Chunk.sameContent := by
  have hreturned : ∀ c ∈ (t.records ks).flatMap Record.returned,
      c.isParsed = (Chunker.contentKey? c).isSome :=
    fun c hc => (Chunker.isSome_contentKey?
      (isSome_of_mem_offered (returned_subset_offered t ks hc))).symm
  have hoffered : ∀ c ∈ (t.records ks).flatMap Record.offered,
      (c.isParsed && c.contentHash?.all fun h => !t.seen.contains h) =
        ((Chunker.contentKey? c).isSome && Cache.isNew Chunker.contentKey? t.seen c) := by
    intro c hc
    rw [Chunker.isSome_contentKey? (isSome_of_mem_offered hc)]
    cases hp : c.isParsed with
    | false => rfl
    | true => rw [Cache.isNew, Chunker.contentKey?_of_isParsed hp]
  rw [List.filter_congr hreturned, List.filter_congr hoffered, filter_isSome_returned hroom]
  apply eraseDupsBy_congr
  intro a ha b hb
  have hkey : ∀ c ∈ ((t.records ks).flatMap Record.offered).filter (fun c =>
      (Chunker.contentKey? c).isSome && Cache.isNew Chunker.contentKey? t.seen c),
      Chunker.contentKey? c = c.contentHash? := by
    intro c hc
    obtain ⟨hc, hsome⟩ := List.mem_filter.1 hc
    rw [← hoffered c hc, Bool.and_eq_true] at hsome
    exact Chunker.contentKey?_of_isParsed hsome.1
  rw [hkey a ha, hkey b hb]
  rfl

/-- The store has for a digest the batch that it had, or else that of the first call that returned
a parsed content with it. -/
theorem get?_afterAll (hroom : t.seen.RoomFor (t.digests ks)) (h : String) :
    (t.afterAll ks).seen.get? h = (t.seen.get? h).or
      (((t.records ks).find? fun r => r.returned.any (·.hasDigest h)).map
        (·.call.stamp.batch)) := by
  induction ks generalizing t with
  | nil => simp [afterAll, records]
  | cons k ks ih =>
    obtain ⟨hfirst, hrest⟩ := roomFor_cons hroom
    rw [afterAll, ih hrest, get?_after hfirst, Option.or_assoc, records, List.find?_cons,
      any_hasDigest_returned hfirst, Cache.contains_eq_isSome]
    cases t.seen.get? h with
    | some batch => rfl
    | none =>
      cases (t.record k).offered.any (·.hasDigest h) with
      | false => rfl
      | true => rfl

theorem contains_afterAll (hroom : t.seen.RoomFor (t.digests ks)) (hr : r ∈ t.records ks)
    {h : String} (hoffered : r.offered.any (·.hasDigest h) = true) :
    (t.afterAll ks).seen.contains h = true := by
  induction ks generalizing t with
  | nil => cases hr
  | cons k ks ih =>
    obtain ⟨hfirst, hrest⟩ := roomFor_cons hroom
    rcases List.mem_cons.1 hr with rfl | hr
    · rw [afterAll, Cache.contains_eq_isSome, get?_afterAll hrest, get?_after hfirst, hoffered]
      cases t.seen.get? h <;> rfl
    · exact ih hrest hr

/-- Done again, a call drafts the same but for identifiers and times. -/
theorem drafted_again (hr : r ∈ t.records ks) (stamp : Stamp) :
    ((t.afterAll ks).record { r.call with stamp := stamp }).drafted =
      r.drafted.mapChunks stamp.mark := by
  obtain ⟨s, hs, hagrees⟩ := exists_of_mem_records hr
  rw [hs, record, record]
  dsimp only
  rw [(hagrees _).run]
  exact Settings.run_mark _ _ _ _

/-- By another clock it drafts the same as well, or it fails. -/
theorem drafted_again_or_failed (hr : r ∈ t.records ks) {drafted : List Chunk}
    (hdrafted : r.drafted = .chunks drafted) (stamp : Stamp) (clock : Clock) :
    ((t.afterAll ks).record { r.call with stamp := stamp, clock := clock }).drafted =
        .chunks (stamp.mark drafted) ∨
      ∃ e, ((t.afterAll ks).record { r.call with stamp := stamp, clock := clock }).drafted =
        .failed e := by
  have hagain := drafted_again hr stamp
  rw [hdrafted] at hagain
  exact Settings.run_withClock hagain clock

theorem outcome_record (t : Team) (k : Call) : (t.record k).outcome =
    (t.record k).drafted.mapChunks fun drafted =>
      (Chunker.keepNew k.stamp.batch t.seen drafted).2.map (Chunker.inBatch k.stamp.batch) :=
  Chunker.outcome_chunkAs _ _ _ _ _ _ _

theorem digests_again_subset (hr : r ∈ t.records ks) {drafted : List Chunk}
    (hdrafted : r.drafted = .chunks drafted) (stamp : Stamp) (clock : Clock) :
    ((t.afterAll ks).record { r.call with stamp := stamp, clock := clock }).digests ⊆
      r.digests := by
  intro h hh
  rw [Record.mem_digests, Record.offered, List.any_map] at hh ⊢
  rcases drafted_again_or_failed hr hdrafted stamp clock with hsame | ⟨e, hfailed⟩
  · rw [hsame] at hh
    rw [hdrafted]
    exact (Chunk.any_hasDigest_mark stamp drafted h).symm.trans hh
  · rw [hfailed] at hh
    cases hh

/-- A chunk that comes back when a call is done again needed no parser: its digest is known. -/
theorem isParsed_of_mem_again (hroom : t.seen.RoomFor (t.digests ks)) (hr : r ∈ t.records ks)
    {drafted : List Chunk} (hdrafted : r.drafted = .chunks drafted) {stamp : Stamp} {clock : Clock}
    {c : Chunk} (hc : c ∈ ((t.afterAll ks).record
      { r.call with stamp := stamp, clock := clock }).returned) : c.isParsed = false := by
  by_contra hp
  rw [Bool.not_eq_false] at hp
  -- Done again, the call offers digests that it offered before, and for these there was room.
  have hsub := digests_again_subset hr hdrafted stamp clock
  have hdigests : r.digests ⊆ t.digests ks :=
    fun h hh => List.mem_flatMap.2 ⟨r, hr, hh⟩
  have hagain := (roomFor_afterAll hroom (List.Subset.refl _)).mono
    (List.Subset.trans hsub hdigests)
  obtain ⟨h, hh⟩ := Option.isSome_iff_exists.1
    (contentHash?_of_mem_offered (mem_offered_of_mem_returned hc))
  have hany : ((t.afterAll ks).record
      { r.call with stamp := stamp, clock := clock }).returned.any (·.hasDigest h) = true :=
    List.any_eq_true.2 ⟨c, hc, by simp [Chunk.hasDigest, hp, hh]⟩
  rw [any_hasDigest_returned hagain, Bool.and_eq_true, Bool.not_eq_true'] at hany
  have hoffered := Record.mem_digests.1 (hsub (Record.mem_digests.2 hany.2))
  rw [contains_afterAll hroom hr hoffered] at hany
  cases hany.1

/-- Over any calls, failed ones among them, the parsed contents returned are the first of each
digest among those drafted, less those seen before the calls. Chunks that needed no parser are all
returned and are not kept as seen. The store says which call returned a digest, and a call that went
well returns no parsed content when it is done again, whatever time it takes then. No part of the
store may overflow. -/
theorem returned_eq_eraseDupsBy (t : Team) (calls : List Call)
    (hroom : t.seen.RoomFor (t.digests calls)) :
    ((t.records calls).flatMap Record.returned).filter Chunk.isParsed =
      (((t.records calls).flatMap Record.offered).filter fun c => c.isParsed &&
        c.contentHash?.all fun h => !t.seen.contains h).eraseDupsBy Chunk.sameContent ∧
    (∀ r ∈ t.records calls, r.returned.filter (fun c => !c.isParsed) =
      r.offered.filter fun c => !c.isParsed) ∧
    (∀ h, (t.afterAll calls).seen.get? h = (t.seen.get? h).or
      (((t.records calls).find? fun r => r.returned.any (·.hasDigest h)).map
        (·.call.stamp.batch))) ∧
    ∀ r ∈ t.records calls, ∀ cs, r.outcome = .chunks cs → ∀ stamp,
      (∃ again, ((t.afterAll calls).record { r.call with stamp := stamp }).outcome = .chunks again ∧
        ∀ c ∈ again, c.isParsed = false) ∧
      ∀ clock, ∀ c ∈ ((t.afterAll calls).record
        { r.call with stamp := stamp, clock := clock }).returned, c.isParsed = false := by
  refine ⟨filter_isParsed_returned hroom, ?_, get?_afterAll hroom, ?_⟩
  · intro r hr
    obtain ⟨s, hs, _⟩ := exists_of_mem_records hr
    rw [hs]
    exact s.filter_not_isParsed_returned r.call
  · intro r hr cs hcs stamp
    obtain ⟨drafted, hdrafted⟩ : ∃ drafted, r.drafted = .chunks drafted := by
      obtain ⟨s, hs, _⟩ := exists_of_mem_records hr
      rw [hs, outcome_record] at hcs
      rw [hs]
      exact Outcome.exists_of_mapChunks hcs
    refine ⟨?_, fun clock c hc => isParsed_of_mem_again hroom hr hdrafted hc⟩
    have hagain := outcome_record (t.afterAll calls) { r.call with stamp := stamp }
    rw [drafted_again hr, hdrafted] at hagain
    refine ⟨_, hagain, fun c hc => ?_⟩
    have hreturned : c ∈ ((t.afterAll calls).record { r.call with stamp := stamp }).returned := by
      rw [Record.returned, hagain]
      exact hc
    exact isParsed_of_mem_again hroom hr hdrafted hreturned

end Team

namespace Sample

def chunker : Chunker where
  config := {}
  classifier := (settings 4).classifier
  batches := .ofCapacity 8

/-- Contents are all kept in one part, which has room for so many. -/
def shelf (room : Nat) : SeenContents := { bound := some ⟨fun _ => ⟨0, by decide⟩, room⟩ }

theorem roomFor_shelf {room : Nat} {ks : List String} (h : ks.length ≤ room) :
    (shelf room).RoomFor ks := by
  refine Cache.roomFor_of_length fun b hb => ?_
  obtain rfl := Option.some.inj hb
  exact Nat.le_trans (Nat.le_of_eq (Nat.zero_add _)) h

def team : Team := ⟨fun _ => chunker, shelf 3⟩

def call : Call where
  chunker := 0
  parser := (settings 4).parser
  budget := (settings 4).budget
  file := file
  stamp := stamp

def later : Stamp := { stamp with batch := .ofNat 1 }

end Sample

namespace Team

/-- The class with two functions makes three chunks, for which there is just room, and none when it
is chunked again. -/
theorem class_returned_once : (Sample.team.record Sample.call).returned.length = 3 ∧
    ∃ again, ((Sample.team.after Sample.call).record
      { Sample.call with stamp := Sample.later }).outcome = .chunks again ∧
        ∀ c ∈ again, c.isParsed = false := by
  have hlength : (Sample.team.record Sample.call).returned.length = 3 := by decide +kernel
  have hdigests : (Sample.team.digests [Sample.call]).length ≤ 3 := by decide +kernel
  have hroom : Sample.team.seen.RoomFor (Sample.team.digests [Sample.call]) :=
    Sample.roomFor_shelf hdigests
  refine ⟨hlength, ?_⟩
  cases hcs : (Sample.team.record Sample.call).outcome with
  | chunks cs =>
    have hall := (Sample.team.returned_eq_eraseDupsBy [Sample.call] hroom).2.2.2
    exact (hall (Sample.team.record Sample.call) (List.mem_singleton.2 rfl) cs hcs Sample.later).1
  | failed e =>
    rw [Record.returned, hcs] at hlength
    cases hlength
  | crashed =>
    rw [Record.returned, hcs] at hlength
    cases hlength

end Team

end CodeChunks
