import CodeChunks.Chunker
import CodeChunks.Proofs.Chunking.Time

/-!
# Doing a run again

What a classifier was asked before does not change its answers (`Classifier.Agrees`), and a run
depends on the classifier through its answers alone. So a run that is done again later ends in the
same way, and its chunks differ only in what `Stamp.mark` gives them, their identifiers and times.
If it takes its time then, it may end with a timeout.
-/

namespace CodeChunks

/-! ## Classifiers with the same answers -/

structure Classifier.Agrees (c d : Classifier) : Prop where
  taxonomy : d.taxonomy = c.taxonomy
  answer : ∀ kind l, d.answer? kind l = c.answer? kind l

namespace Classifier.Agrees

variable {c d e : Classifier}

theorem refl (c : Classifier) : c.Agrees c := ⟨rfl, fun _ _ => rfl⟩

theorem trans (h : c.Agrees d) (k : d.Agrees e) : c.Agrees e :=
  ⟨k.taxonomy.trans h.taxonomy, fun kind l => (k.answer kind l).trans (h.answer kind l)⟩

theorem ask (c : Classifier) (kind : String) (l : Language) : c.Agrees (c.ask kind l) := by
  unfold Classifier.ask
  cases hm : c.memo.get? (kind, l) with
  | some kept => exact refl c
  | none =>
    refine ⟨rfl, fun kind' l' => ?_⟩
    unfold answer?
    rw [Table.get?_insert]
    by_cases hk : (kind, l) = (kind', l')
    · rw [if_pos hk, ← hk, hm]
      obtain ⟨rfl, rfl⟩ := Prod.mk.inj hk
      rfl
    · rw [if_neg hk]
      rfl

theorem askAll (c : Classifier) (l : Language) (kinds : List String) :
    c.Agrees (kinds.foldl (fun k kind => k.ask kind l) c) := by
  induction kinds generalizing c with
  | nil => exact refl c
  | cons kind kinds ih => exact (ask c kind l).trans (ih (c.ask kind l))

end Classifier.Agrees

/-! ## Runs with the same answers -/

namespace View

variable {v w : View}

/-- Two views of the same file with the same answers. -/
structure Agrees (v w : View) : Prop where
  classifier : v.classifier.Agrees w.classifier
  tree : w.tree = v.tree
  language : w.language = v.language
  path : w.path = v.path
  counter : w.counter = v.counter

theorem Agrees.isWorthy (h : v.Agrees w) (threshold : Float) :
    w.isWorthy threshold = v.isWorthy threshold := by
  funext i
  unfold View.isWorthy
  rw [h.classifier.answer, h.classifier.taxonomy, h.tree, h.language]

theorem Agrees.verdict? (h : v.Agrees w) (i : NodeId) : w.verdict? i = v.verdict? i := by
  unfold View.verdict? View.context
  rw [h.classifier.answer, h.classifier.taxonomy, h.tree, h.language, h.path]

theorem Agrees.render (h : v.Agrees w) : w.render = v.render := by
  funext task id now d content
  unfold View.render
  simp only [h.verdict?, h.classifier.taxonomy, h.tree, h.language, h.path, h.counter]

theorem Agrees.renderAll (h : v.Agrees w) : w.renderAll = v.renderAll := by
  funext task ids now drafts
  unfold View.renderAll View.texts
  rw [h.render, h.tree]

end View

namespace Settings

variable {s : Settings} {d : Classifier} {f : SourceFile} {stamp : Stamp}

theorem view_of_agrees (h : s.classifier.Agrees d) (f : SourceFile) (t : SyntaxTree) :
    (s.view f t).Agrees ({ s with classifier := d }.view f t) :=
  ⟨h, rfl, rfl, rfl, rfl⟩

theorem selector_of_agrees (h : s.classifier.Agrees d) (f : SourceFile) (t : SyntaxTree) :
    ({ s with classifier := d } : Settings).selector f t = s.selector f t := by
  unfold selector
  rw [(view_of_agrees h f t).isWorthy]

theorem inTime_of_agrees (h : s.classifier.Agrees d) (f : SourceFile) (t : SyntaxTree) :
    ({ s with classifier := d } : Settings).inTime f t = s.inTime f t := by
  unfold inTime
  rw [selector_of_agrees h]

theorem runTree_of_agrees (h : s.classifier.Agrees d) (f : SourceFile) (stamp : Stamp)
    (t : SyntaxTree) :
    ({ s with classifier := d } : Settings).runTree f stamp t = s.runTree f stamp t := by
  have hfailure : ({ s with classifier := d } : Settings).failure? f t = s.failure? f t := by
    unfold failure?
    rw [inTime_of_agrees h]
  have hasked : ({ s with classifier := d } : Settings).asked f t = s.asked f t := by
    unfold asked
    rw [inTime_of_agrees h]
  rw [runTree_eq, runTree_eq, hfailure, hasked, selector_of_agrees h,
    (view_of_agrees h f t).renderAll]

/-- A run depends on the answers of the classifier alone. -/
theorem run_of_agrees (h : s.classifier.Agrees d) (f : SourceFile) (stamp : Stamp) :
    ({ s with classifier := d } : Settings).run f stamp = s.run f stamp := by
  unfold run
  simp only [runTree_of_agrees h]

end Settings

/-! ## Stamps -/

/-- Gives chunks the identifiers and the time of a stamp. -/
def Stamp.mark (stamp : Stamp) (cs : List Chunk) : List Chunk :=
  cs.mapIdx fun n c => { c with metadata.id := stamp.ids n, metadata.createdAt := stamp.now }

namespace Outcome

def chunkList : Outcome → List Chunk
  | .chunks cs => cs
  | _ => []

def mapChunks (g : List Chunk → List Chunk) : Outcome → Outcome
  | .chunks cs => .chunks (g cs)
  | .failed e => .failed e
  | .crashed => .crashed

@[simp] theorem chunkList_chunks (cs : List Chunk) : (chunks cs).chunkList = cs := rfl

theorem chunkList_mapChunks {g : List Chunk → List Chunk} (hg : g [] = []) (o : Outcome) :
    (o.mapChunks g).chunkList = g o.chunkList := by
  cases o with
  | chunks cs => rfl
  | failed e => exact hg.symm
  | crashed => exact hg.symm

theorem exists_of_mapChunks {g : List Chunk → List Chunk} {o : Outcome} {cs : List Chunk}
    (h : o.mapChunks g = .chunks cs) : ∃ drafted, o = .chunks drafted := by
  cases o with
  | chunks drafted => exact ⟨drafted, rfl⟩
  | failed e => cases h
  | crashed => cases h

end Outcome

theorem View.renderAll_mark (v : View) (task : Task) (stamp stamp' : Stamp)
    (drafts : List Draft) : v.renderAll task stamp'.ids stamp'.now drafts =
      stamp'.mark (v.renderAll task stamp.ids stamp.now drafts) := by
  unfold View.renderAll Stamp.mark
  apply List.ext_getElem
  · simp
  · intro n _ _
    rw [List.getElem_mapIdx, List.getElem_mapIdx, List.getElem_mapIdx]
    rfl

namespace Settings

variable {s : Settings} {f : SourceFile} {stamp : Stamp}

/-- Only the identifiers and the times of chunks come from the stamp. -/
theorem run_mark (s : Settings) (f : SourceFile) (stamp stamp' : Stamp) :
    (s.run f stamp').1 = (s.run f stamp).1.mapChunks stamp'.mark := by
  unfold run
  cases Content.ofText f.content.toList with
  | nothing => rfl
  | blank lines => rfl
  | binary => rfl
  | singleLine => rfl
  | code =>
    dsimp only
    cases s.parser f.content f.language with
    | crashed => rfl
    | failed e => rfl
    | tree t =>
      dsimp only
      rw [fst_runTree, fst_runTree]
      cases s.failure? f t with
      | some e => rfl
      | none => exact congrArg Outcome.chunks (View.renderAll_mark _ _ stamp stamp' _)

/-- A run that goes well makes the same chunks by another clock, or it is late by that one. -/
theorem run_withClock {cs : List Chunk} (h : (s.run f stamp).1 = .chunks cs) (clock : Clock) :
    ({ s with clock := clock }.run f stamp).1 = .chunks cs ∨
      ∃ e, ({ s with clock := clock }.run f stamp).1 = .failed e := by
  unfold run at h ⊢
  cases hcontent : Content.ofText f.content.toList with
  | nothing =>
    rw [hcontent] at h
    exact .inl h
  | blank lines =>
    rw [hcontent] at h
    exact .inl h
  | binary => exact .inr ⟨_, rfl⟩
  | singleLine =>
    rw [hcontent] at h
    exact .inl h
  | code =>
    rw [hcontent] at h
    dsimp only at h ⊢
    cases hp : s.parser f.content f.language with
    | crashed =>
      rw [hp] at h
      cases h
    | failed e => exact .inr ⟨_, rfl⟩
    | tree t =>
      rw [hp] at h
      dsimp only at h ⊢
      rw [fst_runTree] at h ⊢
      cases hlate : ({ s with clock := clock } : Settings).failure? f t with
      | some e => exact .inr ⟨e, rfl⟩
      | none =>
        split at h
        · cases h
        · exact .inl h

theorem forall_mem_run {P : Chunk → Prop}
    (hedge : ∀ counter lines edgeCase, P (edgeCaseChunk counter f lines edgeCase stamp))
    (hdraft : ∀ (v : View) task id now d content, P (v.render task id now d content)) :
    ∀ c ∈ (s.run f stamp).1.chunkList, P c := by
  unfold run
  cases Content.ofText f.content.toList with
  | nothing => simp
  | blank lines => simp [hedge]
  | binary => simp [Outcome.chunkList]
  | singleLine => simp [hedge]
  | code =>
    dsimp only
    cases s.parser f.content f.language with
    | crashed => simp [Outcome.chunkList]
    | failed e => simp [Outcome.chunkList]
    | tree t =>
      dsimp only
      rw [fst_runTree]
      split
      · simp [Outcome.chunkList]
      · intro c hc
        rw [Outcome.chunkList_chunks, View.renderAll, List.mem_mapIdx] at hc
        obtain ⟨n, _, rfl⟩ := hc
        exact hdraft _ _ _ _ _ _

theorem contentHash?_of_mem_run {c : Chunk} (hc : c ∈ (s.run f stamp).1.chunkList) :
    c.contentHash? = some (Digest.ofText c.content.toList) := by
  refine forall_mem_run (P := fun c => c.contentHash? = some (Digest.ofText c.content.toList))
    (fun _ _ _ => rfl) (fun v task id now d content => ?_) c hc
  have hcontent : (v.render task id now d content).content.toList = content :=
    String.toList_ofList
  rw [hcontent]
  unfold View.render Chunk.of Chunk.contentHash?
  dsimp only
  split <;> rfl

end Settings

end CodeChunks
