import CodeChunks.Proofs.Chunking.Runs
import CodeChunks.Proofs.Chunking.Time

/-!
# The drafts behind the chunks of a run

A run that succeeds makes one chunk of each draft that has a text, in order. `Settings.emitted` are
these drafts and `Settings.chunkOf` is the chunk of one of them; the span of a chunk is that of its
draft.
-/

namespace CodeChunks

namespace Selector

variable {s : Selector}

theorem drafts_selectTop (s : Selector) (i : NodeId) :
    (s.selectTop i).drafts =
      if s.isWorthy i then (s.emit (s.tree.depth i) (s.tree.branch i)).drafts else [] := by
  unfold selectTop
  rw [Plan.drafts_append, Plan.drafts_ofSteps, List.nil_append]
  split <;> rfl

theorem drafts_plan (s : Selector) :
    s.plan.drafts = s.topNodes.flatMap fun i => (s.selectTop i).drafts := by
  rw [plan, Plan.drafts_join, List.flatMap_map]

theorem mem_drafts_plan {d : Draft} : d ∈ s.plan.drafts ↔ ∃ i ∈ s.topNodes,
    s.isWorthy i = true ∧ d ∈ (s.emit (s.tree.depth i) (s.tree.branch i)).drafts := by
  simp only [drafts_plan, List.mem_flatMap, drafts_selectTop]
  constructor
  · rintro ⟨i, hi, hd⟩
    split at hd
    · next hw => exact ⟨i, hi, hw, hd⟩
    · cases hd
  · rintro ⟨i, hi, hw, hd⟩
    exact ⟨i, hi, by rwa [if_pos hw]⟩

theorem mem_topNodes_of_child {root i : NodeId} (hroot : s.tree.root? = some root)
    (hi : i ∈ s.tree.children root) : i ∈ s.topNodes := by
  unfold topNodes
  rw [hroot]
  dsimp only
  split
  · next hnil => rw [hnil] at hi; cases hi
  · exact hi

theorem lt_size_of_mem_topNodes (ht : s.tree.WellFormed) {i : Nat} (hi : i ∈ s.topNodes) :
    i < s.tree.size := by
  unfold topNodes SyntaxTree.root? at hi
  by_cases hempty : s.tree.size = 0
  · rw [if_pos hempty] at hi
    cases hi
  · rw [if_neg hempty] at hi
    dsimp only at hi
    split at hi
    · rw [List.mem_singleton.1 hi]
      omega
    · exact (ht.child 0 i hi).2

theorem forall_plan (ht : s.tree.WellFormed) {R : Span → Prop} (hR : Span.Lasting s.source R)
    (hnodes : ∀ i : Nat, i < s.tree.size → R (s.tree.span i)) :
    ∀ d ∈ s.plan.drafts, R d.span := by
  intro d hd
  obtain ⟨i, hi, hw, hd⟩ := mem_drafts_plan.1 hd
  exact forall_emit ht hR hnodes _ (lt_size_of_mem_topNodes ht hi) hw d hd

end Selector

namespace Settings

variable {s : Settings} {f : SourceFile} {stamp : Stamp} {t : SyntaxTree}

/-- The drafts that a run makes chunks of: those with a text. -/
def emitted (s : Settings) (f : SourceFile) (t : SyntaxTree) : List Draft :=
  ((s.view f t).texts (s.selector f t).plan.drafts).map (·.1)

/-- The chunk of the draft at a place among those that a run makes chunks of. -/
def chunkOf (s : Settings) (f : SourceFile) (stamp : Stamp) (t : SyntaxTree) (n : Nat)
    (d : Draft) : Chunk :=
  (s.view f t).render s.config.task (stamp.ids n) stamp.now d (d.span.text t.source)

theorem texts_eq (v : View) (ds : List Draft) :
    v.texts ds = (ds.filter fun d => d.span.Filled v.tree.source).map
      fun d => (d, d.span.text v.tree.source) := by
  unfold View.texts
  rw [List.filter_map]
  congr 1
  apply List.filter_congr
  intro d _
  cases h : Text.isBlankText (d.span.text v.tree.source) <;> simp [Span.Filled, h]

theorem emitted_eq_filter (s : Settings) (f : SourceFile) (t : SyntaxTree) :
    s.emitted f t = (s.selector f t).plan.drafts.filter fun d => d.span.Filled t.source := by
  rw [emitted, texts_eq, List.map_map]
  exact List.map_id _

theorem texts_plan (s : Settings) (f : SourceFile) (t : SyntaxTree) :
    (s.view f t).texts (s.selector f t).plan.drafts =
      (s.emitted f t).map fun d => (d, d.span.text t.source) := by
  rw [emitted_eq_filter]
  exact texts_eq _ _

theorem mem_emitted {d : Draft} :
    d ∈ s.emitted f t ↔ d ∈ (s.selector f t).plan.drafts ∧ d.span.Filled t.source := by
  rw [emitted_eq_filter, List.mem_filter, decide_eq_true_iff]

theorem renderAll_plan (s : Settings) (f : SourceFile) (stamp : Stamp) (t : SyntaxTree) :
    (s.view f t).renderAll s.config.task stamp.ids stamp.now (s.selector f t).plan.drafts =
      (s.emitted f t).mapIdx (s.chunkOf f stamp t) := by
  rw [View.renderAll, texts_plan]
  apply List.ext_getElem
  · simp
  · intro n _ _
    simp [chunkOf]

theorem runTree_of_failure? (h : s.failure? f t = none) :
    s.runTree f stamp t =
      (.chunks ((s.emitted f t).mapIdx (s.chunkOf f stamp t)), s.asked f t) := by
  rw [runTree_eq, h, ← renderAll_plan]

/-- A run that succeeds makes one chunk of each draft that has a text. -/
theorem chunks_of_runTree {cs : List Chunk} {asked : List String}
    (h : s.runTree f stamp t = (.chunks cs, asked)) :
    cs = (s.emitted f t).mapIdx (s.chunkOf f stamp t) := by
  rw [runTree_eq] at h
  split at h
  · cases h
  · injection h with h _
    injection h with h
    rw [← h, renderAll_plan]

theorem getElem?_of_runTree {cs : List Chunk} {asked : List String}
    (h : s.runTree f stamp t = (.chunks cs, asked)) (n : Nat) :
    cs[n]? = (s.emitted f t)[n]?.map (s.chunkOf f stamp t n) := by
  rw [chunks_of_runTree h, List.getElem?_mapIdx]

/-- A draft with a text has its chunk at its own place. -/
theorem exists_chunkOf_of_mem {cs : List Chunk} {asked : List String}
    (h : s.runTree f stamp t = (.chunks cs, asked)) {d : Draft} (hd : d ∈ s.emitted f t) :
    ∃ n, (s.emitted f t)[n]? = some d ∧ cs[n]? = some (s.chunkOf f stamp t n d) := by
  obtain ⟨n, hn⟩ := List.mem_iff_getElem?.1 hd
  refine ⟨n, hn, ?_⟩
  rw [getElem?_of_runTree h, hn, Option.map_some]

/-! ## What a chunk says about its draft -/

@[simp] theorem content_chunkOf (n : Nat) (d : Draft) :
    (s.chunkOf f stamp t n d).content = String.ofList (d.span.text t.source) := rfl

@[simp] theorem lines_chunkOf (n : Nat) (d : Draft) :
    (s.chunkOf f stamp t n d).lines = .of d.span.firstLine d.span.lastLine := rfl

theorem utf8ByteSize_ofList (cs : List Char) :
    (String.ofList cs).utf8ByteSize = Text.byteLength cs := by
  induction cs with
  | nil => rfl
  | cons c cs ih =>
    rw [String.ofList_cons, String.utf8ByteSize_append, String.utf8ByteSize_singleton, ih]
    rfl

@[simp] theorem tokenEstimate_chunkOf (n : Nat) (d : Draft) :
    (s.chunkOf f stamp t n d).tokenEstimate = d.span.tokens t.source :=
  congrArg estimateTokens (utf8ByteSize_ofList _)

@[simp] theorem isOversized_chunkOf (n : Nat) (d : Draft) :
    (s.chunkOf f stamp t n d).metadata.context.isOversized = (d.kind == .fallback) := by
  unfold chunkOf View.render Chunk.of
  dsimp only
  split <;> rfl

end Settings

/-! ## A file with two functions -/

namespace SyntaxTree

/-- Adds named nodes one after another, each with its parent and its bytes. A node that starts
beyond the source is left out. -/
def addAll (t : SyntaxTree) : List (Option NodeId × String × Nat × Nat) → SyntaxTree
  | [] => t
  | (parent, kind, start, stop) :: rest =>
    ((t.push? parent kind true start stop).getD t).addAll rest

theorem Built.addAll {t : SyntaxTree} (h : t.Built)
    (nodes : List (Option NodeId × String × Nat × Nat)) : (t.addAll nodes).Built := by
  induction nodes generalizing t with
  | nil => exact h
  | cons n nodes ih =>
    obtain ⟨parent, kind, start, stop⟩ := n
    unfold SyntaxTree.addAll
    apply ih
    cases hp : t.push? parent kind true start stop with
    | none => exact h
    | some t' => exact h.push hp

end SyntaxTree

namespace Sample

def content : String :=
  "class Account(Base):\n\n  def f():\n    pass\n\n  def g():\n    pass\n"

def file : SourceFile := ⟨content, none, .python⟩

def tree : SyntaxTree :=
  (SyntaxTree.empty (.ofString content) .python).addAll
    [(none, "module", 0, 63), (some 0, "class_definition", 0, 62), (some 1, "class", 0, 5),
     (some 1, "identifier", 6, 13), (some 1, "(", 13, 14), (some 1, "identifier", 14, 18),
     (some 1, ")", 18, 19), (some 1, ":", 19, 20), (some 1, "block", 24, 62),
     (some 8, "function_definition", 24, 41), (some 9, "def", 24, 27), (some 9, "pass", 37, 41),
     (some 8, "function_definition", 45, 62), (some 12, "def", 45, 48),
     (some 12, "pass", 58, 62)]

theorem built_tree : tree.Built := (SyntaxTree.Built.empty _ _).addAll _

/-- Nothing has a class, so the nodes with children are worth a chunk. -/
def settings (limit : Nat) : Settings where
  config := {}
  classifier :=
    { taxonomy := .builtin, overrides := .empty, grammars := { bundled := fun _ => none } }
  parser := fun _ _ => .tree tree
  budget := .ofLimit limit

def stamp : Stamp := ⟨.ofNat 0, .ofNat, ⟨⟨2024, 1, 1⟩, 0, 0, 0, 0⟩⟩

theorem exists_runTree : ∃ asked, (settings 4).runTree file stamp tree =
    (.chunks (((settings 4).emitted file tree).mapIdx ((settings 4).chunkOf file stamp tree)),
      asked) :=
  ⟨_, Settings.runTree_of_failure? (by decide +kernel)⟩

end Sample

end CodeChunks
