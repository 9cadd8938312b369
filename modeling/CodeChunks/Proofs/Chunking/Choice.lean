import CodeChunks.Proofs.Chunking.Emitted

/-!
# The nodes that are chosen

Which nodes become drafts is settled by a plain recursion over the tree, `Selector.chosen`, that
knows nothing of neighbours not worth a chunk. Selection looks at the children of a node one after
another and carries what is open from one to the next; leaving out the drafts of children that no
draft took in, the nodes of its drafts (`choices`) are those of the recursion, in the same order.
-/

namespace CodeChunks

/-! ## Chosen nodes of drafts -/

namespace Draft

/-- The nodes of drafts, with their kinds, without children that no draft took in. -/
def choices (ds : List Draft) : List (NodeId × DraftKind) :=
  (ds.filter (·.kind ≠ .glue)).map fun d => (d.node, d.kind)

@[simp] theorem choices_nil : choices [] = [] := rfl

@[simp] theorem choices_append (ds es : List Draft) :
    choices (ds ++ es) = choices ds ++ choices es := by
  simp [choices]

theorem mem_choices {ds : List Draft} {d : Draft} (hd : d ∈ ds) (hk : d.kind ≠ .glue) :
    (d.node, d.kind) ∈ choices ds :=
  List.mem_map.2 ⟨d, List.mem_filter.2 ⟨hd, decide_eq_true hk⟩, rfl⟩

theorem choices_of_grows {ds es : List Draft} (h : List.Forall₂ Grows ds es) :
    choices es = choices ds := by
  induction h with
  | nil => rfl
  | cons hg _ ih =>
    unfold choices at ih ⊢
    rw [List.filter_cons, List.filter_cons, hg.kind]
    split
    · rw [List.map_cons, List.map_cons, hg.node, hg.kind, ih]
    · exact ih

theorem choices_closeGaps (s : Source) (whole : Span) (ds : List Draft) :
    choices (closeGaps s whole ds) = choices ds :=
  choices_of_grows (grows_closeGaps s whole ds)

end Draft

namespace Selector

/-! ## The recursion -/

/-- The nodes chosen for a node worth a chunk: itself if it fits, those chosen for its children
worth a chunk if there are any, and else itself as a fallback. -/
def chosen (s : Selector) (ht : s.tree.WellFormed) (i : Nat) : List (NodeId × DraftKind) :=
  if s.fits (s.tree.span i) then [(i, .node)]
  else if (s.tree.children i).filter s.isWorthy = [] then [(i, .fallback)]
  else ((s.tree.children i).filter s.isWorthy).attach.flatMap fun c =>
    have := ht.child i c.1 (List.mem_filter.1 c.2).1
    s.chosen ht c.1
termination_by s.tree.size - i

/-- The nodes chosen for a tree: those for the children of the root that are worth a chunk, or for
the root if it has no children. -/
def chosenAll (s : Selector) (ht : s.tree.WellFormed) : List (NodeId × DraftKind) :=
  match s.tree.root? with
  | none => []
  | some root =>
    if s.tree.children root = [] then if s.isWorthy root then s.chosen ht root else []
    else ((s.tree.children root).filter s.isWorthy).flatMap (s.chosen ht)

variable {s : Selector} {Inner : NodeId → List Draft → Prop} {depth : Nat}
  {ht : s.tree.WellFormed} {i : Nat}

theorem chosen_of_fits (hfit : s.fits (s.tree.span i) = true) :
    s.chosen ht i = [(i, .node)] := by
  rw [chosen, if_pos hfit]

theorem chosen_of_forall (hfit : s.fits (s.tree.span i) = false)
    (hnone : ∀ c ∈ s.tree.children i, s.isWorthy c = false) :
    s.chosen ht i = [(i, .fallback)] := by
  have hnil : (s.tree.children i).filter s.isWorthy = [] :=
    List.filter_eq_nil_iff.2 fun c hc => by simp [hnone c hc]
  rw [chosen, if_neg (by simp [hfit]), if_pos hnil]

theorem chosen_of_exists (hfit : s.fits (s.tree.span i) = false)
    (hsome : ∃ c ∈ s.tree.children i, s.isWorthy c = true) :
    s.chosen ht i = ((s.tree.children i).filter s.isWorthy).flatMap (s.chosen ht) := by
  obtain ⟨c, hc, hw⟩ := hsome
  have hne : (s.tree.children i).filter s.isWorthy ≠ [] :=
    List.ne_nil_of_mem (List.mem_filter.2 ⟨hc, hw⟩)
  rw [chosen, if_neg (by simp [hfit]), if_neg hne]
  simp

/-- A fallback does not fit and has no child worth a chunk. -/
theorem of_fallback_mem_chosen {j : NodeId} (h : (j, .fallback) ∈ s.chosen ht i) :
    s.fits (s.tree.span j) = false ∧ ∀ c ∈ s.tree.children j, s.isWorthy c = false := by
  induction i using chosen.induct s ht with
  | case1 i hfit =>
    rw [chosen_of_fits hfit] at h
    simp at h
  | case2 i hfit hnil =>
    have hnone : ∀ c ∈ s.tree.children i, s.isWorthy c = false := by
      simpa [List.filter_eq_nil_iff] using hnil
    rw [chosen_of_forall (by simpa using hfit) hnone] at h
    obtain rfl : j = i := by simpa using h
    exact ⟨by simpa using hfit, hnone⟩
  | case3 i hfit hne ih =>
    obtain ⟨c, hc⟩ := List.exists_mem_of_ne_nil _ hne
    obtain ⟨hc, hw⟩ := List.mem_filter.1 hc
    rw [chosen_of_exists (by simpa using hfit) ⟨c, hc, hw⟩, List.mem_flatMap] at h
    obtain ⟨b, hb, hj⟩ := h
    exact ih ⟨b, hb⟩ hj

theorem chosenAll_eq (ht : s.tree.WellFormed) :
    s.chosenAll ht = (s.topNodes.filter s.isWorthy).flatMap (s.chosen ht) := by
  unfold chosenAll topNodes
  cases s.tree.root? with
  | none => rfl
  | some root =>
    dsimp only
    split
    · next hnil =>
      rw [hnil]
      cases hw : s.isWorthy root <;> simp [hw]
    · next hne =>
      split
      · next hnil => exact absurd hnil hne
      · rfl

/-! ## Selection and the recursion -/

theorem Run.choices {is : List NodeId} {ds : List Draft} (h : Run s Inner depth is ds)
    (hinner : ∀ i ds, Inner i ds → Draft.choices ds = s.chosen ht i) :
    Draft.choices ds = (is.filter s.isWorthy).flatMap (s.chosen ht) := by
  cases h with
  | @node pre post i hw hfit hall _ =>
    have hpre : pre.filter s.isWorthy = [] :=
      List.filter_eq_nil_iff.2 fun j hj => by simp [hall j (List.mem_append_left _ hj)]
    have hpost : post.filter s.isWorthy = [] :=
      List.filter_eq_nil_iff.2 fun j hj => by simp [hall j (List.mem_append_right _ hj)]
    rw [List.filter_append, List.filter_cons_of_pos hw, hpre, hpost, List.nil_append,
      List.flatMap_singleton, chosen_of_fits hfit]
    rfl
  | inner hw _ hin =>
    rw [List.filter_cons_of_pos hw, List.filter_nil, List.flatMap_singleton]
    exact hinner _ _ hin
  | @glue i is hall _ =>
    rw [List.filter_eq_nil_iff.2 fun j hj => by simp [hall j hj]]
    rfl
  | @blank i is hall _ =>
    rw [List.filter_eq_nil_iff.2 fun j hj => by simp [hall j hj]]
    rfl

theorem Split.choices {is : List NodeId} {ds : List Draft} (h : Split s Inner depth is ds)
    (hinner : ∀ i ds, Inner i ds → Draft.choices ds = s.chosen ht i) :
    Draft.choices ds = (is.filter s.isWorthy).flatMap (s.chosen ht) := by
  induction h with
  | nil => rfl
  | cons hrun _ ih =>
    rw [Draft.choices_append, List.filter_append, List.flatMap_append, hrun.choices hinner, ih]

/-- The drafts of a node are those that the recursion chooses. -/
theorem choices_emit (ht : s.tree.WellFormed) (depth : Nat) {i : Nat} (hi : i < s.tree.size)
    (hw : s.isWorthy i = true) :
    Draft.choices (s.emit depth (s.tree.branch i)).drafts = s.chosen ht i := by
  refine emit_induct (P := fun _ i ds => Draft.choices ds = s.chosen ht i) ht ?_ ?_ ?_ depth hi hw
  · intro depth i _ _ hfit
    rw [chosen_of_fits hfit]
    rfl
  · intro depth i _ _ hfit hnone
    rw [chosen_of_forall hfit hnone]
    rfl
  · intro depth i ds _ _ hfit hsome hsplit
    rw [Draft.choices_closeGaps, chosen_of_exists hfit hsome]
    exact hsplit.choices fun _ _ h => h

theorem choices_plan (ht : s.tree.WellFormed) :
    Draft.choices s.plan.drafts = s.chosenAll ht := by
  rw [drafts_plan, chosenAll_eq]
  have hsize : ∀ i ∈ s.topNodes, i < s.tree.size := fun i => lt_size_of_mem_topNodes ht
  generalize s.topNodes = is at hsize ⊢
  induction is with
  | nil => rfl
  | cons i is ih =>
    rw [List.flatMap_cons, Draft.choices_append,
      ih fun j hj => hsize j (List.mem_cons_of_mem _ hj), drafts_selectTop]
    split
    · next hw =>
      rw [List.filter_cons_of_pos hw, List.flatMap_cons,
        choices_emit ht _ (hsize i List.mem_cons_self) hw]
    · next hw => rw [List.filter_cons_of_neg hw, Draft.choices_nil, List.nil_append]

theorem of_fallback_mem_plan (ht : s.tree.WellFormed) {d : Draft} (hd : d ∈ s.plan.drafts)
    (hk : d.kind = .fallback) : s.fits (s.tree.span d.node) = false ∧
      ∀ c ∈ s.tree.children d.node, s.isWorthy c = false := by
  have hmem := Draft.mem_choices hd (by simp [hk])
  rw [choices_plan ht, chosenAll_eq, List.mem_flatMap, hk] at hmem
  obtain ⟨i, _, hi⟩ := hmem
  exact of_fallback_mem_chosen hi

end Selector

namespace Settings

variable {s : Settings} {f : SourceFile} {stamp : Stamp} {t : SyntaxTree} {cs : List Chunk}
  {asked : List String}

theorem wellFormed_selector (s : Settings) (f : SourceFile) (ht : t.Built) :
    (s.selector f t).tree.WellFormed := ht.wellFormed

/-- A run that succeeds makes its chunks of drafts that are, in order, those of the nodes that the
recursion chooses, with nodes not worth a chunk put between them. A fallback is a node that does
not fit and has no child worth a chunk. -/
theorem choices_eq_chosenAll (ht : t.Built) (hrun : s.runTree f stamp t = (.chunks cs, asked)) :
    cs = (s.view f t).renderAll s.config.task stamp.ids stamp.now
      (s.selector f t).plan.drafts ∧
    Draft.choices (s.selector f t).plan.drafts =
      (s.selector f t).chosenAll (s.wellFormed_selector f ht) ∧
    ∀ d ∈ (s.selector f t).plan.drafts, d.kind = .fallback →
      (s.selector f t).fits (t.span d.node) = false ∧
        ∀ c ∈ t.children d.node, (s.selector f t).isWorthy c = false := by
  refine ⟨?_, Selector.choices_plan ht.wellFormed,
    fun d hd hk => Selector.of_fallback_mem_plan ht.wellFormed hd hk⟩
  rw [renderAll_plan]
  exact chunks_of_runTree hrun

/-- Of a class that does not fit the two functions in its block are chosen. -/
theorem class_choices : ∃ cs asked,
    (Sample.settings 4).runTree Sample.file Sample.stamp Sample.tree = (.chunks cs, asked) ∧
      ((Sample.settings 4).selector Sample.file Sample.tree).chosenAll
        (wellFormed_selector _ _ Sample.built_tree) = [(9, .node), (12, .node)] := by
  obtain ⟨asked, hrun⟩ := Sample.exists_runTree
  have h := choices_eq_chosenAll Sample.built_tree hrun
  have hchoices : Draft.choices ((Sample.settings 4).selector Sample.file Sample.tree).plan.drafts =
      [(9, .node), (12, .node)] := by decide +kernel
  exact ⟨_, asked, hrun, h.2.1.symm.trans hchoices⟩

end Settings

end CodeChunks
