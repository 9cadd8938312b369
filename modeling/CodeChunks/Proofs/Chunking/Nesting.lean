import CodeChunks.Proofs.Chunking.Ceilings
import CodeChunks.Proofs.Chunking.Limit

/-!
# How deep chunks are nested

Depth is counted in two ways: from a node up to the root for the nodes that selection starts from,
and one more for each node that is taken apart on the way down. Both come to the same, so a chunk
says as its nesting how many ancestors the node has that it is `AttributedTo`.

On the way down selection never skips a depth: its steps are `Gradual`. So a run that fails on a
node too deep fails on one that is too deep by one.
-/

namespace CodeChunks

/-! ## Steps that skip no depth -/

/-- No node is looked at that is more than one deeper than those looked at before. -/
def Step.Gradual (seen : Nat) : List Step → Prop
  | [] => True
  | .visit depth :: rest => depth ≤ seen + 1 ∧ Gradual (max seen depth) rest
  | .ask _ :: rest => Gradual seen rest
  | .emit :: rest => Gradual seen rest

namespace Step.Gradual

variable {m n : Nat} {steps more : List Step}

theorem mono (h : Gradual m steps) (hmn : m ≤ n) : Gradual n steps := by
  induction steps generalizing m n with
  | nil => trivial
  | cons step steps ih =>
    cases step with
    | ask i => exact ih h hmn
    | visit depth =>
      obtain ⟨hdepth, hrest⟩ := h
      exact ⟨by omega, ih hrest (by omega)⟩
    | emit => exact ih h hmn

theorem append (h : Gradual n steps) (hmore : Gradual n more) : Gradual n (steps ++ more) := by
  induction steps generalizing n with
  | nil => exact hmore
  | cons step steps ih =>
    cases step with
    | ask i => exact ih h hmore
    | visit depth =>
      obtain ⟨hdepth, hrest⟩ := h
      exact ⟨hdepth, ih hrest (hmore.mono (by omega))⟩
    | emit => exact ih h hmore

theorem of_not_visits {p : Plan} (h : ∀ depth, ¬ p.Visits depth) : Gradual n p.steps := by
  obtain ⟨steps, drafts⟩ := p
  dsimp only
  induction steps generalizing n with
  | nil => trivial
  | cons step steps ih =>
    have hrest : ∀ depth, ¬ (⟨steps, drafts⟩ : Plan).Visits depth :=
      fun depth hv => h depth (List.mem_cons_of_mem step hv)
    cases step with
    | ask i => exact ih hrest
    | visit depth => exact absurd List.mem_cons_self (h depth)
    | emit => exact ih hrest

theorem join {ps : List Plan} (h : ∀ p ∈ ps, Gradual n p.steps) :
    Gradual n (Plan.join ps).steps := by
  induction ps with
  | nil => trivial
  | cons p ps ih =>
    obtain ⟨hp, hps⟩ := List.forall_mem_cons.1 h
    rw [Plan.join, Plan.steps_append]
    exact hp.append (ih hps)

end Step.Gradual

namespace Limits

variable {l : Limits} {count depth limit : Nat} {steps : List Step}

theorem allow_eq_depthExceeded {step : Step}
    (h : l.allow count step = .error (.depthExceeded depth limit)) :
    step = .visit depth ∧ limit = l.maxDepth ∧ l.maxDepth < depth := by
  cases step with
  | ask i => cases h
  | visit n =>
    simp only [allow] at h
    split at h
    · rename_i hlt
      cases h
      exact ⟨rfl, rfl, hlt⟩
    · cases h
  | emit =>
    simp only [allow, Meter.countOne] at h
    split at h <;> cases h

/-- What fails for depth is a node that is looked at. If no depth was skipped on the way to it, it
is too deep by one. -/
theorem take_eq_depthExceeded (h : (l.take count steps).2 = some (.depthExceeded depth limit)) :
    .visit depth ∈ steps ∧ limit = l.maxDepth ∧ l.maxDepth < depth ∧
      ∀ seen, seen ≤ l.maxDepth → Step.Gradual seen steps → depth = l.maxDepth + 1 := by
  induction steps generalizing count with
  | nil => cases h
  | cons step steps ih =>
    rw [take] at h
    cases hallow : l.allow count step with
    | error e =>
      rw [hallow] at h
      obtain rfl : e = .depthExceeded depth limit := Option.some.inj h
      obtain ⟨rfl, hlimit, hlt⟩ := allow_eq_depthExceeded hallow
      refine ⟨List.mem_cons_self, hlimit, hlt, fun seen hseen hgradual => ?_⟩
      -- all that was seen is within the limit, and this is at most one deeper
      have hnext : depth ≤ seen + 1 := hgradual.1
      omega
    | ok n =>
      rw [hallow] at h
      obtain ⟨hmem, hlimit, hlt, hgradual⟩ := ih h
      refine ⟨List.mem_cons_of_mem step hmem, hlimit, hlt, fun seen hseen hsteps => ?_⟩
      cases step with
      | ask i => exact hgradual seen hseen hsteps
      | visit k =>
        have hk : k ≤ l.maxDepth := by
          simp only [allow] at hallow
          split at hallow
          · cases hallow
          · omega
        exact hgradual (max seen k) (by omega) hsteps.2
      | emit => exact hgradual seen hseen hsteps

end Limits

namespace Selector

variable {s : Selector}

/-! ## The steps of a plan -/

theorem gradual_siblings {n : Nat} {tail : Tail} {bs : List Branch}
    (hinner : ∀ b ∈ bs, Step.Gradual (n + 1) (s.emit (n + 1) b).steps) :
    Step.Gradual n (s.siblings (n + 1) tail bs).steps := by
  induction bs generalizing tail with
  | nil =>
    rw [siblings]
    exact .of_not_visits (not_visits_close _ _)
  | cons b bs ih =>
    have hrest : ∀ {tail : Tail}, Step.Gradual (n + 1) (s.siblings (n + 1) tail bs).steps :=
      (ih fun c hc => hinner c (List.mem_cons_of_mem b hc)).mono (Nat.le_succ n)
    rw [siblings, Plan.steps_append]
    have hseen : max n (n + 1) = n + 1 := by omega
    refine ⟨Nat.le_refl _, ?_⟩
    -- from the first child on, the depth of the children has been seen
    rw [hseen]
    show Step.Gradual (n + 1) (Plan.steps _)
    split
    · split
      · rw [Plan.steps_append]
        exact (Step.Gradual.of_not_visits (not_visits_place _ _ _)).append hrest
      · rw [Plan.steps_append, Plan.steps_append]
        have hclose : Step.Gradual (n + 1) (s.close (n + 1) tail).steps :=
          .of_not_visits (not_visits_close _ _)
        exact (hclose.append (hinner b List.mem_cons_self)).append hrest
    · rw [Plan.steps_append]
      exact (Step.Gradual.of_not_visits (not_visits_attach _ _)).append hrest

theorem gradual_emit {b : Branch} (hb : s.tree.Mirrors b) (depth : Nat) :
    Step.Gradual depth (s.emit depth b).steps := by
  induction hb generalizing depth with
  | @mk i cs _ _ _ ih =>
    have hasks : Step.Gradual depth (Plan.ofSteps (cs.map fun b => .ask b.node)).steps :=
      .of_not_visits (Plan.not_visits_asks cs)
    rw [emit]
    split
    · trivial
    · dsimp only
      split
      · rw [Plan.steps_append]
        exact hasks.append (gradual_siblings fun c hc => ih c hc (depth + 1))
      · rw [Plan.steps_append]
        exact hasks.append trivial

theorem depth_le_one_of_mem_topNodes (ht : s.tree.WellFormed) (hl : s.tree.Linked) {i : NodeId}
    (hi : i ∈ s.topNodes) : s.tree.depth i ≤ 1 := by
  unfold topNodes SyntaxTree.root? at hi
  by_cases hempty : s.tree.size = 0
  · rw [if_pos hempty] at hi
    cases hi
  · rw [if_neg hempty] at hi
    dsimp only at hi
    have hroot : s.tree.depth 0 = 0 := rfl
    split at hi
    · rw [List.mem_singleton.1 hi, hroot]
      omega
    · have hchild := hl.depth_child ht hi
      omega

theorem gradual_selectTop (ht : s.tree.WellFormed) (hl : s.tree.Linked) {i : NodeId}
    (hi : i ∈ s.topNodes) : Step.Gradual 0 (s.selectTop i).steps := by
  have hmirrors := ht.mirrors_branch (lt_size_of_mem_topNodes ht hi)
  have hdepth := depth_le_one_of_mem_topNodes ht hl hi
  unfold selectTop
  dsimp only
  rw [Plan.steps_append]
  refine ⟨by omega, ?_⟩
  show Step.Gradual (max 0 (s.tree.depth i)) (Plan.steps _)
  rw [Nat.zero_max]
  split
  · exact gradual_emit hmirrors _
  · trivial

/-- Selection skips no depth. -/
theorem gradual_plan (ht : s.tree.WellFormed) (hl : s.tree.Linked) :
    Step.Gradual 0 s.plan.steps := by
  apply Step.Gradual.join
  intro p hp
  obtain ⟨i, hi, rfl⟩ := List.mem_map.1 hp
  exact gradual_selectTop ht hl hi

/-! ## The depth of drafts -/

theorem depth_of_mem_emit (ht : s.tree.WellFormed) (hl : s.tree.Linked) {i : Nat}
    (hi : i < s.tree.size) (hw : s.isWorthy i = true) :
    ∀ d ∈ (s.emit (s.tree.depth i) (s.tree.branch i)).drafts, d.depth = s.tree.depth d.node := by
  refine emit_induct (P := fun depth i ds => s.tree.depth i = depth →
    ∀ d ∈ ds, d.depth = s.tree.depth d.node) ht ?_ ?_ ?_ _ hi hw rfl
  · intro depth i _ _ _ hdepth d hd
    rw [List.mem_singleton.1 hd]
    exact hdepth.symm
  · intro depth i _ _ _ _ hdepth d hd
    rw [List.mem_singleton.1 hd]
    exact hdepth.symm
  · intro depth i ds _ _ _ _ hsplit hdepth e he
    obtain ⟨d, hd, hg⟩ := Draft.exists_grows_of_mem_closeGaps he
    obtain ⟨js, es, hjs, hrun, hd⟩ := hsplit.exists_run hd
    have hchild : ∀ c ∈ js, s.tree.depth c = depth + 1 := by
      intro c hc
      rw [hl.depth_child ht (hjs.subset hc), hdepth]
    rw [hg.node, hg.depth]
    cases hrun with
    | node =>
      rw [List.mem_singleton.1 hd]
      exact (hchild _ (by simp)).symm
    | inner _ _ hin => exact hin (hchild _ (List.mem_singleton_self _)) d hd
    | glue =>
      rw [List.mem_singleton.1 hd]
      exact (hchild _ List.mem_cons_self).symm
    | blank => cases hd

theorem depth_of_mem_plan (ht : s.tree.WellFormed) (hl : s.tree.Linked) {d : Draft}
    (hd : d ∈ s.plan.drafts) : d.depth = s.tree.depth d.node := by
  obtain ⟨i, hi, hw, hd⟩ := mem_drafts_plan.1 hd
  exact depth_of_mem_emit ht hl (lt_size_of_mem_topNodes ht hi) hw d hd

/-! ## Drafts are of nodes that were looked at -/

theorem visits_siblings_of_ne_nil {depth : Nat} {tail : Tail} {bs : List Branch} (hbs : bs ≠ []) :
    (s.siblings depth tail bs).Visits depth := by
  obtain ⟨b, bs, rfl⟩ := List.exists_cons_of_ne_nil hbs
  rw [siblings, Plan.visits_append]
  exact .inl List.mem_cons_self

theorem visits_siblings_of_emit {depth n : Nat} {tail : Tail} {bs : List Branch} {b : Branch}
    (hb : b ∈ bs) (hw : s.isWorthy b.node = true) (hfit : s.fits (s.tree.span b.node) = false)
    (hv : (s.emit depth b).Visits n) : (s.siblings depth tail bs).Visits n := by
  induction bs generalizing tail with
  | nil => cases hb
  | cons c bs ih =>
    rw [siblings, Plan.visits_append]
    right
    rcases List.mem_cons.1 hb with rfl | hb
    · rw [if_pos hw, if_neg (by rw [hfit]; decide)]
      exact Plan.visits_append.2 (.inl (Plan.visits_append.2 (.inr hv)))
    · split
      · split
        · exact Plan.visits_append.2 (.inr (ih hb))
        · exact Plan.visits_append.2 (.inr (ih hb))
      · exact Plan.visits_append.2 (.inr (ih hb))

/-- The drafts of a row of children are as deep as something that was looked at. -/
theorem visits_of_mem_siblings {depth : Nat} {bs : List Branch} (hbs : bs ≠ [])
    (hinner : ∀ b ∈ bs, ∀ d ∈ (s.emit depth b).drafts,
      d.depth = depth ∨ (s.emit depth b).Visits d.depth) :
    ∀ d ∈ (s.siblings depth .idle bs).drafts, (s.siblings depth .idle bs).Visits d.depth := by
  intro d hd
  have hvisit : (s.siblings depth .idle bs).Visits depth := visits_siblings_of_ne_nil hbs
  have hsplit : Split s (fun _ ds => ∀ d ∈ ds, (s.siblings depth .idle bs).Visits d.depth) depth
      (bs.map Branch.node) (s.siblings depth .idle bs).drafts := by
    refine split_siblings .idle bs fun b hb hw hfit e he => ?_
    rcases hinner b hb e he with hdepth | hv
    · rw [hdepth]
      exact hvisit
    · exact visits_siblings_of_emit hb hw hfit hv
  obtain ⟨js, es, -, hrun, hd⟩ := hsplit.exists_run hd
  cases hrun with
  | node =>
    rw [List.mem_singleton.1 hd]
    exact hvisit
  | inner _ _ hin => exact hin d hd
  | glue =>
    rw [List.mem_singleton.1 hd]
    exact hvisit
  | blank => cases hd

theorem visits_of_mem_emit {b : Branch} (hb : s.tree.Mirrors b) (depth : Nat) :
    ∀ d ∈ (s.emit depth b).drafts, d.depth = depth ∨ (s.emit depth b).Visits d.depth := by
  induction hb generalizing depth with
  | @mk i cs _ _ _ ih =>
    intro d hd
    rw [emit] at hd ⊢
    split at hd
    · rw [List.mem_singleton.1 hd]
      exact .inl rfl
    · next hfit =>
      rw [if_neg hfit]
      dsimp only at hd ⊢
      split at hd
      · next hsome =>
        rw [if_pos hsome, Plan.visits_append]
        have hne : cs ≠ [] := by
          rintro rfl
          cases hsome
        rw [Plan.drafts_append, Plan.drafts_ofSteps, List.nil_append] at hd
        obtain ⟨e, he, hg⟩ := Draft.exists_grows_of_mem_closeGaps hd
        rw [hg.depth]
        exact .inr (.inr (visits_of_mem_siblings hne (fun c hc => ih c hc (depth + 1)) e he))
      · rw [Plan.drafts_append, Plan.drafts_ofSteps, List.nil_append] at hd
        rw [List.mem_singleton.1 hd]
        exact .inl rfl

theorem visits_of_mem_plan (ht : s.tree.WellFormed) {d : Draft} (hd : d ∈ s.plan.drafts) :
    s.plan.Visits d.depth := by
  obtain ⟨i, hi, hw, hd⟩ := mem_drafts_plan.1 hd
  have hmirrors := ht.mirrors_branch (lt_size_of_mem_topNodes ht hi)
  refine Plan.visits_join.2 ⟨s.selectTop i, List.mem_map_of_mem hi, ?_⟩
  unfold selectTop
  dsimp only
  rw [if_pos hw, Plan.visits_append]
  rcases visits_of_mem_emit hmirrors _ d hd with hdepth | hv
  · rw [hdepth]
    exact .inl List.mem_cons_self
  · exact .inr hv

/-- A draft that took in neighbours stands for a child. -/
theorem Made.exists_parent (hl : s.tree.Linked) {d : Draft} (h : s.Made d)
    (hglue : 0 < d.glueBytes) : ∃ p, s.tree.parent? d.node = some p := by
  cases h with
  | whole => cases hglue
  | fallback => cases hglue
  | @joined depth p i pre post hjoined =>
    have hmem : i ∈ s.tree.children p := hjoined.subset (by simp)
    exact ⟨p, (hl.mem_children_iff p i).1 hmem⟩
  | glue => cases hglue

end Selector

/-! ## The nesting of chunks -/

namespace Draft

/-- The node that the chunk of a draft is attributed to. -/
def AttributedTo (d : Draft) (t : SyntaxTree) (i : NodeId) : Prop :=
  if d.isFragment t then t.parent? d.node = some i else d.node = i

variable {d : Draft} {t : SyntaxTree} {i : NodeId}

theorem glueBytes_pos_of_isFragment (h : d.isFragment t = true) : 0 < d.glueBytes := by
  simp only [isFragment, Bool.and_eq_true, decide_eq_true_iff] at h
  exact h.1.2

theorem AttributedTo.attribution (h : d.AttributedTo t i) :
    d.attribution t = (i, d.isFragment t) := by
  unfold AttributedTo at h
  unfold Draft.attribution
  cases hf : d.isFragment t with
  | true =>
    rw [if_pos hf] at h
    rw [h]
    rfl
  | false =>
    rw [if_neg (by rw [hf]; decide)] at h
    rw [h]
    split <;> rfl

theorem AttributedTo.depth_eq (hl : t.Linked) (ht : t.WellFormed) (h : d.AttributedTo t i)
    (hd : d.depth = t.depth d.node) :
    (if d.isFragment t then d.depth - 1 else d.depth) = t.depth i := by
  unfold AttributedTo at h
  split at h
  · next hf =>
    have hchild : d.node ∈ t.children i := (hl.mem_children_iff i d.node).2 h
    rw [if_pos hf, hd, hl.depth_child ht hchild, Nat.add_sub_cancel]
  · next hf => rw [if_neg hf, hd, h]

end Draft

namespace Settings

variable {s : Settings} {f : SourceFile} {stamp : Stamp} {t : SyntaxTree}

theorem kind_chunkOf {d : Draft} {i : NodeId} (h : d.AttributedTo t i) (n : Nat) :
    (s.chunkOf f stamp t n d).metadata.context.kind = some (t.kind i) := by
  have hattr : d.attribution (s.view f t).tree = (i, d.isFragment t) := h.attribution
  unfold chunkOf View.render Chunk.of
  rw [hattr]
  dsimp only
  split <;> rfl

theorem nesting_chunkOf {d : Draft} {i : NodeId} (h : d.AttributedTo t i) (n : Nat) :
    (s.chunkOf f stamp t n d).metadata.context.nesting =
      some (if d.isFragment t then d.depth - 1 else d.depth) := by
  have hattr : d.attribution (s.view f t).tree = (i, d.isFragment t) := h.attribution
  unfold chunkOf View.render Chunk.of
  rw [hattr]
  dsimp only
  split <;> rfl

theorem exists_attributedTo (ht : t.Built) {d : Draft}
    (hd : d ∈ (s.selector f t).plan.drafts) :
    ∃ made i, (s.selector f t).Made made ∧ made.Grows d ∧ d.AttributedTo t i := by
  obtain ⟨top, htop, hw, hemit⟩ := Selector.mem_drafts_plan.1 hd
  obtain ⟨made, hmade, hg⟩ := Selector.exists_made_of_mem_emit (s := s.selector f t) ht.wellFormed
    _ (Selector.lt_size_of_mem_topNodes ht.wellFormed htop) hw d hemit
  unfold Draft.AttributedTo
  cases hf : d.isFragment t with
  | true =>
    have hglue : 0 < made.glueBytes := by
      rw [← hg.glueBytes]
      exact Draft.glueBytes_pos_of_isFragment hf
    obtain ⟨p, hp⟩ := hmade.exists_parent (s := s.selector f t) ht.linked hglue
    rw [← hg.node] at hp
    exact ⟨made, p, hmade, hg, hp⟩
  | false => exact ⟨made, d.node, hmade, hg, rfl⟩

theorem nesting_edgeCaseChunk (counter : TokenCounter) (f : SourceFile) (lines : Nat)
    (edgeCase : String) (stamp : Stamp) :
    (edgeCaseChunk counter f lines edgeCase stamp).metadata.context.edgeCase.isSome = true ∧
      (edgeCaseChunk counter f lines edgeCase stamp).metadata.context.nesting = none :=
  ⟨rfl, rfl⟩

/-- A run chunks the tree that the parser makes, or has nothing to do with it: its chunks are of
contents that need no parser and have no nesting, and its failures are no breaches. -/
theorem run_cases (stamp : Stamp) (hparser : s.parser f.content f.language = .tree t) :
    s.run f stamp = s.runTree f stamp t ∨
    (∀ c ∈ (s.run f stamp).1.chunkList, c.metadata.context.edgeCase.isSome = true ∧
      c.metadata.context.nesting = none) ∧
    ∀ e, (s.run f stamp).1 = .failed e → e.isBreach = false := by
  unfold run
  rw [hparser]
  cases Content.ofText f.content.toList with
  | nothing =>
    refine .inr ⟨?_, fun e he => by cases he⟩
    simp
  | blank lines =>
    refine .inr ⟨?_, fun e he => by cases he⟩
    simp [nesting_edgeCaseChunk]
  | binary =>
    refine .inr ⟨?_, fun e he => ?_⟩
    · simp [Outcome.chunkList]
    · rw [← Outcome.failed.inj he]
      rfl
  | singleLine =>
    refine .inr ⟨?_, fun e he => by cases he⟩
    simp [nesting_edgeCaseChunk]
  | code => exact .inl rfl

theorem depth_le_of_runTree (ht : t.Built) {cs : List Chunk}
    (hrun : (s.runTree f stamp t).1 = .chunks cs) {d : Draft}
    (hd : d ∈ (s.selector f t).plan.drafts) : d.depth ≤ s.config.maxDepth := by
  rw [fst_runTree] at hrun
  split at hrun
  · cases hrun
  · next hnone =>
    have hkept := (Limits.snd_take_eq_none_iff (Nat.zero_le _)).1 (failure?_eq_none_iff.1 hnone).1
    exact hkept.1 _ (Selector.visits_of_mem_plan (s := s.selector f t) ht.wellFormed hd)

theorem depth_of_runTree (ht : t.Built) {depth limit : Nat}
    (hrun : (s.runTree f stamp t).1 = .failed (.depthExceeded depth limit)) :
    limit = s.config.maxDepth ∧ depth = s.config.maxDepth + 1 ∧
      ∃ i : Nat, i < t.size ∧ t.depth i = depth := by
  have hwf : (s.selector f t).tree.WellFormed := ht.wellFormed
  have hlinked : (s.selector f t).tree.Linked := ht.linked
  rw [fst_runTree] at hrun
  split at hrun
  · next e he =>
    obtain rfl : e = .depthExceeded depth limit := Outcome.failed.inj hrun
    rcases cases_of_failure? he with hbroken | ⟨-, htime⟩
    · obtain ⟨hvisit, hlimit, -, hnext⟩ := Limits.take_eq_depthExceeded hbroken
      exact ⟨hlimit, hnext 0 (Nat.zero_le _) (Selector.gradual_plan hwf hlinked),
        Selector.exists_of_visits_plan hwf hlinked hvisit⟩
    · obtain ⟨_, htimeout, -⟩ := Meter.eq_timeout_of_inTime htime
      cases htimeout
  · cases hrun

/-- A chunk says as its nesting how many ancestors the node has that it is attributed to, and never
more than are allowed. A run that fails for depth fails at a node with one ancestor more than are
allowed, and on no tree without such a node. -/
theorem nesting_eq_depth (s : Settings) (f : SourceFile) (stamp : Stamp) (t : SyntaxTree)
    (hparser : s.parser f.content f.language = .tree t) (ht : t.Built) :
    (∀ cs, (s.run f stamp).1 = .chunks cs → ∀ (n : Nat) (c : Chunk), cs[n]? = some c →
      (c.metadata.context.edgeCase.isSome = true ∧ c.metadata.context.nesting = none) ∨
      ∃ made d i, (s.selector f t).Made made ∧ made.Grows d ∧ (s.emitted f t)[n]? = some d ∧
        d.AttributedTo t i ∧ c.metadata.context.kind = some (t.kind i) ∧
        c.metadata.context.nesting = some (t.depth i) ∧ t.depth i ≤ s.config.maxDepth) ∧
    (∀ depth limit, (s.run f stamp).1 = .failed (.depthExceeded depth limit) →
      limit = s.config.maxDepth ∧ depth = s.config.maxDepth + 1 ∧
        ∃ i : Nat, i < t.size ∧ t.depth i = depth) ∧
    ((∀ i : Nat, i < t.size → t.depth i ≤ s.config.maxDepth) →
      ∀ depth limit, (s.run f stamp).1 ≠ .failed (.depthExceeded depth limit)) := by
  rcases run_cases stamp hparser with hrun | ⟨hedge, hnone⟩
  · rw [hrun]
    refine ⟨fun cs hcs n c hc => .inr ?_, fun depth limit => depth_of_runTree ht, ?_⟩
    · have hchunks : s.runTree f stamp t = (.chunks cs, (s.runTree f stamp t).2) :=
        Prod.ext hcs rfl
      rw [getElem?_of_runTree hchunks, Option.map_eq_some_iff] at hc
      obtain ⟨d, hd, rfl⟩ := hc
      have hplan := (mem_emitted.1 (List.mem_of_getElem? hd)).1
      obtain ⟨made, i, hmade, hg, hi⟩ := exists_attributedTo ht hplan
      have hdepth := hi.depth_eq ht.linked ht.wellFormed
        (Selector.depth_of_mem_plan (s := s.selector f t) ht.wellFormed ht.linked hplan)
      refine ⟨made, d, i, hmade, hg, hd, hi, kind_chunkOf hi n, ?_, ?_⟩
      · rw [nesting_chunkOf hi, hdepth]
      · have hle := depth_le_of_runTree ht hcs hplan
        rw [← hdepth]
        split <;> omega
    · intro hall depth limit hfailed
      obtain ⟨-, hdepth, i, hi, hdi⟩ := depth_of_runTree ht hfailed
      have := hall i hi
      omega
  · refine ⟨fun cs hcs n c hc => .inl ?_, fun depth limit hfailed => ?_,
      fun _ depth limit hfailed => ?_⟩
    · rw [hcs] at hedge
      exact hedge c (List.mem_of_getElem? hc)
    · cases hnone _ hfailed
    · cases hnone _ hfailed

end Settings

namespace Sample

def callFile : SourceFile := ⟨"compute(x)\nfinish(y)\n", none, .python⟩

/-- A call whose name outweighs its arguments, with a block after them. -/
def callTree : SyntaxTree :=
  (SyntaxTree.empty (.ofString callFile.content) .python).addAll
    [(none, "module", 0, 21), (some 0, "call", 0, 20), (some 1, "identifier", 0, 7),
     (some 1, "arguments", 7, 10), (some 3, "identifier", 8, 9), (some 1, "block", 11, 20),
     (some 5, "identifier", 11, 17)]

theorem built_callTree : callTree.Built := (SyntaxTree.Built.empty _ _).addAll _

def callSettings (maxDepth : Nat) : Settings :=
  { settings 3 with config.maxDepth := maxDepth, parser := fun _ _ => .tree callTree }

def callDraft : Draft := ⟨⟨0, 10, 1, 1⟩, 3, 2, .node, 7⟩

theorem attributedTo_callDraft {i : NodeId} : callDraft.AttributedTo callTree i ↔ i = 1 := by
  have hf : callDraft.isFragment callTree = true := by decide +kernel
  have hp : callTree.parent? callDraft.node = some 1 := by decide +kernel
  rw [Draft.AttributedTo, if_pos hf, hp, Option.some.injEq]
  exact eq_comm

theorem run_callFile (maxDepth : Nat) : (callSettings maxDepth).run callFile stamp =
    (callSettings maxDepth).runTree callFile stamp callTree := by
  have hcode : Content.ofText callFile.content.toList = .code := by decide +kernel
  unfold Settings.run
  rw [hcode]
  rfl

theorem steps_callTree (maxDepth : Nat) :
    ((callSettings maxDepth).selector callFile callTree).plan.steps =
      [.visit 1, .ask 1, .ask 2, .ask 3, .ask 5, .visit 2, .visit 2, .emit, .visit 2, .emit] := by
  show ((callSettings 0).selector callFile callTree).plan.steps = _
  decide +kernel

end Sample

namespace Settings

/-- The arguments of a call are a fragment of it together with its name, so their chunk has the
nesting of the call. Where nodes may have one ancestor only, the name of the call is too deep. -/
theorem nesting_of_call :
    (∃ cs c, ((Sample.callSettings 2).run Sample.callFile Sample.stamp).1 = .chunks cs ∧
      cs[0]? = some c ∧ c.metadata.context.kind = some "call" ∧
      c.metadata.context.nesting = some 1) ∧
    ((Sample.callSettings 1).run Sample.callFile Sample.stamp).1 = .failed (.depthExceeded 2 1) ∧
    (∃ i : Nat, i < Sample.callTree.size ∧ Sample.callTree.depth i = 2) ∧
    ∀ depth limit, ((Sample.callSettings 3).run Sample.callFile Sample.stamp).1 ≠
      .failed (.depthExceeded depth limit) := by
  have hall := fun maxDepth => nesting_eq_depth (Sample.callSettings maxDepth) Sample.callFile
    Sample.stamp Sample.callTree rfl Sample.built_callTree
  have hfailed : ((Sample.callSettings 1).run Sample.callFile Sample.stamp).1 =
      .failed (.depthExceeded 2 1) := by
    rw [Sample.run_callFile, fst_runTree, failure?, inTime, Sample.steps_callTree]
    rfl
  refine ⟨?_, hfailed, ((hall 1).2.1 2 1 hfailed).2.2, (hall 3).2.2 (by decide +kernel)⟩
  have hnone : (Sample.callSettings 2).failure? Sample.callFile Sample.callTree = none := by
    rw [failure?, inTime, Sample.steps_callTree]
    rfl
  have hrun := @runTree_of_failure? _ _ Sample.stamp _ hnone
  have hdraft : ((Sample.callSettings 2).emitted Sample.callFile Sample.callTree)[0]? =
      some Sample.callDraft := by decide +kernel
  have hc := getElem?_of_runTree hrun 0
  rw [hdraft, Option.map_some] at hc
  have hchunks := congrArg Prod.fst ((Sample.run_callFile 2).trans hrun)
  refine ⟨_, _, hchunks, hc, ?_⟩
  rcases (hall 2).1 _ hchunks 0 _ hc with
    ⟨-, hedge⟩ | ⟨_, d, i, -, -, hd, hi, hkind, hnesting, -⟩
  · rw [nesting_chunkOf (Sample.attributedTo_callDraft.2 rfl)] at hedge
    cases hedge
  · obtain rfl : Sample.callDraft = d := Option.some.inj (hdraft.symm.trans hd)
    obtain rfl := Sample.attributedTo_callDraft.1 hi
    rw [hkind, hnesting]
    decide +kernel

end Settings

end CodeChunks
