import CodeChunks.Proofs.Chunking.Anchors
import CodeChunks.Proofs.Chunking.Coverage

/-!
# The order of chunks

In a tree whose nodes lie in each other and follow each other (`SyntaxTree.Ordered`), the chunks
follow each other too, and each lies in the node that selection started from: their spans are a
`Chain`. Joining neighbours keeps the order because only neighbours are joined. Closing a gap moves
the end of a draft to the start of the first line of the next one, which is no further than the next
one because its first line is that of its first byte (`Span.Located`).
-/

namespace CodeChunks

namespace Span

/-- Spans that follow each other between two offsets. -/
def Chain : Nat → Nat → List Span → Prop
  | lo, hi, [] => lo ≤ hi
  | lo, hi, a :: as => lo ≤ a.start ∧ a.start ≤ a.stop ∧ Chain a.stop hi as

namespace Chain

variable {lo mid hi : Nat} {a : Span} {as bs : List Span}

theorem le (h : Chain lo hi as) : lo ≤ hi := by
  induction as generalizing lo with
  | nil => exact h
  | cons a as ih =>
    have := ih h.2.2
    have := h.1
    have := h.2.1
    omega

theorem single (hlo : lo ≤ a.start) (ha : a.start ≤ a.stop) (hhi : a.stop ≤ hi) :
    Chain lo hi [a] := ⟨hlo, ha, hhi⟩

theorem lower {lo' : Nat} (h : Chain lo hi as) (hlo : lo' ≤ lo) : Chain lo' hi as := by
  cases as with
  | nil => exact Nat.le_trans hlo h
  | cons a as => exact ⟨Nat.le_trans hlo h.1, h.2⟩

theorem append_iff : Chain lo hi (as ++ bs) ↔ ∃ mid, Chain lo mid as ∧ Chain mid hi bs := by
  induction as generalizing lo with
  | nil =>
    constructor
    · intro h
      exact ⟨lo, Nat.le_refl _, h⟩
    · rintro ⟨mid, hle, h⟩
      exact h.lower hle
  | cons a as ih =>
    simp only [List.cons_append, Chain, ih]
    constructor
    · rintro ⟨h1, h2, mid, h3, h4⟩
      exact ⟨mid, ⟨h1, h2, h3⟩, h4⟩
    · rintro ⟨mid, ⟨h1, h2, h3⟩, h4⟩
      exact ⟨h1, h2, mid, h3, h4⟩

theorem upper {hi' : Nat} (h : Chain lo hi as) (hhi : hi ≤ hi') : Chain lo hi' as := by
  rw [← List.append_nil as]
  exact append_iff.2 ⟨hi, h, hhi⟩

theorem mem (h : Chain lo hi as) (ha : a ∈ as) :
    lo ≤ a.start ∧ a.start ≤ a.stop ∧ a.stop ≤ hi := by
  induction as generalizing lo with
  | nil => cases ha
  | cons b as ih =>
    rcases List.mem_cons.1 ha with rfl | ha
    · exact ⟨h.1, h.2.1, h.2.2.le⟩
    · have hb := ih h.2.2 ha
      have := h.1
      have := h.2.1
      exact ⟨by omega, hb.2⟩

theorem pairwise (h : Chain lo hi as) : as.Pairwise fun a b => a.stop ≤ b.start := by
  induction as generalizing lo with
  | nil => exact .nil
  | cons a as ih => exact .cons (fun b hb => (h.2.2.mem hb).1) (ih h.2.2)

theorem of_pairwise (hle : lo ≤ hi) (h : as.Pairwise fun a b => a.stop ≤ b.start)
    (hmem : ∀ a ∈ as, lo ≤ a.start ∧ a.start ≤ a.stop ∧ a.stop ≤ hi) : Chain lo hi as := by
  induction as generalizing lo with
  | nil => exact hle
  | cons a as ih =>
    rw [List.pairwise_cons] at h
    have ha := hmem a List.mem_cons_self
    refine ⟨ha.1, ha.2.1, ih ha.2.2 h.2 fun b hb => ?_⟩
    exact ⟨h.1 b hb, (hmem b (List.mem_cons_of_mem _ hb)).2⟩

end Chain

end Span

/-! ## Closing gaps keeps the order -/

/-- The first line of a span is that of its first byte. -/
def Span.Located (s : Source) (a : Span) : Prop := a.firstLine = s.lineOf a.start

theorem Span.lasting_located (s : Source) : Lasting s (Located s) where
  merge {a b} ha hb := by
    unfold Located at ha hb ⊢
    rcases Nat.le_total a.start b.start with h | h
    · have hmono := s.lineOf_mono h
      simp only [Span.merge, Nat.min_eq_left h]
      omega
    · have hmono := s.lineOf_mono h
      simp only [Span.merge, Nat.min_eq_right h]
      omega
  stretchStart {whole d} hw hd := by
    unfold Located at hw hd ⊢
    unfold Draft.stretchStart
    split
    · next hlt =>
      have hstart : whole.start ≤ d.span.start := by
        rcases Nat.le_total whole.start d.span.start with h | h
        · exact h
        · have := s.lineOf_mono h
          omega
      simp only [Nat.min_eq_right hstart]
      exact hw
    · exact hd
  stretchTo {d next} hd _ := by
    unfold Draft.stretchTo
    split <;> exact hd
  stretchEnd {whole d} _ hd := by
    unfold Draft.stretchEnd
    split <;> exact hd

namespace Draft

theorem stop_stretchTo_le (s : Source) {d : Draft} {b : Nat} (h : d.span.stop ≤ b) :
    (d.stretchTo s (s.lineOf b)).span.stop ≤ b := by
  unfold stretchTo
  split
  · dsimp only
    split
    · next hline => exact Nat.max_le.2 ⟨h, (Source.le_lineOf_iff b hline).1 (Nat.le_refl _)⟩
    · exact h
  · exact h

theorem chain_stretchEnds (s : Source) {whole : Span} {lo : Nat} {ds : List Draft}
    (hds : ds ≠ []) (h : Span.Chain lo whole.stop (ds.map Draft.span))
    (hlines : ∀ d ∈ ds, d.span.Located s) :
    Span.Chain lo whole.stop ((stretchEnds s whole ds).map Draft.span) := by
  fun_induction stretchEnds s whole ds generalizing lo with
  | case1 => exact absurd rfl hds
  | case2 d =>
    obtain ⟨h1, h2, h3⟩ := h
    have h3 : d.span.stop ≤ whole.stop := h3
    unfold stretchEnd
    split
    · exact .single h1 (by dsimp only; omega) (by dsimp only; omega)
    · exact .single h1 h2 h3
  | case3 d e rest ih =>
    obtain ⟨h1, h2, h3, h4⟩ := h
    have hg := grows_stretchTo s e.span.firstLine d
    have hstart : (d.stretchTo s e.span.firstLine).span.start = d.span.start := by
      unfold stretchTo
      split <;> rfl
    have hstop : (d.stretchTo s e.span.firstLine).span.stop ≤ e.span.start := by
      rw [show e.span.firstLine = _ from hlines e (by simp)]
      exact stop_stretchTo_le s h3
    have hwithin := hg.within.2
    exact ⟨by omega, by omega, ih (List.cons_ne_nil _ _) ⟨hstop, h4⟩
      fun f hf => hlines f (List.mem_cons_of_mem _ hf)⟩

/-- Closing gaps keeps drafts in order and inside of the node that they replace. -/
theorem chain_closeGaps (s : Source) {whole : Span} {ds : List Draft}
    (h : Span.Chain whole.start whole.stop (ds.map Draft.span))
    (hw : whole.Located s)
    (hlines : ∀ d ∈ ds, d.span.Located s) :
    Span.Chain whole.start whole.stop ((closeGaps s whole ds).map Draft.span) := by
  cases ds with
  | nil => exact h
  | cons d rest =>
    refine chain_stretchEnds s (List.cons_ne_nil _ _) ?_ fun e he => ?_
    · obtain ⟨h1, h2, h3⟩ := h
      unfold stretchStart
      split
      · exact ⟨by dsimp only; omega, by dsimp only; omega, h3⟩
      · exact ⟨h1, h2, h3⟩
    · rcases List.mem_cons.1 he with rfl | he
      · exact (Span.lasting_located s).stretchStart hw (hlines d List.mem_cons_self)
      · exact hlines e (List.mem_cons_of_mem _ he)

end Draft

/-! ## Drafts in order -/

/-- The children of a node lie in it and follow each other. -/
structure SyntaxTree.Ordered (t : SyntaxTree) : Prop where
  nested : t.Nested
  follow : ∀ p : Nat, p < t.size →
    (t.children p).Pairwise fun a b => (t.span a).stop ≤ (t.span b).start

instance (t : SyntaxTree) : Decidable t.Ordered :=
  decidable_of_iff (t.Nested ∧ ∀ p : Nat, p < t.size →
    (t.children p).Pairwise fun a b => (t.span a).stop ≤ (t.span b).start)
    ⟨fun h => ⟨h.1, h.2⟩, fun h => ⟨h.1, h.2⟩⟩

theorem SyntaxTree.WellFormed.start_le_stop {t : SyntaxTree} (ht : t.WellFormed) {i : Nat}
    (hi : i < t.size) : (t.span i).start ≤ (t.span i).stop := by
  obtain ⟨start, stop, hle, _, hspan⟩ := ht.span i hi
  rw [hspan]
  exact hle

theorem SyntaxTree.WellFormed.located {t : SyntaxTree} (ht : t.WellFormed) {i : Nat}
    (hi : i < t.size) : (t.span i).Located t.source := by
  obtain ⟨start, stop, _, _, hspan⟩ := ht.span i hi
  rw [hspan]
  rfl

theorem SyntaxTree.Ordered.chain {t : SyntaxTree} (h : t.Ordered) (ht : t.WellFormed) {p : Nat}
    (hp : p < t.size) :
    Span.Chain (t.span p).start (t.span p).stop ((t.children p).map t.span) := by
  refine .of_pairwise (ht.start_le_stop hp) (List.pairwise_map.2 (h.follow p hp)) ?_
  intro a ha
  obtain ⟨c, hc, rfl⟩ := List.mem_map.1 ha
  have hwithin := h.nested p hp c hc
  exact ⟨hwithin.1, ht.start_le_stop (ht.child p c hc).2, hwithin.2⟩

namespace Selector

variable {s : Selector} {Inner : NodeId → List Draft → Prop} {depth : Nat} {lo hi : Nat}

theorem chain_hull {i : NodeId} {is : List NodeId} (his : ∀ j ∈ i :: is,
    lo ≤ (s.tree.span j).start ∧ (s.tree.span j).start ≤ (s.tree.span j).stop ∧
      (s.tree.span j).stop ≤ hi) : Span.Chain lo hi [s.tree.hull i is] := by
  refine SyntaxTree.hull_induct (R := fun a => lo ≤ a.start ∧ a.start ≤ a.stop ∧ a.stop ≤ hi)
    ?_ (his i List.mem_cons_self) fun j hj => his j (List.mem_cons_of_mem _ hj)
  intro a b ha hb
  simp only [Span.merge]
  omega

theorem Run.chain {is : List NodeId} {ds : List Draft} (h : Run s Inner depth is ds)
    (his : Span.Chain lo hi (is.map s.tree.span))
    (hinner : ∀ i ds, Inner i ds →
      Span.Chain (s.tree.span i).start (s.tree.span i).stop (ds.map Draft.span)) :
    Span.Chain lo hi (ds.map Draft.span) := by
  cases h with
  | node =>
    refine chain_hull fun j hj => his.mem (List.mem_map_of_mem ?_)
    simp only [List.mem_append, List.mem_cons] at hj ⊢
    tauto
  | inner _ _ hin => exact ((hinner _ _ hin).lower his.1).upper his.2.2
  | glue => exact chain_hull fun j hj => his.mem (List.mem_map_of_mem hj)
  | blank => exact his.le

theorem Split.chain {is : List NodeId} {ds : List Draft} (h : Split s Inner depth is ds)
    (his : Span.Chain lo hi (is.map s.tree.span))
    (hinner : ∀ i ds, Inner i ds →
      Span.Chain (s.tree.span i).start (s.tree.span i).stop (ds.map Draft.span)) :
    Span.Chain lo hi (ds.map Draft.span) := by
  induction h generalizing lo with
  | nil => exact his
  | cons hrun _ ih =>
    rw [List.map_append] at his ⊢
    obtain ⟨mid, hleft, hright⟩ := Span.Chain.append_iff.1 his
    exact Span.Chain.append_iff.2 ⟨mid, hrun.chain hleft hinner, ih hright⟩

/-- The drafts of a node follow each other inside of it. -/
theorem chain_emit (ht : s.tree.WellFormed) (ho : s.tree.Ordered) (depth : Nat) {i : Nat}
    (hi : i < s.tree.size) (hw : s.isWorthy i = true) :
    Span.Chain (s.tree.span i).start (s.tree.span i).stop
      ((s.emit depth (s.tree.branch i)).drafts.map Draft.span) := by
  have hlasting := Span.lasting_located s.source
  refine (emit_induct (P := fun _ i ds => (∀ d ∈ ds, d.span.Located s.source) ∧
    Span.Chain (s.tree.span i).start (s.tree.span i).stop (ds.map Draft.span))
    ht ?_ ?_ ?_ depth hi hw).2
  · intro depth i hi _ _
    refine ⟨fun d hd => ?_, .single (Nat.le_refl _) (ht.start_le_stop hi) (Nat.le_refl _)⟩
    rw [List.mem_singleton.1 hd]
    exact ht.located hi
  · intro depth i hi _ _ _
    refine ⟨fun d hd => ?_, .single (Nat.le_refl _) (ht.start_le_stop hi) (Nat.le_refl _)⟩
    rw [List.mem_singleton.1 hd]
    exact ht.located hi
  · intro depth i ds hi _ _ _ hsplit
    have hds := hsplit.forall hlasting.merge (fun c hc => ht.located (ht.child i c hc).2)
      fun _ _ h => h.1
    exact ⟨hlasting.closeGaps (ht.located hi) hds, Draft.chain_closeGaps s.source
      (hsplit.chain (ho.chain ht hi) fun _ _ h => h.2) (ht.located hi) hds⟩

theorem chain_topNodes (ht : s.tree.WellFormed) (ho : s.tree.Ordered) :
    ∃ lo hi, Span.Chain lo hi (s.topNodes.map s.tree.span) := by
  unfold topNodes SyntaxTree.root?
  by_cases hempty : s.tree.size = 0
  · rw [if_pos hempty]
    exact ⟨0, 0, Nat.le_refl 0⟩
  · rw [if_neg hempty]
    have hroot : 0 < s.tree.size := by omega
    dsimp only
    split
    · exact ⟨_, _, .single (Nat.le_refl _) (ht.start_le_stop hroot) (Nat.le_refl _)⟩
    · exact ⟨_, _, ho.chain ht hroot⟩

theorem chain_plan (ht : s.tree.WellFormed) (ho : s.tree.Ordered) :
    ∃ lo hi, Span.Chain lo hi (s.plan.drafts.map Draft.span) := by
  obtain ⟨lo, hi, htop⟩ := s.chain_topNodes ht ho
  refine ⟨lo, hi, ?_⟩
  rw [drafts_plan]
  have hsize : ∀ i ∈ s.topNodes, i < s.tree.size := fun i => lt_size_of_mem_topNodes ht
  generalize s.topNodes = is at htop hsize ⊢
  induction is generalizing lo with
  | nil => exact htop
  | cons i is ih =>
    obtain ⟨hlo, _, hrest⟩ := htop
    rw [List.flatMap_cons, List.map_append, Span.Chain.append_iff]
    refine ⟨(s.tree.span i).stop, ?_, ih _ hrest fun j hj => hsize j (List.mem_cons_of_mem _ hj)⟩
    rw [drafts_selectTop]
    have hi := hsize i List.mem_cons_self
    split
    · next hw => exact (chain_emit ht ho _ hi hw).lower hlo
    · exact Nat.le_trans hlo (ht.start_le_stop hi)

end Selector

namespace Settings

variable {s : Settings} {f : SourceFile} {stamp : Stamp} {t : SyntaxTree} {cs : List Chunk}
  {asked : List String}

theorem pairwise_emitted (ht : t.WellFormed) (ho : t.Ordered) :
    (s.emitted f t).Pairwise fun d e => d.span.stop ≤ e.span.start := by
  obtain ⟨lo, hi, hchain⟩ := Selector.chain_plan (s := s.selector f t) ht ho
  rw [emitted_eq_filter]
  exact (List.pairwise_map.1 hchain.pairwise).filter _

/-- A chunk is within the node, of those that selection starts from, that its node is below. -/
theorem exists_top_of_mem_emitted (ht : t.WellFormed) (ho : t.Ordered) {d : Draft}
    (hd : d ∈ s.emitted f t) : ∃ top ∈ (s.selector f t).topNodes,
      d ∈ ((s.selector f t).selectTop top).drafts ∧ t.Below top d.node ∧
      d.span.Within (t.span top) := by
  obtain ⟨top, htop, hw, hd⟩ := Selector.mem_drafts_plan.1 (mem_emitted.1 hd).1
  have hsize := Selector.lt_size_of_mem_topNodes ht htop
  have hchain := Selector.chain_emit (s := s.selector f t) ht ho (t.depth top) hsize hw
  have hwithin := hchain.mem (List.mem_map_of_mem hd)
  refine ⟨top, htop, ?_, Selector.below_of_mem_emit ht _ hsize hw d hd, hwithin.1, hwithin.2.2⟩
  rw [Selector.drafts_selectTop, if_pos hw]
  exact hd

/-- If nodes lie in each other and follow each other, then chunks follow each other, each in the
node that selection started from, and no byte is in two of them. -/
theorem chunks_in_order (ht : t.Built) (ho : t.Ordered)
    (hrun : s.runTree f stamp t = (.chunks cs, asked)) :
    cs = (s.emitted f t).mapIdx (s.chunkOf f stamp t) ∧
    ((s.emitted f t).Pairwise fun d e => d.span.stop ≤ e.span.start) ∧
    (∀ d ∈ s.emitted f t, ∃ top ∈ (s.selector f t).topNodes,
      d ∈ ((s.selector f t).selectTop top).drafts ∧ t.Below top d.node ∧
      d.span.Within (t.span top)) ∧
    ∀ (byte m n : Nat) (d e : Draft), (s.emitted f t)[m]? = some d →
      (s.emitted f t)[n]? = some e → d.span.start ≤ byte → byte < d.span.stop →
      e.span.start ≤ byte → byte < e.span.stop → m = n := by
  have hpair := pairwise_emitted (s := s) (f := f) ht.wellFormed ho
  refine ⟨chunks_of_runTree hrun, hpair,
    fun d hd => exists_top_of_mem_emitted ht.wellFormed ho hd, ?_⟩
  intro byte m n d e hm hn hd1 hd2 he1 he2
  obtain ⟨hm', rfl⟩ := List.getElem?_eq_some_iff.1 hm
  obtain ⟨hn', rfl⟩ := List.getElem?_eq_some_iff.1 hn
  rw [List.pairwise_iff_getElem] at hpair
  rcases Nat.lt_trichotomy m n with h | h | h
  · have := hpair m n hm' hn' h
    omega
  · exact h
  · have := hpair n m hn' hm' h
    omega

/-- The chunks of a class that is taken apart follow each other. -/
theorem class_chunks_in_order : ∃ cs asked,
    (Sample.settings 4).runTree Sample.file Sample.stamp Sample.tree = (.chunks cs, asked) ∧
      cs.length = 3 ∧ ((Sample.settings 4).emitted Sample.file Sample.tree).Pairwise
        fun d e => d.span.stop ≤ e.span.start := by
  obtain ⟨asked, hrun⟩ := Sample.exists_runTree
  have h := chunks_in_order Sample.built_tree (by decide +kernel) hrun
  exact ⟨_, asked, hrun, by rw [List.length_mapIdx]; decide +kernel, h.2.1⟩

end Settings

end CodeChunks
