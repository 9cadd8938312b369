import CodeChunks.Proofs.Chunking.Emitted

/-!
# What the chunks of a run cover

However deep nodes are taken apart, every line of a node worth a chunk is a line of some chunk, and
every leaf with a text lies in a single chunk. Lines are covered (`Draft.CoverLines`) because the
gaps are closed at every node that is taken apart; the order and the nesting of the nodes do not
matter. A leaf is in the hull of the run of each node above it if the tree is `Nested`, and closing
gaps only makes the drafts larger that hold it (`Draft.Hold`).
-/

namespace CodeChunks

/-! ## Lines -/

theorem LineRange.contains_of {first last n : Nat} (hone : 1 ≤ n) (hf : first ≤ n)
    (hl : n ≤ last) : (LineRange.of first last).contains n = true := by
  unfold of contains
  rw [Bool.and_eq_true, decide_eq_true_iff, decide_eq_true_iff]
  dsimp only
  omega

/-- There is a draft, and every line of a span is a line of one. -/
structure Draft.CoverLines (a : Span) (ds : List Draft) : Prop where
  ne_nil : ds ≠ []
  line : ∀ n, a.firstLine ≤ n → n ≤ a.lastLine →
    ∃ d ∈ ds, d.span.firstLine ≤ n ∧ n ≤ d.span.lastLine

theorem Draft.coverLines_singleton (d : Draft) : CoverLines d.span [d] :=
  ⟨List.cons_ne_nil _ _, fun _ hf hl => ⟨d, List.mem_singleton_self d, hf, hl⟩⟩

theorem Draft.coverLines_closeGaps (s : Source) (whole : Span) {ds : List Draft} (h : ds ≠ []) :
    CoverLines whole (closeGaps s whole ds) :=
  ⟨closeGaps_ne_nil h, fun _ hf hl => exists_mem_closeGaps_line s h hf hl⟩

namespace Selector

variable {s : Selector} {Inner : NodeId → List Draft → Prop} {depth : Nat}

theorem Run.ne_nil {is : List NodeId} {ds : List Draft} (h : Run s Inner depth is ds)
    (hinner : ∀ i ds, Inner i ds → ds ≠ []) (hsome : ∃ i ∈ is, s.isWorthy i = true) :
    ds ≠ [] := by
  cases h with
  | node => exact List.cons_ne_nil _ _
  | inner _ _ hin => exact hinner _ _ hin
  | glue => exact List.cons_ne_nil _ _
  | blank hall =>
    obtain ⟨i, hi, hw⟩ := hsome
    rw [hall i hi] at hw
    cases hw

theorem Split.ne_nil {is : List NodeId} {ds : List Draft} (h : Split s Inner depth is ds)
    (hinner : ∀ i ds, Inner i ds → ds ≠ []) (hsome : ∃ i ∈ is, s.isWorthy i = true) :
    ds ≠ [] := by
  induction h with
  | nil =>
    obtain ⟨i, hi, _⟩ := hsome
    cases hi
  | cons hrun _ ih =>
    obtain ⟨i, hi, hw⟩ := hsome
    rcases List.mem_append.1 hi with hi | hi
    · exact List.append_ne_nil_of_left_ne_nil (hrun.ne_nil hinner ⟨i, hi, hw⟩) _
    · exact List.append_ne_nil_of_right_ne_nil _ (ih ⟨i, hi, hw⟩)

theorem coverLines_emit (ht : s.tree.WellFormed) (depth : Nat) {i : Nat}
    (hi : i < s.tree.size) (hw : s.isWorthy i = true) :
    Draft.CoverLines (s.tree.span i) (s.emit depth (s.tree.branch i)).drafts := by
  refine emit_induct (P := fun _ i ds => Draft.CoverLines (s.tree.span i) ds) ht ?_ ?_ ?_ depth hi
    hw
  · intro depth i _ _ _
    exact Draft.coverLines_singleton (s.nodeDraft i depth)
  · intro depth i _ _ _ _
    exact Draft.coverLines_singleton (s.fallbackDraft i depth)
  · intro depth i ds _ _ _ hsome hsplit
    exact Draft.coverLines_closeGaps _ _ (hsplit.ne_nil (fun _ _ h => h.ne_nil) hsome)

end Selector

namespace Settings

variable {s : Settings} {f : SourceFile} {stamp : Stamp} {t : SyntaxTree} {cs : List Chunk}
  {asked : List String}

/-- If no node is blank, then every line of a child of the root that is worth a chunk is a line of
some chunk. -/
theorem exists_chunk_of_line (ht : t.Built)
    (htext : ∀ i : Nat, i < t.size → Text.isBlankText (t.text i) = false)
    (hrun : s.runTree f stamp t = (.chunks cs, asked)) {root top line : Nat}
    (hroot : t.root? = some root) (htop : top ∈ t.children root)
    (hw : (s.selector f t).isWorthy top = true) (hfirst : (t.span top).firstLine ≤ line)
    (hlast : line ≤ (t.span top).lastLine) : ∃ c ∈ cs, c.lines.contains line = true := by
  have hwf := ht.wellFormed
  have hsize : top < t.size := (hwf.child root top htop).2
  obtain ⟨d, hd, hdf, hdl⟩ :=
    (Selector.coverLines_emit (s := s.selector f t) hwf (t.depth top) hsize hw).line line
      hfirst hlast
  have hplan : d ∈ (s.selector f t).plan.drafts :=
    Selector.mem_drafts_plan.2 ⟨top, Selector.mem_topNodes_of_child hroot htop, hw, hd⟩
  have hfilled : d.span.Filled t.source :=
    Selector.forall_plan (s := s.selector f t) hwf (Span.lasting_filled _) htext d hplan
  obtain ⟨n, _, hc⟩ := exists_chunkOf_of_mem hrun (mem_emitted.2 ⟨hplan, hfilled⟩)
  refine ⟨_, List.mem_of_getElem? hc, ?_⟩
  rw [lines_chunkOf]
  obtain ⟨start, stop, _, _, hspan⟩ := hwf.span top hsize
  have hone : 1 ≤ line := by
    rw [hspan] at hfirst
    exact Nat.le_trans (t.source.one_le_lineOf start) hfirst
  exact LineRange.contains_of hone hdf hdl

/-- The blank line between two functions, each a chunk, is in one of the chunks. -/
theorem exists_chunk_of_blank_line : ∃ cs asked,
    (Sample.settings 4).runTree Sample.file Sample.stamp Sample.tree = (.chunks cs, asked) ∧
      ∃ c ∈ cs, c.lines.contains 5 = true := by
  obtain ⟨asked, hrun⟩ := Sample.exists_runTree
  exact ⟨_, asked, hrun, exists_chunk_of_line Sample.built_tree (by decide +kernel) hrun
    (show Sample.tree.root? = some 0 by decide +kernel)
    (show 1 ∈ Sample.tree.children 0 by decide +kernel) (by decide +kernel) (by decide +kernel)
    (by decide +kernel)⟩

end Settings

/-! ## Leaves -/

/-- The children of a node lie in it. -/
def SyntaxTree.Nested (t : SyntaxTree) : Prop :=
  ∀ p : Nat, p < t.size → ∀ c ∈ t.children p, (t.span c).Within (t.span p)

instance (t : SyntaxTree) : Decidable t.Nested := inferInstanceAs (Decidable (∀ _ : Nat, _ → _))

theorem SyntaxTree.Nested.within_of_below {t : SyntaxTree} (h : t.Nested) (ht : t.WellFormed)
    {i j : NodeId} (hij : t.Below i j) : (t.span j).Within (t.span i) := by
  induction hij with
  | refl => exact .refl _
  | @tail p c _ hc ih =>
    have hlt := ht.child p c hc
    exact (h p (Nat.lt_trans hlt.1 hlt.2) c hc).trans ih

/-- Some draft holds the bytes of a span. -/
def Draft.Hold (a : Span) (ds : List Draft) : Prop := ∃ d ∈ ds, a.Within d.span

namespace Draft.Hold

variable {a : Span} {ds es : List Draft}

theorem append_left (h : Hold a ds) (es : List Draft) : Hold a (ds ++ es) :=
  let ⟨d, hd, ha⟩ := h
  ⟨d, List.mem_append_left es hd, ha⟩

theorem append_right (ds : List Draft) (h : Hold a es) : Hold a (ds ++ es) :=
  let ⟨d, hd, ha⟩ := h
  ⟨d, List.mem_append_right ds hd, ha⟩

theorem closeGaps (s : Source) (whole : Span) (h : Hold a ds) :
    Hold a (Draft.closeGaps s whole ds) := by
  obtain ⟨d, hd, ha⟩ := h
  obtain ⟨e, he, hg⟩ := exists_grows_closeGaps s whole hd
  exact ⟨e, he, ha.trans hg.within⟩

end Draft.Hold

namespace Selector

variable {s : Selector} {Inner : NodeId → List Draft → Prop} {depth : Nat} {a : Span}

/-- A run whose spans end at boundaries holds what is in one of its children: the children that no
draft took in are not blank if they hold something that is not. -/
theorem Run.hold {is : List NodeId} {ds : List Draft} (h : Run s Inner depth is ds)
    (ha : a.Filled s.source) (his : ∀ i ∈ is, (s.tree.span i).Bounded s.source) {c : NodeId}
    (hc : c ∈ is) (hac : a.Within (s.tree.span c))
    (hinner : ∀ ds, Inner c ds → Draft.Hold a ds) : Draft.Hold a ds := by
  cases h with
  | node =>
    refine ⟨_, List.mem_singleton_self _, hac.trans (SyntaxTree.within_hull ?_)⟩
    simp only [List.mem_append, List.mem_cons] at hc ⊢
    tauto
  | inner _ _ hin =>
    rw [List.mem_singleton.1 hc] at hinner
    exact hinner _ hin
  | glue => exact ⟨_, List.mem_singleton_self _, hac.trans (SyntaxTree.within_hull hc)⟩
  | blank _ hblank =>
    have hbounded := SyntaxTree.hull_induct (Span.lasting_bounded s.source).merge
      (his _ List.mem_cons_self) fun j hj => his j (List.mem_cons_of_mem _ hj)
    exact absurd (ha.widen hbounded (hac.trans (SyntaxTree.within_hull hc))) hblank

theorem Split.hold {is : List NodeId} {ds : List Draft} (h : Split s Inner depth is ds)
    (ha : a.Filled s.source) (his : ∀ i ∈ is, (s.tree.span i).Bounded s.source) {c : NodeId}
    (hc : c ∈ is) (hac : a.Within (s.tree.span c))
    (hinner : ∀ ds, Inner c ds → Draft.Hold a ds) : Draft.Hold a ds := by
  induction h with
  | nil => cases hc
  | cons hrun _ ih =>
    rcases List.mem_append.1 hc with hc | hc
    · exact (hrun.hold ha (fun i hi => his i (List.mem_append_left _ hi)) hc hac
        hinner).append_left _
    · exact (ih (fun i hi => his i (List.mem_append_right _ hi)) hc).append_right _

/-- Every leaf with a text below a node lies in one of its drafts. -/
theorem hold_emit (ht : s.tree.WellFormed) (hnested : s.tree.Nested)
    (hbounds : ∀ i : Nat, i < s.tree.size → (s.tree.span i).Bounded s.source) (depth : Nat)
    {i leaf : Nat} (hi : i < s.tree.size) (hw : s.isWorthy i = true) (hbelow : s.tree.Below i leaf)
    (hleaf : s.tree.isLeaf leaf = true) (htext : (s.tree.span leaf).Filled s.source) :
    Draft.Hold (s.tree.span leaf) (s.emit depth (s.tree.branch i)).drafts := by
  refine emit_induct (P := fun _ i ds => s.tree.Below i leaf → Draft.Hold (s.tree.span leaf) ds)
    ht ?_ ?_ ?_ depth hi hw hbelow
  · intro depth i _ _ _ h
    exact ⟨_, List.mem_singleton_self _, hnested.within_of_below ht h⟩
  · intro depth i _ _ _ _ h
    exact ⟨_, List.mem_singleton_self _, hnested.within_of_below ht h⟩
  · intro depth i ds _ _ _ hsome hsplit h
    apply Draft.Hold.closeGaps
    -- The leaf is not the node itself, which has a child, so it is below some child.
    rcases Relation.ReflTransGen.cases_head h with rfl | ⟨c, hc, hcl⟩
    · obtain ⟨c, hc, _⟩ := hsome
      rw [SyntaxTree.isLeaf, Node.isLeaf, List.isEmpty_iff] at hleaf
      rw [SyntaxTree.children, hleaf] at hc
      cases hc
    · exact hsplit.hold htext (fun c hc => hbounds c (ht.child i c hc).2) hc
        (hnested.within_of_below ht hcl) fun ds h => h hcl

end Selector

/-- If the nodes lie in each other and between boundaries, then every leaf with a text that is a
child of the root worth a chunk, or is below one, lies in a single chunk. -/
theorem Settings.exists_chunk_of_leaf {s : Settings} {f : SourceFile} {stamp : Stamp}
    {t : SyntaxTree} {cs : List Chunk} {asked : List String} (ht : t.Built)
    (hbounds : ∀ i : Nat, i < t.size →
      t.source.IsBoundary (t.span i).start ∧ t.source.IsBoundary (t.span i).stop)
    (hnested : t.Nested) (hrun : s.runTree f stamp t = (.chunks cs, asked))
    {root top leaf : Nat} (hroot : t.root? = some root) (htop : top ∈ t.children root)
    (hw : (s.selector f t).isWorthy top = true) (hbelow : t.Below top leaf)
    (hleaf : t.isLeaf leaf = true) (htext : Text.isBlankText (t.text leaf) = false) :
    ∃ (n : Nat) (c : Chunk) (d : Draft), cs[n]? = some c ∧ (s.emitted f t)[n]? = some d ∧
      c.content = String.ofList (d.span.text t.source) ∧
      d.span.start ≤ (t.span leaf).start ∧ (t.span leaf).stop ≤ d.span.stop := by
  have hwf := ht.wellFormed
  have hsize : top < t.size := (hwf.child root top htop).2
  obtain ⟨d, hd, hwithin⟩ := Selector.hold_emit (s := s.selector f t) hwf hnested hbounds
    (t.depth top) hsize hw hbelow hleaf htext
  have hplan : d ∈ (s.selector f t).plan.drafts :=
    Selector.mem_drafts_plan.2 ⟨top, Selector.mem_topNodes_of_child hroot htop, hw, hd⟩
  have hbounded : d.span.Bounded t.source :=
    Selector.forall_plan (s := s.selector f t) hwf (Span.lasting_bounded _) hbounds d hplan
  have hfilled : d.span.Filled t.source :=
    Span.Filled.widen (a := t.span leaf) htext hbounded hwithin
  obtain ⟨n, hn, hc⟩ := exists_chunkOf_of_mem hrun (mem_emitted.2 ⟨hplan, hfilled⟩)
  exact ⟨n, _, d, hc, hn, content_chunkOf n d, hwithin⟩

/-- The name of a class that is taken apart is in one chunk. -/
theorem Settings.exists_chunk_of_class_name : ∃ cs asked,
    (Sample.settings 4).runTree Sample.file Sample.stamp Sample.tree = (.chunks cs, asked) ∧
      ∃ (n : Nat) (c : Chunk) (d : Draft), cs[n]? = some c ∧
        ((Sample.settings 4).emitted Sample.file Sample.tree)[n]? = some d ∧
        c.content = String.ofList (d.span.text Sample.tree.source) ∧
        d.span.start ≤ 6 ∧ 13 ≤ d.span.stop := by
  obtain ⟨asked, hrun⟩ := Sample.exists_runTree
  have hbelow : Sample.tree.Below 1 3 :=
    .single (show 3 ∈ Sample.tree.children 1 by decide +kernel)
  have hspan : Sample.tree.span 3 = ⟨6, 13, 1, 1⟩ := by decide +kernel
  have h := exists_chunk_of_leaf Sample.built_tree (by decide +kernel) (by decide +kernel) hrun
    (show Sample.tree.root? = some 0 by decide +kernel)
    (show 1 ∈ Sample.tree.children 0 by decide +kernel) (by decide +kernel) hbelow
    (by decide +kernel) (by decide +kernel)
  rw [hspan] at h
  exact ⟨_, asked, hrun, h⟩

end CodeChunks
