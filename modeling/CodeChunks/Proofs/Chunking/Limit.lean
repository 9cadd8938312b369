import CodeChunks.Proofs.Chunking.Order

/-!
# Chunks over the limit

A draft that selection makes of a node and its neighbours fits the limit, and a node that was kept
whole says that it does not; `Made` lists the ways. Two things can still take a chunk over the limit
without a word about it: children that no draft took in are put together whatever their size, and
closing gaps adds lines to a draft that was within the limit. `Settings.limit_lt_tokenEstimate_iff`
says that there is nothing else.
-/

namespace CodeChunks

theorem estimateTokens_mono {m n : Nat} (h : m ≤ n) : estimateTokens m ≤ estimateTokens n :=
  Nat.div_le_div_right h

theorem Span.Filled.tokens_le {s : Source} {a b : Span} (hb : b.Filled s) (hab : a.Within b) :
    a.tokens s ≤ b.tokens s := by
  obtain ⟨hstart, hstop, hle⟩ := Text.isBoundary_of_slice hb
  have ha : Text.byteLength (a.text s) ≤ a.stop - a.start := Text.byteLength_slice_le _ _ _
  have hb' : Text.byteLength (b.text s) = b.stop - b.start :=
    Text.byteLength_slice hstart hstop hle
  have := hab.1
  have := hab.2
  exact estimateTokens_mono (by omega)

namespace Selector

variable {s : Selector}

/-- A draft as selection makes it, before gaps are closed. -/
inductive Made (s : Selector) : Draft → Prop where
  /-- A node that fits. -/
  | whole {depth : Nat} {i : NodeId} : s.isWorthy i = true → s.fits (s.tree.span i) = true →
      Made s (s.nodeDraft i depth)
  /-- A node that does not fit and has no child worth a chunk. -/
  | fallback {depth : Nat} {i : NodeId} : s.isWorthy i = true →
      s.fits (s.tree.span i) = false → (∀ c ∈ s.tree.children i, s.isWorthy c = false) →
      Made s (s.fallbackDraft i depth)
  /-- A node with neighbours not worth a chunk that fit with it. -/
  | joined {depth : Nat} {p i : NodeId} {pre post : List NodeId} :
      pre ++ i :: post <:+: s.tree.children p → s.isWorthy i = true →
      (∀ j ∈ pre ++ post, s.isWorthy j = false) →
      s.fits (s.tree.hull i (pre ++ post)) = true →
      Made s (s.runDraft depth i (pre ++ post))
  /-- Neighbours not worth a chunk. -/
  | glue {depth : Nat} {p i : NodeId} {is : List NodeId} : i :: is <:+: s.tree.children p →
      (∀ j ∈ i :: is, s.isWorthy j = false) → (s.tree.hull i is).Filled s.source →
      Made s (s.glueDraft depth i is)

/-- Only what is kept whole or put together may be over the limit when it is made. -/
theorem Made.fits_or {d : Draft} (h : s.Made d) :
    s.fits d.span = true ∨ d.kind = .fallback ∨ d.kind = .glue := by
  cases h with
  | whole _ hfit => exact .inl hfit
  | fallback => exact .inr (.inl rfl)
  | joined _ _ _ hfit => exact .inl hfit
  | glue => exact .inr (.inr rfl)

theorem exists_made_of_mem_emit (ht : s.tree.WellFormed) (depth : Nat) {i : Nat}
    (hi : i < s.tree.size) (hw : s.isWorthy i = true) :
    ∀ e ∈ (s.emit depth (s.tree.branch i)).drafts, ∃ d, s.Made d ∧ d.Grows e := by
  refine emit_induct (P := fun _ _ es => ∀ e ∈ es, ∃ d, s.Made d ∧ d.Grows e) ht ?_ ?_ ?_ depth
    hi hw
  · intro depth i _ hw hfit e he
    rw [List.mem_singleton.1 he]
    exact ⟨_, .whole hw hfit, .refl _⟩
  · intro depth i _ hw hfit hnone e he
    rw [List.mem_singleton.1 he]
    exact ⟨_, .fallback hw hfit hnone, .refl _⟩
  · intro depth i ds _ _ _ _ hsplit e he
    obtain ⟨d, hd, hg⟩ := Draft.exists_grows_of_mem_closeGaps he
    obtain ⟨js, es, hjs, hrun, hd⟩ := hsplit.exists_run hd
    cases hrun with
    | node hw _ hall hfit =>
      rw [List.mem_singleton.1 hd] at hg
      exact ⟨_, .joined hjs hw hall hfit, hg⟩
    | inner _ _ hin =>
      obtain ⟨c, hc, hcd⟩ := hin d hd
      exact ⟨c, hc, hcd.trans hg⟩
    | glue hall hfilled =>
      rw [List.mem_singleton.1 hd] at hg
      exact ⟨_, .glue hjs hall hfilled, hg⟩
    | blank => cases hd

end Selector

namespace Draft.Grows

variable {d e : Draft}

theorem span_eq (h : d.Grows e) (hfirst : d.span.firstLine ≤ e.span.firstLine)
    (hlast : e.span.lastLine ≤ d.span.lastLine) :
    e.span.start = d.span.start ∧ e.span.stop = d.span.stop := by
  have := h.start
  have := h.stop
  omega

end Draft.Grows

def Sample.header : Draft := ⟨⟨0, 22, 1, 2⟩, 2, 2, .glue, 0⟩

namespace Settings

variable {s : Settings} {f : SourceFile} {stamp : Stamp} {t : SyntaxTree} {cs : List Chunk}
  {asked : List String}

/-- A chunk that does not say that it is oversized is over the limit exactly when it is put together
of nodes not worth a chunk that are over the limit, or when it was made within the limit and gained
lines over the limit from gaps. -/
theorem limit_lt_tokenEstimate_iff (ht : t.Built)
    (hrun : s.runTree f stamp t = (.chunks cs, asked)) {n : Nat} {c : Chunk}
    (hc : cs[n]? = some c) (hflag : c.metadata.context.isOversized = false) :
    ∃ made d, (s.selector f t).Made made ∧ made.Grows d ∧ (s.emitted f t)[n]? = some d ∧
      (s.budget.limit < c.tokenEstimate ↔
        (made.kind = .glue ∧ s.budget.limit < made.span.tokens t.source) ∨
        (made.span.tokens t.source ≤ s.budget.limit ∧
          (d.span.firstLine < made.span.firstLine ∨ made.span.lastLine < d.span.lastLine) ∧
          s.budget.limit < d.span.tokens t.source)) := by
  rw [getElem?_of_runTree hrun, Option.map_eq_some_iff] at hc
  obtain ⟨d, hd, rfl⟩ := hc
  rw [isOversized_chunkOf, beq_eq_false_iff_ne] at hflag
  obtain ⟨hplan, hfilled⟩ := mem_emitted.1 (List.mem_of_getElem? hd)
  obtain ⟨top, htop, hw, hemit⟩ := Selector.mem_drafts_plan.1 hplan
  obtain ⟨made, hmade, hg⟩ := Selector.exists_made_of_mem_emit (s := s.selector f t) ht.wellFormed
    _ (Selector.lt_size_of_mem_topNodes ht.wellFormed htop) hw d hemit
  refine ⟨made, d, hmade, hg, hd, ?_⟩
  rw [tokenEstimate_chunkOf]
  have hle : made.span.tokens t.source ≤ d.span.tokens t.source := hfilled.tokens_le hg.within
  constructor
  · intro hover
    by_cases hfit : made.span.tokens t.source ≤ s.budget.limit
    · refine .inr ⟨hfit, ?_, hover⟩
      -- Without a line more the text would be the one that fits.
      by_contra hsame
      obtain ⟨hstart, hstop⟩ := hg.span_eq (by omega) (by omega)
      have heq : d.span.tokens t.source = made.span.tokens t.source := by
        unfold Span.tokens Span.text
        rw [hstart, hstop]
      omega
    · rcases hmade.fits_or with h | h | h
      · exact absurd (of_decide_eq_true h) hfit
      · exact absurd (hg.kind.trans h) hflag
      · exact .inl ⟨h, by omega⟩
  · rintro (⟨_, hover⟩ | ⟨_, _, hover⟩)
    · omega
    · exact hover

/-- The words of a class header are put together to a chunk of five tokens where four are
allowed, and the chunk does not say so. -/
theorem class_header_over_limit : Sample.tree.Ordered ∧ ∃ cs asked c,
    (Sample.settings 4).runTree Sample.file Sample.stamp Sample.tree = (.chunks cs, asked) ∧
      cs[0]? = some c ∧ c.metadata.context.isOversized = false ∧
      (Sample.settings 4).budget.limit = 4 ∧ c.tokenEstimate = 5 ∧
      ∃ made d, ((Sample.settings 4).selector Sample.file Sample.tree).Made made ∧
        made.Grows d ∧ ((Sample.settings 4).emitted Sample.file Sample.tree)[0]? = some d ∧
        (made.kind = .glue ∧ 4 < made.span.tokens Sample.tree.source ∨
          made.span.tokens Sample.tree.source ≤ 4 ∧
            (d.span.firstLine < made.span.firstLine ∨ made.span.lastLine < d.span.lastLine) ∧
            4 < d.span.tokens Sample.tree.source) := by
  refine ⟨by decide +kernel, ?_⟩
  obtain ⟨asked, hrun⟩ := Sample.exists_runTree
  have hhead : ((Sample.settings 4).emitted Sample.file Sample.tree)[0]? =
      some Sample.header := by decide +kernel
  have hlimit : (Sample.settings 4).budget.limit = 4 := by decide +kernel
  have hc := getElem?_of_runTree hrun 0
  rw [hhead, Option.map_some] at hc
  have hflag : ((Sample.settings 4).chunkOf Sample.file Sample.stamp Sample.tree 0
      Sample.header).metadata.context.isOversized = false := by
    rw [isOversized_chunkOf]
    rfl
  have htokens : ((Sample.settings 4).chunkOf Sample.file Sample.stamp Sample.tree 0
      Sample.header).tokenEstimate = 5 := by
    rw [tokenEstimate_chunkOf]
    decide +kernel
  obtain ⟨made, d, hmade, hg, hd, hiff⟩ :=
    limit_lt_tokenEstimate_iff Sample.built_tree hrun hc hflag
  rw [htokens, hlimit] at hiff
  exact ⟨_, asked, _, hrun, hc, hflag, hlimit, htokens, made, d, hmade, hg, hd,
    hiff.1 (by decide)⟩

end Settings

end CodeChunks
