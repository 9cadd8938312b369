import CodeChunks.Chunking.Draft
import CodeChunks.Proofs.Tree.Built
import Mathlib.Data.List.Forall2

/-!
# Closing gaps

Closing the gaps between drafts makes each of them larger and leaves the rest of it alone
(`Draft.Grows`). What is true of a span through joining and stretching is true of every draft;
`Span.Lasting` collects what has to be shown for that, and being `Filled` and being `Bounded` are
two cases of it. After closing the gaps the lines of the drafts cover those of the node that they
replace, whatever the drafts were.
-/

namespace CodeChunks

/-! ## Spans -/

namespace Span

/-- The text of a span is more than blank. -/
def Filled (s : Source) (a : Span) : Prop := Text.isBlankText (a.text s) = false

instance (s : Source) (a : Span) : Decidable (a.Filled s) := inferInstanceAs (Decidable (_ = _))

def Bounded (s : Source) (a : Span) : Prop := s.IsBoundary a.start ∧ s.IsBoundary a.stop

instance (s : Source) (a : Span) : Decidable (a.Bounded s) := inferInstanceAs (Decidable (_ ∧ _))

theorem within_merge_left (a b : Span) : a.Within (a.merge b) :=
  ⟨Nat.min_le_left _ _, Nat.le_max_left _ _⟩

theorem within_merge_right (a b : Span) : b.Within (a.merge b) :=
  ⟨Nat.min_le_right _ _, Nat.le_max_right _ _⟩

theorem Filled.bounded {s : Source} {a : Span} (h : a.Filled s) : a.Bounded s :=
  have hb := Text.isBoundary_of_slice h
  ⟨hb.1, hb.2.1⟩

theorem Filled.widen {s : Source} {a b : Span} (h : a.Filled s) (hb : b.Bounded s)
    (hab : a.Within b) : b.Filled s :=
  Text.isBlankText_slice_widen h hb.1 hb.2 hab.1 hab.2

end Span

theorem Source.IsBoundary.min {s : Source} {m n : Nat} (hm : s.IsBoundary m)
    (hn : s.IsBoundary n) : s.IsBoundary (min m n) := by
  rcases Nat.le_total m n with h | h
  · rwa [Nat.min_eq_left h]
  · rwa [Nat.min_eq_right h]

theorem Source.IsBoundary.max {s : Source} {m n : Nat} (hm : s.IsBoundary m)
    (hn : s.IsBoundary n) : s.IsBoundary (max m n) := by
  rcases Nat.le_total m n with h | h
  · rwa [Nat.max_eq_right h]
  · rwa [Nat.max_eq_left h]

namespace Draft

/-! ## Growing -/

/-- `e` is `d` with a larger span. The span is larger at an end only if it has a line more there. -/
structure Grows (d e : Draft) : Prop where
  node : e.node = d.node
  depth : e.depth = d.depth
  kind : e.kind = d.kind
  glueBytes : e.glueBytes = d.glueBytes
  within : d.span.Within e.span
  firstLine : e.span.firstLine ≤ d.span.firstLine
  lastLine : d.span.lastLine ≤ e.span.lastLine
  start : e.span.start = d.span.start ∨ e.span.firstLine < d.span.firstLine
  stop : e.span.stop = d.span.stop ∨ d.span.lastLine < e.span.lastLine

theorem Grows.refl (d : Draft) : d.Grows d :=
  ⟨rfl, rfl, rfl, rfl, .refl _, Nat.le_refl _, Nat.le_refl _, .inl rfl, .inl rfl⟩

theorem Grows.trans {d e f : Draft} (h : d.Grows e) (k : e.Grows f) : d.Grows f where
  node := k.node.trans h.node
  depth := k.depth.trans h.depth
  kind := k.kind.trans h.kind
  glueBytes := k.glueBytes.trans h.glueBytes
  within := h.within.trans k.within
  firstLine := Nat.le_trans k.firstLine h.firstLine
  lastLine := Nat.le_trans h.lastLine k.lastLine
  start := by
    have := h.start; have := k.start; have := h.firstLine; have := k.firstLine
    omega
  stop := by
    have := h.stop; have := k.stop; have := h.lastLine; have := k.lastLine
    omega

theorem grows_stretchStart (whole : Span) (d : Draft) : d.Grows (d.stretchStart whole) := by
  unfold stretchStart
  split
  · next h =>
    exact ⟨rfl, rfl, rfl, rfl, ⟨Nat.min_le_left _ _, Nat.le_refl _⟩, Nat.le_of_lt h,
      Nat.le_refl _, .inr h, .inl rfl⟩
  · exact .refl d

theorem grows_stretchTo (s : Source) (n : Nat) (d : Draft) : d.Grows (d.stretchTo s n) := by
  unfold stretchTo
  split
  · next h =>
    refine ⟨rfl, rfl, rfl, rfl, ⟨Nat.le_refl _, ?_⟩, Nat.le_refl _, ?_, .inl rfl, .inr ?_⟩
    · dsimp only
      split
      · exact Nat.le_max_left _ _
      · exact Nat.le_refl _
    all_goals
      dsimp only
      omega
  · exact .refl d

theorem grows_stretchEnd (whole : Span) (d : Draft) : d.Grows (d.stretchEnd whole) := by
  unfold stretchEnd
  split
  · next h =>
    exact ⟨rfl, rfl, rfl, rfl, ⟨Nat.le_refl _, Nat.le_max_left _ _⟩, Nat.le_refl _,
      Nat.le_of_lt h, .inl rfl, .inr h⟩
  · exact .refl d

theorem grows_stretchEnds (s : Source) (whole : Span) (ds : List Draft) :
    List.Forall₂ Grows ds (stretchEnds s whole ds) := by
  fun_induction stretchEnds s whole ds with
  | case1 => exact .nil
  | case2 d => exact .cons (grows_stretchEnd whole d) .nil
  | case3 d e rest ih => exact .cons (grows_stretchTo s _ d) ih

/-- Closing gaps makes each draft larger and keeps their number and order. -/
theorem grows_closeGaps (s : Source) (whole : Span) (ds : List Draft) :
    List.Forall₂ Grows ds (closeGaps s whole ds) := by
  cases ds with
  | nil => exact .nil
  | cons d rest =>
    have h := grows_stretchEnds s whole (d.stretchStart whole :: rest)
    rw [closeGaps]
    cases hs : stretchEnds s whole (d.stretchStart whole :: rest) with
    | nil => rw [hs] at h; cases h
    | cons e es =>
      rw [hs] at h
      obtain ⟨he, hes⟩ := List.forall₂_cons.1 h
      exact .cons ((grows_stretchStart whole d).trans he) hes

theorem exists_grows_closeGaps (s : Source) (whole : Span) {ds : List Draft} {d : Draft}
    (h : d ∈ ds) : ∃ e ∈ closeGaps s whole ds, d.Grows e := by
  obtain ⟨n, hn, rfl⟩ := List.getElem_of_mem h
  have hgrows := grows_closeGaps s whole ds
  have hn' : n < (closeGaps s whole ds).length := by rwa [← hgrows.length_eq]
  exact ⟨_, List.getElem_mem hn', hgrows.get hn hn'⟩

theorem exists_grows_of_mem_closeGaps {s : Source} {whole : Span} {ds : List Draft} {e : Draft}
    (h : e ∈ closeGaps s whole ds) : ∃ d ∈ ds, d.Grows e := by
  obtain ⟨n, hn, rfl⟩ := List.getElem_of_mem h
  have hgrows := grows_closeGaps s whole ds
  have hn' : n < ds.length := by rwa [hgrows.length_eq]
  exact ⟨_, List.getElem_mem hn', hgrows.get hn' hn⟩

theorem closeGaps_ne_nil {s : Source} {whole : Span} {ds : List Draft} (h : ds ≠ []) :
    closeGaps s whole ds ≠ [] := by
  obtain ⟨d, hd⟩ := List.exists_mem_of_ne_nil _ h
  obtain ⟨e, he, _⟩ := exists_grows_closeGaps s whole hd
  exact List.ne_nil_of_mem he

/-! ## Covering lines -/

theorem firstLine_stretchStart_le (whole : Span) (d : Draft) :
    (d.stretchStart whole).span.firstLine ≤ whole.firstLine := by
  unfold stretchStart
  split
  · exact Nat.le_refl _
  · omega

theorem le_lastLine_stretchTo (s : Source) (n : Nat) (d : Draft) :
    n ≤ (d.stretchTo s n).span.lastLine + 1 := by
  unfold stretchTo
  split
  · dsimp only
    omega
  · omega

theorem le_lastLine_stretchEnd (whole : Span) (d : Draft) :
    whole.lastLine ≤ (d.stretchEnd whole).span.lastLine := by
  unfold stretchEnd
  split
  · exact Nat.le_refl _
  · omega

/-- Each draft reaches at least the line before the next one, and the last reaches the end. -/
theorem exists_mem_stretchEnds_line (s : Source) {whole : Span} {line : Nat}
    (hlast : line ≤ whole.lastLine) {d : Draft} {rest : List Draft}
    (hfirst : d.span.firstLine ≤ line) :
    ∃ e ∈ stretchEnds s whole (d :: rest), e.span.firstLine ≤ line ∧ line ≤ e.span.lastLine := by
  induction rest generalizing d with
  | nil =>
    have hf := (grows_stretchEnd whole d).firstLine
    have hl := le_lastLine_stretchEnd whole d
    exact ⟨_, List.mem_singleton_self _, by omega, by omega⟩
  | cons e rest ih =>
    rw [stretchEnds]
    by_cases hline : line ≤ (d.stretchTo s e.span.firstLine).span.lastLine
    · have hf := (grows_stretchTo s e.span.firstLine d).firstLine
      exact ⟨_, List.mem_cons_self, by omega, hline⟩
    · have hl := le_lastLine_stretchTo s e.span.firstLine d
      have hnext : e.span.firstLine ≤ line := by omega
      obtain ⟨f, hf, hcover⟩ := ih hnext
      exact ⟨f, List.mem_cons_of_mem _ hf, hcover⟩

/-- After closing the gaps every line of the node that is replaced is a line of some draft. -/
theorem exists_mem_closeGaps_line (s : Source) {whole : Span} {line : Nat} {ds : List Draft}
    (hds : ds ≠ []) (hfirst : whole.firstLine ≤ line) (hlast : line ≤ whole.lastLine) :
    ∃ e ∈ closeGaps s whole ds, e.span.firstLine ≤ line ∧ line ≤ e.span.lastLine := by
  cases ds with
  | nil => exact absurd rfl hds
  | cons d rest =>
    have hf := firstLine_stretchStart_le whole d
    exact exists_mem_stretchEnds_line s hlast (by omega)

end Draft

/-! ## Lasting properties of spans -/

/-- A property of spans that joining neighbours and closing gaps keep. -/
structure Span.Lasting (s : Source) (R : Span → Prop) : Prop where
  merge : ∀ {a b : Span}, R a → R b → R (a.merge b)
  stretchStart : ∀ {whole : Span} {d : Draft}, R whole → R d.span → R (d.stretchStart whole).span
  stretchTo : ∀ {d next : Draft}, R d.span → R next.span →
    R (d.stretchTo s next.span.firstLine).span
  stretchEnd : ∀ {whole : Span} {d : Draft}, R whole → R d.span → R (d.stretchEnd whole).span

namespace Span.Lasting

variable {s : Source} {R : Span → Prop} {whole : Span} {ds : List Draft}

theorem stretchEnds (h : Lasting s R) (hw : R whole) (hds : ∀ d ∈ ds, R d.span) :
    ∀ e ∈ Draft.stretchEnds s whole ds, R e.span := by
  fun_induction Draft.stretchEnds s whole ds with
  | case1 => exact hds
  | case2 d =>
    intro e he
    rw [List.mem_singleton.1 he]
    exact h.stretchEnd hw (hds d List.mem_cons_self)
  | case3 d e rest ih =>
    intro f hf
    rcases List.mem_cons.1 hf with rfl | hf
    · exact h.stretchTo (hds d List.mem_cons_self) (hds e (by simp))
    · exact ih (fun g hg => hds g (List.mem_cons_of_mem _ hg)) f hf

theorem closeGaps (h : Lasting s R) (hw : R whole) (hds : ∀ d ∈ ds, R d.span) :
    ∀ e ∈ Draft.closeGaps s whole ds, R e.span := by
  cases ds with
  | nil => exact hds
  | cons d rest =>
    apply h.stretchEnds hw
    intro e he
    rcases List.mem_cons.1 he with rfl | he
    · exact h.stretchStart hw (hds d List.mem_cons_self)
    · exact hds e (List.mem_cons_of_mem _ he)

end Span.Lasting

theorem Span.lasting_bounded (s : Source) : Lasting s (Bounded s) where
  merge ha hb := ⟨ha.1.min hb.1, ha.2.max hb.2⟩
  stretchStart {whole d} hw hd := by
    unfold Draft.stretchStart
    split
    · exact ⟨hd.1.min hw.1, hd.2⟩
    · exact hd
  stretchTo {d next} hd _ := by
    unfold Draft.stretchTo
    split
    · refine ⟨hd.1, ?_⟩
      dsimp only
      split
      · next hline => exact hd.2.max (Source.isBoundary_of_lineStart? hline)
      · exact hd.2
    · exact hd
  stretchEnd {whole d} hw hd := by
    unfold Draft.stretchEnd
    split
    · exact ⟨hd.1, hd.2.max hw.2⟩
    · exact hd

/-- A draft with a text keeps it: it only grows, and to boundaries. -/
theorem Span.lasting_filled (s : Source) : Lasting s (Filled s) where
  merge {a b} ha hb :=
    ha.widen ((lasting_bounded s).merge ha.bounded hb.bounded) (within_merge_left a b)
  stretchStart {whole d} hw hd :=
    hd.widen ((lasting_bounded s).stretchStart hw.bounded hd.bounded)
      (Draft.grows_stretchStart whole d).within
  stretchTo {d next} hd hn :=
    hd.widen ((lasting_bounded s).stretchTo hd.bounded hn.bounded)
      (Draft.grows_stretchTo s next.span.firstLine d).within
  stretchEnd {whole d} hw hd :=
    hd.widen ((lasting_bounded s).stretchEnd hw.bounded hd.bounded)
      (Draft.grows_stretchEnd whole d).within

end CodeChunks
