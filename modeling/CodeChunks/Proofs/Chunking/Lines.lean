import CodeChunks.Proofs.Chunking.Order

/-!
# The lines of chunks

The bytes and the lines of a span are changed side by side, each by rules of its own. If no node is
empty, they still agree in every draft, which is `Span.Exact`: the first line is that of the first
byte and the last line that of the last byte. Joining keeps this because lines never run backwards.
A gap is closed up to the start of the first line of the next draft, and the byte before that is on
the line before.
-/

namespace CodeChunks

/-- A span is not empty, and its lines are those of its first and of its last byte. -/
structure Span.Exact (s : Source) (a : Span) : Prop where
  lt : a.start < a.stop
  located : a.Located s
  lastLine : a.lastLine = s.lineOf (a.stop - 1)

namespace Span.Exact

variable {s : Source} {a b : Span}

theorem stop_lt (ha : a.Exact s) (hb : b.Exact s) (h : a.lastLine < b.lastLine) :
    a.stop < b.stop := by
  rw [ha.lastLine, hb.lastLine] at h
  by_contra hle
  have hmono := s.lineOf_mono (show b.stop - 1 ≤ a.stop - 1 by omega)
  omega

theorem merge (ha : a.Exact s) (hb : b.Exact s) : (a.merge b).Exact s where
  lt := by
    have := ha.lt
    simp only [Span.merge]
    omega
  located := (lasting_located s).merge ha.located hb.located
  lastLine := by
    have hla := ha.lastLine
    have hlb := hb.lastLine
    rcases Nat.le_total a.stop b.stop with h | h
    · have hmono := s.lineOf_mono (Nat.sub_le_sub_right h 1)
      simp only [Span.merge, Nat.max_eq_right h]
      omega
    · have hmono := s.lineOf_mono (Nat.sub_le_sub_right h 1)
      simp only [Span.merge, Nat.max_eq_left h]
      omega

variable {d next : Draft} {whole : Span}

theorem stretchStart (hw : whole.Exact s) (hd : d.span.Exact s) :
    (d.stretchStart whole).span.Exact s := by
  refine ⟨?_, (lasting_located s).stretchStart hw.located hd.located, ?_⟩
  all_goals
    unfold Draft.stretchStart
    split
  · have := hd.lt
    dsimp only
    omega
  · exact hd.lt
  · exact hd.lastLine
  · exact hd.lastLine

/-- A gap is closed up to the byte before the first line of the next draft. -/
theorem stretchTo (hd : d.span.Exact s) (hn : next.span.Exact s) :
    (d.stretchTo s next.span.firstLine).span.Exact s := by
  refine ⟨?_, (lasting_located s).stretchTo hd.located hn.located, ?_⟩
  all_goals
    unfold Draft.stretchTo
    split
  · have := hd.lt
    dsimp only
    split <;> omega
  · exact hd.lt
  · next hgap =>
    rw [show next.span.firstLine = _ from hn.located] at hgap ⊢
    obtain ⟨byte, hbyte⟩ := s.exists_lineStart?_lineOf next.span.start
    obtain ⟨n, hline⟩ : ∃ n, s.lineOf next.span.start = n + 2 :=
      ⟨s.lineOf next.span.start - 2, by omega⟩
    rw [hline] at hbyte hgap ⊢
    -- The draft ends on an earlier line than the one that starts at `byte`.
    have hbefore : d.span.stop ≤ byte := by
      have hiff := Source.le_lineOf_iff (d.span.stop - 1) hbyte
      rw [← hd.lastLine] at hiff
      have := hd.lt
      omega
    simp only [hbyte, Nat.max_eq_right hbefore]
    exact (Source.lineOf_pred hbyte).2.symm
  · exact hd.lastLine

theorem stretchEnd (hw : whole.Exact s) (hd : d.span.Exact s) :
    (d.stretchEnd whole).span.Exact s := by
  refine ⟨?_, (lasting_located s).stretchEnd hw.located hd.located, ?_⟩
  all_goals
    unfold Draft.stretchEnd
    split
  · have := hd.lt
    dsimp only
    omega
  · exact hd.lt
  · next h =>
    have hstop := hd.stop_lt hw h
    simp only [Nat.max_eq_right (Nat.le_of_lt hstop)]
    exact hw.lastLine
  · exact hd.lastLine

end Span.Exact

theorem Span.lasting_exact (s : Source) : Lasting s (Exact s) where
  merge := Exact.merge
  stretchStart := Exact.stretchStart
  stretchTo := Exact.stretchTo
  stretchEnd := Exact.stretchEnd

theorem SyntaxTree.WellFormed.exact {t : SyntaxTree} (ht : t.WellFormed) {i : Nat}
    (hi : i < t.size) (hne : (t.span i).start < (t.span i).stop) :
    (t.span i).Exact t.source := by
  refine ⟨hne, ht.located hi, ?_⟩
  obtain ⟨start, stop, _, _, hspan⟩ := ht.span i hi
  rw [hspan] at hne ⊢
  simp only [Span.ofBytes] at hne ⊢
  rw [Nat.max_eq_left (by omega)]

theorem Span.Exact.lineRange {s : Source} {a : Span} (h : a.Exact s) :
    (LineRange.of a.firstLine a.lastLine).first = 1 + s.newlinesBefore a.start ∧
      (LineRange.of a.firstLine a.lastLine).last = 1 + s.newlinesBefore (a.stop - 1) := by
  have hone := s.one_le_lineOf a.start
  have hmono := s.lineOf_mono (show a.start ≤ a.stop - 1 from Nat.le_sub_one_of_lt h.lt)
  have hfirst : a.firstLine = s.lineOf a.start := h.located
  have hlast := h.lastLine
  rw [← s.lineOf_eq_newlinesBefore, ← s.lineOf_eq_newlinesBefore]
  simp only [LineRange.of]
  omega

def Sample.function : Draft := ⟨⟨24, 43, 3, 5⟩, 9, 3, .node, 0⟩

namespace Settings

variable {s : Settings} {f : SourceFile} {stamp : Stamp} {t : SyntaxTree} {cs : List Chunk}
  {asked : List String}

/-- If no node is empty, then the content of a chunk is the text between the ends of its draft, and
the lines of the chunk are those of the first and of the last byte of this text. -/
theorem lines_eq_newlinesBefore (ht : t.Built)
    (hne : ∀ i : Nat, i < t.size → (t.span i).start < (t.span i).stop)
    (hrun : s.runTree f stamp t = (.chunks cs, asked)) {n : Nat} {c : Chunk}
    (hc : cs[n]? = some c) :
    ∃ d, (s.emitted f t)[n]? = some d ∧ d.span.start < d.span.stop ∧
      Text.slice? t.source.chars d.span.start d.span.stop = some c.content.toList ∧
      c.lines.first = 1 + t.source.newlinesBefore d.span.start ∧
      c.lines.last = 1 + t.source.newlinesBefore (d.span.stop - 1) := by
  rw [getElem?_of_runTree hrun, Option.map_eq_some_iff] at hc
  obtain ⟨d, hd, rfl⟩ := hc
  obtain ⟨hplan, hfilled⟩ := mem_emitted.1 (List.mem_of_getElem? hd)
  have hexact : d.span.Exact t.source :=
    Selector.forall_plan (s := s.selector f t) ht.wellFormed (Span.lasting_exact _)
      (fun i hi => ht.wellFormed.exact hi (hne i hi)) d hplan
  rw [content_chunkOf, lines_chunkOf, String.toList_ofList]
  exact ⟨d, hd, hexact.lt, Text.slice?_eq_some_slice hfilled, hexact.lineRange⟩

/-- The chunk of a function that took in the empty line after it has the lines of its text. -/
theorem function_lines : ∃ cs asked c,
    (Sample.settings 4).runTree Sample.file Sample.stamp Sample.tree = (.chunks cs, asked) ∧
      cs[1]? = some c ∧ Text.slice? Sample.tree.source.chars 24 43 = some c.content.toList ∧
      c.lines.first = 3 ∧ c.lines.last = 5 := by
  obtain ⟨asked, hrun⟩ := Sample.exists_runTree
  have hfunction : ((Sample.settings 4).emitted Sample.file Sample.tree)[1]? =
      some Sample.function := by decide +kernel
  have hc := getElem?_of_runTree hrun 1
  rw [hfunction, Option.map_some] at hc
  obtain ⟨d, hd, _, hslice, hfirst, hlast⟩ :=
    lines_eq_newlinesBefore Sample.built_tree (by decide +kernel) hrun hc
  obtain rfl : Sample.function = d := Option.some.inj (hfunction.symm.trans hd)
  have hbefore : Sample.tree.source.newlinesBefore Sample.function.span.start = 2 := by
    decide +kernel
  have hwithin : Sample.tree.source.newlinesBefore (Sample.function.span.stop - 1) = 4 := by
    decide +kernel
  rw [hbefore] at hfirst
  rw [hwithin] at hlast
  exact ⟨_, asked, _, hrun, hc, hslice, hfirst, hlast⟩

end Settings

end CodeChunks
