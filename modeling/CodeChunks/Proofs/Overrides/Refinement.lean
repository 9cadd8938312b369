import CodeChunks.Overrides.Basic
import CodeChunks.Proofs.Evidence.Made
import CodeChunks.Proofs.Evidence.Shortcut

/-!
# Patterns that refine a verdict

After the grammar has spoken, the `FirstRival` among the patterns, the first of another class that
matches anywhere in the name of the kind, is compared with its verdict. The pattern `Displaces` the
verdict only if it is strictly more confident, and what is displaced is not lost: its class and its
alternates become alternates of the new verdict. No pattern is more confident than ninety-five
hundredths, so exceptions, floating comments and tokens other than comments keep the verdict of the
grammar.
-/

namespace CodeChunks

namespace Verdict

theorem percent_ofTarget (c : CodeClass) (m : Method) (e : EvidenceSet) (target : Int) :
    (ofTarget c m e target).percent = max 0 (min 100 target) := by
  have hsum : e.weight + adjustmentFor e target = target := by
    unfold adjustmentFor
    omega
  rw [percent_eq]
  show max 0 (min 100 (e.weight + adjustmentFor e target)) = _
  rw [hsum]

/-- A verdict of another class takes the place of `base`. It is more confident, and its alternates
are the class of `base` and what `base` considered besides the new class. -/
structure Displaces (v base : Verdict) : Prop where
  cls : v.cls ≠ base.cls
  method : v.method = .patternMatch
  percent : base.percent < v.percent
  ordered : v.alternates.Ordered
  alternates : ∀ c, v.alternates.get? c =
    if c = base.cls then some base.evidence
    else if c = v.cls then none
    else base.alternates.get? c

end Verdict

/-! ## Patterns -/

namespace KindPattern

variable (p : KindPattern) (kind : String)

/-- A pattern of another class than a verdict that matches somewhere in the name. -/
def Rivals (base : Verdict) : Prop := p.cls ≠ base.cls ∧ p.anyPlace.isMatch kind = true

theorem percent_le : p.percent kind ≤ 95 := Int.min_le_left _ _

theorem sixty_le_percent : 60 ≤ p.percent kind := by
  unfold percent maxPercent
  dsimp only
  split <;> split <;> omega

theorem percent_verdict : (p.verdict kind).percent = p.percent kind := by
  have hle := p.percent_le kind
  have hge := p.sixty_le_percent kind
  rw [verdict, Verdict.percent_ofTarget]
  omega

/-- A verdict gives way to a more confident one of a pattern, which keeps what was found before. -/
theorem displaces {p : KindPattern} {kind : String} {base : Verdict} (hbase : base.Tidy)
    (hcls : p.cls ≠ base.cls) (hlt : base.percent < p.percent kind) :
    ((p.verdict kind).withAlternates
      (base.alternates ++ [(base.cls, base.evidence)])).Displaces base where
  cls := hcls
  method := rfl
  percent := by
    rw [← percent_verdict] at hlt
    exact hlt
  ordered := Alternates.ordered_addOthers .nil _ _
  alternates c := by
    have hnodup : ((base.alternates ++ [(base.cls, base.evidence)]).map Prod.fst).Nodup := by
      rw [List.map_append, List.nodup_append]
      refine ⟨hbase.ordered.nodup, List.pairwise_singleton _ _, fun c hc d hd he => ?_⟩
      obtain ⟨x, hx, rfl⟩ := List.mem_map.1 hc
      exact hbase.ne x hx (he.trans (List.mem_singleton.1 hd))
    have hfound : (Alternates.addOthers p.cls [] (base.alternates ++
        [(base.cls, base.evidence)])).get? c =
          if c = p.cls then none else
            (base.alternates ++ [(base.cls, base.evidence)]).lookup c :=
      Alternates.get?_addOthers_of_nodup .nil hnodup (fun _ _ => rfl) c
    rw [List.lookup_append] at hfound
    refine hfound.trans ?_
    by_cases hc : c = base.cls
    · subst hc
      have hown : base.alternates.lookup base.cls = none :=
        Alternates.get?_eq_none_of_forall hbase.ne
      rw [if_neg (Ne.symm hcls), if_pos rfl, hown]
      simp
    · have hother : List.lookup c [(base.cls, base.evidence)] = none := by simp [hc]
      rw [if_neg hc, hother, Option.or_none]
      rfl

end KindPattern

/-! ## Refining -/

namespace Overrides

variable (o : Overrides) (base : Verdict) (kind : String) (l : Language)

/-- The first pattern of the language that is a rival of a verdict. -/
def FirstRival (p : KindPattern) : Prop :=
  ∃ before after, o.patternsFor l = before ++ p :: after ∧ p.Rivals kind base ∧
    ∀ q ∈ before, ¬ q.Rivals kind base

variable {o base kind l} {p : KindPattern}

theorem firstRival_iff : o.FirstRival base kind l p ↔
    (o.patternsFor l).find? (fun p => p.cls != base.cls && p.anyPlace.isMatch kind) = some p := by
  rw [List.find?_eq_some_iff_append]
  have hrivals : ∀ q : KindPattern,
      (q.cls != base.cls && q.anyPlace.isMatch kind) = true ↔ q.Rivals kind base := by
    simp [KindPattern.Rivals]
  have hnot : ∀ q : KindPattern,
      (!(q.cls != base.cls && q.anyPlace.isMatch kind)) = true ↔ ¬ q.Rivals kind base := by
    intro q
    rw [Bool.not_eq_true', ← Bool.not_eq_true, hrivals]
  simp only [hrivals, hnot]
  constructor
  · rintro ⟨before, after, hsplit, hp, hbefore⟩
    exact ⟨hp, before, after, hsplit, hbefore⟩
  · rintro ⟨hp, before, after, hsplit, hbefore⟩
    exact ⟨before, after, hsplit, hp, hbefore⟩

theorem FirstRival.unique {q : KindPattern} (hp : o.FirstRival base kind l p)
    (hq : o.FirstRival base kind l q) : p = q :=
  Option.some.inj ((firstRival_iff.1 hp).symm.trans (firstRival_iff.1 hq))

theorem FirstRival.cls_ne (h : o.FirstRival base kind l p) : p.cls ≠ base.cls := by
  obtain ⟨_, _, _, hp, _⟩ := h
  exact hp.1

theorem FirstRival.rival? (h : o.FirstRival base kind l p) :
    o.rival? base kind l = some (p.verdict kind) := by
  rw [Overrides.rival?, firstRival_iff.1 h, Option.map_some]

theorem refine_of_lt (h : o.FirstRival base kind l p) (hlt : base.percent < p.percent kind) :
    o.refine base kind l =
      (p.verdict kind).withAlternates (base.alternates ++ [(base.cls, base.evidence)]) := by
  rw [refine, h.rival?]
  dsimp only
  rw [if_pos (by rwa [p.percent_verdict])]

theorem refine_of_le (h : o.FirstRival base kind l p) (hle : p.percent kind ≤ base.percent) :
    o.refine base kind l = base := by
  rw [refine, h.rival?]
  dsimp only
  rw [if_neg (by rw [p.percent_verdict]; omega)]

theorem refine_of_not_exists (h : ¬ ∃ p, o.FirstRival base kind l p) :
    o.refine base kind l = base := by
  have hnone : o.rival? base kind l = none := by
    rw [Overrides.rival?, Option.map_eq_none_iff]
    cases hfind : (o.patternsFor l).find?
        (fun p => p.cls != base.cls && p.anyPlace.isMatch kind) with
    | none => rfl
    | some p => exact absurd ⟨p, firstRival_iff.2 hfind⟩ h
  rw [refine, hnone]

theorem refine_of_confident (h : 95 ≤ base.percent) : o.refine base kind l = base := by
  by_cases hp : ∃ p, o.FirstRival base kind l p
  · obtain ⟨p, hp⟩ := hp
    exact refine_of_le hp (Int.le_trans (p.percent_le kind) h)
  · exact refine_of_not_exists hp

/-- What exceptions, floating comments, and tokens that are no comments say is beyond patterns. -/
theorem confident_of_mem_signals {s : Subject} {v : Verdict}
    (h : v ∈ Signal.exception s ∨ v ∈ Signal.floating s ∨
      v ∈ Signal.purpose s ∧ ∀ k, s.described = some k → k.shape ≠ .token .comment) :
    95 ≤ v.percent := by
  rcases h with h | h | ⟨h, hcomment⟩
  · rw [(Signal.score_of_mem_exception h).1]
    decide
  · rw [(Signal.score_of_mem_floating h).1]
    decide
  · cases hk : s.described with
    | none =>
      rw [Signal.purpose, hk] at h
      cases h
    | some k =>
      cases hg : k.shape with
      | composite direct positional =>
        simp only [Signal.purpose, hk, hg] at h
        cases h
      | token g =>
        obtain ⟨w, hw, -, hpercent, -⟩ := Signal.purpose_of_token hk hg
        have hother : g ≠ .comment := fun he => hcomment k hk (he ▸ hg)
        rw [hw] at h
        rw [List.mem_singleton.1 h, hpercent, if_neg hother]

/-- Whatever the patterns match, refining leaves a verdict exactly as it is or displaces it by a
strictly more confident one that loses nothing of it. Which of the two is settled by the first
pattern of another class that matches. A verdict at ninety-five hundredths or more always stays, and
so do those of exceptions, of floating comments and of tokens that are no comments. -/
theorem refine_only_improves (o : Overrides) {base : Verdict} (hbase : base.Made) (kind : String)
    (l : Language) :
    ((o.refine base kind l = base ∧
        ∀ p, o.FirstRival base kind l p → p.percent kind ≤ base.percent) ∨
      ∃ p, o.FirstRival base kind l p ∧ (o.refine base kind l).cls = p.cls ∧
        (o.refine base kind l).percent = p.percent kind ∧
        (o.refine base kind l).Displaces base) ∧
    (95 ≤ base.percent → o.refine base kind l = base) ∧
    ∀ (s : Subject) (v : Verdict),
      (v ∈ Signal.exception s ∨ v ∈ Signal.floating s ∨
        v ∈ Signal.purpose s ∧ ∀ k, s.described = some k → k.shape ≠ .token .comment) →
      o.refine v kind l = v := by
  refine ⟨?_, refine_of_confident, fun s v hv => refine_of_confident (confident_of_mem_signals hv)⟩
  by_cases hex : ∃ p, o.FirstRival base kind l p
  · obtain ⟨p, hp⟩ := hex
    by_cases hlt : base.percent < p.percent kind
    · right
      refine ⟨p, hp, ?_⟩
      rw [refine_of_lt hp hlt]
      exact ⟨rfl, p.percent_verdict kind, KindPattern.displaces hbase.tidy hp.cls_ne hlt⟩
    · left
      have hle : p.percent kind ≤ base.percent := by omega
      refine ⟨refine_of_le hp hle, fun q hq => ?_⟩
      rwa [← hp.unique hq]
  · left
    exact ⟨refine_of_not_exists hex, fun p hp => absurd ⟨p, hp⟩ hex⟩

end Overrides

namespace Sample

def statementOverrides : Overrides :=
  (Overrides.empty.register .python "statement" (.core .boundaryResource) "statement" true).toOption
    |>.getD .empty

/-- A guess at seventy hundredths. It also considered the class of the pattern, and another one. -/
def guessedStatement : Verdict :=
  (⟨.core .flowBranching, .positional, .single .heuristic, 60, []⟩ : Verdict).withAlternates
    [(.core .boundaryResource, .single .language), (.core .flowControl, .single .categories)]

end Sample

namespace Overrides

/-- The pattern displaces the guess. Its own class is no longer an alternate, and that of the guess
is one now. At ninety-five hundredths the guess would have stayed. -/
theorem guessedStatement_displaced :
    (∃ v, Sample.statementOverrides.refine Sample.guessedStatement "with_statement" .python = v ∧
      v.cls = .core .boundaryResource ∧ v.percent = 74 ∧ v.Displaces Sample.guessedStatement ∧
      v.alternates = [(.core .flowBranching, .single .heuristic),
        (.core .flowControl, .single .categories)]) ∧
    Sample.statementOverrides.refine (Sample.guessedStatement.rescored 95) "with_statement"
      .python = Sample.guessedStatement.rescored 95 := by
  have hmade : Sample.guessedStatement.Made := .withAlternates _ (.new _ _ _ _)
  have hrefined : Sample.statementOverrides.refine Sample.guessedStatement "with_statement"
      .python = ⟨.core .boundaryResource, .patternMatch, KindPattern.evidence, 24,
        [(.core .flowBranching, .single .heuristic),
          (.core .flowControl, .single .categories)]⟩ := by
    decide +kernel
  constructor
  · rcases (refine_only_improves Sample.statementOverrides hmade "with_statement" .python).1 with
      ⟨hsame, -⟩ | ⟨p, -, -, -, hdisplaces⟩
    · rw [hrefined] at hsame
      exact absurd hsame (by decide)
    · rw [hrefined] at hdisplaces ⊢
      exact ⟨_, rfl, rfl, by decide, hdisplaces, rfl⟩
  · exact (refine_only_improves Sample.statementOverrides (hmade.rescored 95) "with_statement"
      .python).2.1 (by decide)

end Overrides

end CodeChunks
