import CodeChunks.Proofs.Evidence.Winner
import Mathlib.Data.List.Basic
import Mathlib.Data.Prod.Lex

/-!
# What candidates come to together

The combined verdict is that of the `FirstBest` candidate, the first with the highest `score`, a
percentage and then the strongest evidence. It has the evidence of all candidates of its class
(`evidenceOf`), and the candidates of other classes are noted as alternates. It is reinforced if
another candidate agrees and all are of one rank. It is never penalised: ranks lie four tiers apart
at most, and so does their mean. So no candidate is more confident than all of them together.
-/

namespace CodeChunks

namespace EvidenceSet

variable {s t : EvidenceSet}

theorem weight_nonneg (e : Evidence) : 0 ≤ e.weight := by cases e <;> decide

theorem foldl_weight_le (h : ∀ e, s.has e = true → t.has e = true) (es : List Evidence)
    {m n : Int} (hmn : m ≤ n) :
    (es.filter s.has).foldl (fun w e => w + e.weight) m ≤
      (es.filter t.has).foldl (fun w e => w + e.weight) n := by
  induction es generalizing m n with
  | nil => exact hmn
  | cons e es ih =>
    have hweight := weight_nonneg e
    rw [List.filter_cons, List.filter_cons]
    cases hs : s.has e with
    | true =>
      rw [h e hs]
      exact ih (Int.add_le_add_right hmn _)
    | false =>
      cases t.has e with
      | true =>
        have hmore : m ≤ n + e.weight := by omega
        exact ih hmore
      | false => exact ih hmn

theorem weight_le (h : ∀ e, s.has e = true → t.has e = true) : s.weight ≤ t.weight :=
  foldl_weight_le h _ (Int.le_refl 0)

def full : EvidenceSet := ⟨255⟩

theorem has_full (e : Evidence) : full.has e = true := by cases e <;> decide

theorem weight_full : full.weight = 475 := by decide

theorem weight_empty : empty.weight = 0 := by decide

theorem zero_le_weight (s : EvidenceSet) : 0 ≤ s.weight := by
  have h : empty.weight ≤ s.weight := weight_le fun e he => by simp at he
  rwa [weight_empty] at h

theorem weight_le_full (s : EvidenceSet) : s.weight ≤ 475 := by
  rw [← weight_full]
  exact weight_le fun e _ => has_full e

end EvidenceSet

/-! ## Alternates -/

namespace Alternates

/-- The classes are in order, each once. -/
def Ordered (a : Alternates) : Prop := a.Pairwise fun x y => x.1.index < y.1.index

variable {a : Alternates}

theorem get?_cons (d x : CodeClass) (f : EvidenceSet) (a : Alternates) :
    get? ((d, f) :: a) x = if d = x then some f else a.get? x := by
  unfold get?
  rw [List.lookup_cons]
  by_cases h : d = x
  · simp [h]
  · simp [h, beq_false_of_ne (Ne.symm h)]

theorem get?_of_lt {c : CodeClass} (h : ∀ x ∈ a, c.index < x.1.index) : a.get? c = none := by
  refine List.lookup_eq_none_iff.2 fun x hx => bne_iff_ne.2 ?_
  rintro rfl
  exact Nat.lt_irrefl _ (h x hx)

theorem Ordered.lt_of_mem {y x : CodeClass × EvidenceSet} {c : CodeClass}
    (h : Ordered (y :: a)) (hc : c.index < y.1.index) (hx : x ∈ y :: a) :
    c.index < x.1.index := by
  rcases List.mem_cons.1 hx with rfl | hx
  · exact hc
  · exact Nat.lt_trans hc ((List.pairwise_cons.1 h).1 x hx)

theorem class_of_mem_add {c : CodeClass} {e : EvidenceSet} {x : CodeClass × EvidenceSet}
    (h : x ∈ a.add c e) : x.1 = c ∨ ∃ y ∈ a, y.1 = x.1 := by
  induction a with
  | nil => exact .inl (by rw [List.mem_singleton.1 h])
  | cons y a ih =>
    obtain ⟨d, f⟩ := y
    rw [add] at h
    split at h
    · rcases List.mem_cons.1 h with rfl | h
      · exact .inl rfl
      · exact .inr ⟨x, h, rfl⟩
    · split at h
      · rcases List.mem_cons.1 h with rfl | h
        · exact .inr ⟨(d, f), List.mem_cons_self, rfl⟩
        · exact .inr ⟨x, List.mem_cons_of_mem _ h, rfl⟩
      · rcases List.mem_cons.1 h with rfl | h
        · exact .inr ⟨(d, f), List.mem_cons_self, rfl⟩
        · refine (ih h).imp_right ?_
          rintro ⟨y, hy, hyx⟩
          exact ⟨y, List.mem_cons_of_mem _ hy, hyx⟩

theorem ordered_add (h : a.Ordered) (c : CodeClass) (e : EvidenceSet) : (a.add c e).Ordered := by
  induction a with
  | nil => exact List.pairwise_singleton _ _
  | cons y a ih =>
    obtain ⟨d, f⟩ := y
    obtain ⟨hd, ha⟩ := List.pairwise_cons.1 h
    rw [add]
    split
    · rename_i hlt
      exact List.pairwise_cons.2 ⟨fun x hx => h.lt_of_mem hlt hx, h⟩
    · split
      · exact List.pairwise_cons.2 ⟨hd, ha⟩
      · rename_i hlt hne
        have hdc : d.index < c.index := by
          have hindex : c.index ≠ d.index := fun e => hne (CodeClass.index_inj e)
          omega
        refine List.pairwise_cons.2 ⟨fun x hx => ?_, ih ha⟩
        rcases class_of_mem_add hx with hx | ⟨y, hy, hyx⟩
        · rw [hx]
          exact hdc
        · rw [← hyx]
          exact hd y hy

theorem get?_add (h : a.Ordered) (c x : CodeClass) (e : EvidenceSet) :
    (a.add c e).get? x =
      if c = x then some (((a.get? x).getD .empty).union e) else a.get? x := by
  induction a with
  | nil =>
    rw [add, get?_cons]
    split <;> simp [get?]
  | cons y a ih =>
    obtain ⟨d, f⟩ := y
    obtain ⟨-, ha⟩ := List.pairwise_cons.1 h
    rw [add]
    split
    · rename_i hlt
      have hnone : get? ((d, f) :: a) c = none := get?_of_lt fun x hx => h.lt_of_mem hlt hx
      rw [get?_cons]
      by_cases hx : c = x
      · subst hx
        simp [hnone]
      · simp [hx]
    · split
      · rename_i hcd
        subst hcd
        rw [get?_cons, get?_cons]
        by_cases hx : c = x <;> simp [hx]
      · rename_i hcd
        rw [get?_cons, get?_cons, ih ha]
        by_cases hx : d = x
        · subst hx
          simp [hcd]
        · simp [hx]

theorem ordered_addOthers (h : a.Ordered) (winner : CodeClass)
    (more : List (CodeClass × EvidenceSet)) : (a.addOthers winner more).Ordered := by
  induction more generalizing a with
  | nil => exact h
  | cons x more ih =>
    unfold addOthers
    rw [List.foldl_cons]
    dsimp only
    split
    · exact ih h
    · exact ih (ordered_add h _ _)

end Alternates

namespace Verdict

/-! ## Candidates of one class -/

/-- The evidence of all candidates of a class. -/
def evidenceOf (c : CodeClass) (vs : List Verdict) : EvidenceSet :=
  ((vs.filter (·.cls == c)).map (·.evidence)).foldr .union .empty

variable {c : CodeClass} {v w : Verdict} {vs ws others : List Verdict}

theorem evidenceOf_cons (c : CodeClass) (v : Verdict) (vs : List Verdict) :
    evidenceOf c (v :: vs) =
      if v.cls = c then v.evidence.union (evidenceOf c vs) else evidenceOf c vs := by
  unfold evidenceOf
  by_cases h : v.cls = c <;> simp [h]

theorem has_evidenceOf {e : Evidence} :
    (evidenceOf c vs).has e = true ↔ ∃ v ∈ vs, v.cls = c ∧ v.evidence.has e = true := by
  induction vs with
  | nil => simp [evidenceOf]
  | cons v vs ih =>
    rw [evidenceOf_cons, List.exists_mem_cons_iff, ← ih]
    by_cases h : v.cls = c <;> simp [h]

/-- Neither the order of candidates nor repetitions matter for their evidence. -/
theorem evidenceOf_congr (h : ∀ v, v ∈ vs ↔ v ∈ ws) (c : CodeClass) :
    evidenceOf c vs = evidenceOf c ws := by
  refine EvidenceSet.ext_has fun e => ?_
  rw [Bool.eq_iff_iff, has_evidenceOf, has_evidenceOf]
  simp only [h]

theorem evidenceOf_of_not_exists (h : ¬ ∃ v ∈ vs, v.cls = c) : evidenceOf c vs = .empty := by
  refine EvidenceSet.ext_has fun e => ?_
  rw [EvidenceSet.has_empty, ← Bool.not_eq_true, has_evidenceOf]
  rintro ⟨v, hv, hc, -⟩
  exact h ⟨v, hv, hc⟩

/-- What candidates add to the alternates of a winner. -/
def notes (vs : List Verdict) : List (CodeClass × EvidenceSet) :=
  vs.map fun v => (v.cls, v.evidence)

theorem get?_addOthers {a : Alternates} (h : a.Ordered) (winner : CodeClass) (vs : List Verdict)
    (c : CodeClass) : (a.addOthers winner (notes vs)).get? c =
      if c ≠ winner ∧ ∃ v ∈ vs, v.cls = c then
        some (((a.get? c).getD .empty).union (evidenceOf c vs))
      else a.get? c := by
  induction vs generalizing a with
  | nil => simp [notes, Alternates.addOthers]
  | cons v vs ih =>
    have hstep : a.addOthers winner (notes (v :: vs)) =
        (if v.cls = winner then a else a.add v.cls v.evidence).addOthers winner (notes vs) := rfl
    rw [hstep, evidenceOf_cons]
    simp only [List.exists_mem_cons_iff]
    by_cases hw : v.cls = winner
    · rw [if_pos hw, ih h]
      by_cases hc : v.cls = c
      · simp [← hc, hw]
      · simp [hc]
    · rw [if_neg hw, ih (Alternates.ordered_add h _ _), Alternates.get?_add h]
      by_cases hc : v.cls = c
      · have hcw : c ≠ winner := hc ▸ hw
        by_cases hmore : ∃ v ∈ vs, v.cls = c
        · simp [hc, hcw, hmore, EvidenceSet.union_assoc]
        · simp [hc, hcw, hmore, evidenceOf_of_not_exists hmore]
      · simp [hc]

/-! ## The winner and the others -/

def score (v : Verdict) : Int ×ₗ Int := toLex (v.percent, v.evidence.strongest)

theorem beats_iff_score : v.beats w = true ↔ w.score < v.score := by
  rw [beats_iff, score, score, Prod.Lex.toLex_lt_toLex]
  exact or_congr_right (and_congr_left' eq_comm)

theorem percent_le_of_score (h : v.score ≤ w.score) : v.percent ≤ w.percent := by
  rcases Prod.Lex.toLex_le_toLex.1 h with h | ⟨h, -⟩
  · exact Int.le_of_lt h
  · exact Int.le_of_eq h

/-- The first candidate with the highest score, and the others. -/
def FirstBest (vs : List Verdict) (w : Verdict) (others : List Verdict) : Prop :=
  ∃ before after, vs = before ++ w :: after ∧ others.Perm (before ++ after) ∧
    (∀ v ∈ before, v.score < w.score) ∧ ∀ v ∈ after, v.score ≤ w.score

namespace FirstBest

theorem score_le (h : FirstBest vs w others) (hv : v ∈ vs) : v.score ≤ w.score := by
  obtain ⟨before, after, rfl, -, hbefore, hafter⟩ := h
  rcases List.mem_append.1 hv with hv | hv
  · exact le_of_lt (hbefore v hv)
  · rcases List.mem_cons.1 hv with rfl | hv
    · exact le_refl _
    · exact hafter v hv

theorem mem_iff (h : FirstBest vs w others) : v ∈ vs ↔ v ∈ w :: others := by
  obtain ⟨before, after, rfl, hperm, -, -⟩ := h
  rw [List.perm_middle.mem_iff, List.mem_cons, List.mem_cons, hperm.mem_iff]

theorem cons_of_lt (h : FirstBest vs w others) (hv : v.score < w.score) :
    FirstBest (v :: vs) w (v :: others) := by
  obtain ⟨before, after, rfl, hperm, hbefore, hafter⟩ := h
  refine ⟨v :: before, after, rfl, hperm.cons v, fun u hu => ?_, hafter⟩
  rcases List.mem_cons.1 hu with rfl | hu
  · exact hv
  · exact hbefore u hu

/-- A candidate that does not beat the one before it changes nothing. -/
theorem cons_cons {b : Verdict} (h : FirstBest (b :: vs) w others) (hv : v.score ≤ b.score) :
    FirstBest (b :: v :: vs) w (v :: others) := by
  obtain ⟨before, after, hsplit, hperm, hbefore, hafter⟩ := h
  cases before with
  | nil =>
    obtain ⟨rfl, rfl⟩ := List.cons.inj hsplit
    refine ⟨[], v :: vs, rfl, hperm.cons v, List.forall_mem_nil _, fun u hu => ?_⟩
    rcases List.mem_cons.1 hu with rfl | hu
    · exact hv
    · exact hafter u hu
  | cons u before =>
    obtain ⟨rfl, rfl⟩ := List.cons.inj hsplit
    refine ⟨b :: v :: before, after, rfl, ?_, fun u hu => ?_, hafter⟩
    · exact (hperm.cons v).trans (.swap b v _)
    · have hb := hbefore b List.mem_cons_self
      rcases List.mem_cons.1 hu with rfl | hu
      · exact hb
      · rcases List.mem_cons.1 hu with rfl | hu
        · exact lt_of_le_of_lt hv hb
        · exact hbefore u (List.mem_cons_of_mem b hu)

end FirstBest

/-- Picking finds the first candidate with the highest score, and all others lose. -/
theorem exists_firstBest_pick (best : Verdict) (losers vs : List Verdict) :
    ∃ others, FirstBest (best :: vs) (pick best losers vs).1 others ∧
      (pick best losers vs).2.Perm (losers ++ others) := by
  induction vs generalizing best losers with
  | nil =>
    refine ⟨[], ⟨[], [], rfl, .nil, List.forall_mem_nil _, List.forall_mem_nil _⟩, ?_⟩
    rw [pick, List.append_nil]
  | cons v vs ih =>
    rw [pick]
    split
    · rename_i hbeats
      obtain ⟨others, hfirst, hperm⟩ := ih v (best :: losers)
      have hlt : best.score < (pick v (best :: losers) vs).1.score :=
        lt_of_lt_of_le (beats_iff_score.1 hbeats) (hfirst.score_le List.mem_cons_self)
      exact ⟨best :: others, hfirst.cons_of_lt hlt, hperm.trans List.perm_middle.symm⟩
    · rename_i hbeats
      obtain ⟨others, hfirst, hperm⟩ := ih best (v :: losers)
      have hle : v.score ≤ best.score := not_lt.1 fun h => hbeats (beats_iff_score.2 h)
      exact ⟨v :: others, hfirst.cons_cons hle, hperm.trans List.perm_middle.symm⟩

theorem firstBest_pick (first : Verdict) (rest : List Verdict) :
    FirstBest (first :: rest) (pick first [] rest).1 (pick first [] rest).2 := by
  obtain ⟨others, ⟨before, after, hsplit, hothers, hbefore, hafter⟩, hperm⟩ :=
    exists_firstBest_pick first [] rest
  exact ⟨before, after, hsplit, hperm.trans hothers, hbefore, hafter⟩

/-! ## The combined verdict -/

variable (t : Taxonomy)

theorem distance_le (v : Verdict) : distance t w v ≤ 4 := by
  have hw := (t.rank w.cls).one_le_tier
  have hw' := (t.rank w.cls).tier_le_five
  have hv := (t.rank v.cls).one_le_tier
  have hv' := (t.rank v.cls).tier_le_five
  unfold distance
  dsimp only
  omega

theorem foldl_distance_le (vs : List Verdict) (n : Nat) :
    vs.foldl (fun n v => n + distance t w v) n ≤ n + 4 * vs.length := by
  induction vs generalizing n with
  | nil => exact Nat.le_refl n
  | cons v vs ih =>
    have hrest := ih (n + distance t w v)
    have hv := distance_le t (w := w) v
    rw [List.foldl_cons, List.length_cons]
    omega

/-- The ranks are never disparate, so the adjustment only goes up. -/
theorem adjusted_eq (hothers : others ≠ []) : adjusted t w others =
    w.adjustment + if ∀ v ∈ others, t.rank v.cls = t.rank w.cls then 10 else 0 := by
  have hfew : ¬ disparityThreshold * others.length ≤
      others.foldl (fun n v => n + distance t w v) 0 := by
    have hlength : 0 < others.length := List.length_pos_iff.2 hothers
    have htotal := foldl_distance_le t (w := w) others 0
    unfold disparityThreshold
    omega
  unfold adjusted
  dsimp only
  rw [if_neg hfew]
  by_cases hrank : ∀ v ∈ others, t.rank v.cls = t.rank w.cls
  · have hall : (others.all fun v => t.rank v.cls == t.rank w.cls) = true := by simpa using hrank
    rw [if_pos hall, if_pos hrank, reinforcement]
  · have hall : ¬ (others.all fun v => t.rank v.cls == t.rank w.cls) = true := by simpa using hrank
    rw [if_neg hall, if_neg hrank, Int.add_zero]

theorem foldl_union (vs : List Verdict) (e : EvidenceSet) :
    vs.foldl (fun e v => e.union v.evidence) e =
      e.union ((vs.map (·.evidence)).foldr .union .empty) := by
  induction vs generalizing e with
  | nil => exact (EvidenceSet.union_empty e).symm
  | cons v vs ih => rw [List.foldl_cons, ih, EvidenceSet.union_assoc]; rfl

/-- A winner after the other candidates have been heard. -/
def joined (t : Taxonomy) (w : Verdict) (others : List Verdict) : Verdict :=
  { w with
    evidence := evidenceOf w.cls (w :: others)
    adjustment := w.adjustment +
      if (∃ v ∈ others, v.cls = w.cls) ∧ ∀ v ∈ others, t.rank v.cls = t.rank w.cls then 10 else 0
    alternates := w.alternates.addOthers w.cls (notes others) }

theorem evidence_joined (w : Verdict) (others : List Verdict) :
    (joined t w others).evidence = evidenceOf w.cls (w :: others) := rfl

theorem alternates_joined (w : Verdict) (others : List Verdict) :
    (joined t w others).alternates = w.alternates.addOthers w.cls (notes others) := rfl

theorem aggregate_eq (first : Verdict) (rest : List Verdict) :
    aggregate t (first :: rest) =
      some (joined t (pick first [] rest).1 (pick first [] rest).2) := by
  unfold aggregate
  dsimp only
  generalize (pick first [] rest).1 = w, (pick first [] rest).2 = others
  have hown : evidenceOf w.cls (w :: others) = w.evidence.union (evidenceOf w.cls others) := by
    rw [evidenceOf_cons, if_pos rfl]
  by_cases hagree : ∃ v ∈ others, v.cls = w.cls
  · have hsome : ¬ (others.filter fun v => v.cls == w.cls).isEmpty = true := by
      simpa [List.filter_eq_nil_iff] using hagree
    have hothers : others ≠ [] := by
      rintro rfl
      obtain ⟨v, hv, -⟩ := hagree
      cases hv
    rw [if_neg hsome, foldl_union, adjusted_eq t hothers]
    simp only [joined, hown, hagree, true_and]
    rfl
  · have hnone : (others.filter fun v => v.cls == w.cls).isEmpty = true := by
      simpa [List.filter_eq_nil_iff] using hagree
    rw [if_pos hnone]
    simp only [joined, hown, evidenceOf_of_not_exists hagree, hagree, EvidenceSet.union_empty,
      false_and, if_false, Int.add_zero]
    rfl

theorem percent_le_joined (w : Verdict) (others : List Verdict) :
    w.percent ≤ (joined t w others).percent := by
  have hweight : w.evidence.weight ≤ (joined t w others).evidence.weight := by
    refine EvidenceSet.weight_le fun e he => ?_
    rw [evidence_joined, has_evidenceOf]
    exact ⟨w, List.mem_cons_self, rfl, he⟩
  have hadjustment : w.adjustment ≤ (joined t w others).adjustment := by
    unfold joined
    dsimp only
    split <;> omega
  rw [percent_eq, percent_eq]
  omega

theorem get?_joined (hvs : ∀ v, v ∈ vs ↔ v ∈ w :: others) (h : w.alternates.Ordered)
    (c : CodeClass) : (joined t w others).alternates.get? c =
      if c ≠ w.cls ∧ ∃ v ∈ vs, v.cls = c then
        some (((w.alternates.get? c).getD .empty).union (evidenceOf c vs))
      else w.alternates.get? c := by
  rw [alternates_joined, get?_addOthers h]
  by_cases hc : w.cls = c
  · simp [hc]
  · have hevidence : evidenceOf c vs = evidenceOf c others := by
      rw [evidenceOf_congr hvs, evidenceOf_cons, if_neg hc]
    rw [hevidence]
    simp only [hvs, List.exists_mem_cons_iff, hc, false_or]

theorem adjustment_joined (hvs : ∀ v, v ∈ vs ↔ v ∈ w :: others) : (joined t w others).adjustment =
    w.adjustment + if (∃ v ∈ others, v.cls = w.cls) ∧ ∀ v ∈ vs, t.rank v.cls = t.rank w.cls then 10
      else 0 := by
  unfold joined
  simp only [hvs, List.forall_mem_cons, true_and]

/-- Candidates come to a verdict of the class and the method of the first one with the highest
score. Its evidence is that of the candidates of its class. Its alternates are those of the winner,
each other class joined with the evidence of its candidates. It is ten hundredths up on the winner
if another candidate is of its class and all are of its rank, and else neither up nor down. So no
candidate is more confident. -/
theorem aggregate_joins_candidates (t : Taxonomy) (vs : List Verdict) (hvs : vs ≠ []) :
    ∃ before w after r, vs = before ++ w :: after ∧
      (∀ v ∈ before, v.score < w.score) ∧ (∀ v ∈ after, v.score ≤ w.score) ∧
      aggregate t vs = some r ∧ r.cls = w.cls ∧ r.method = w.method ∧
      r.evidence = evidenceOf w.cls vs ∧
      (w.alternates.Ordered → r.alternates.Ordered ∧ ∀ c, r.alternates.get? c =
        if c ≠ w.cls ∧ ∃ v ∈ vs, v.cls = c then
          some (((w.alternates.get? c).getD .empty).union (evidenceOf c vs))
        else w.alternates.get? c) ∧
      r.adjustment = w.adjustment +
        (if (∃ v ∈ before ++ after, v.cls = w.cls) ∧ ∀ v ∈ vs, t.rank v.cls = t.rank w.cls then 10
        else 0) ∧
      ∀ v ∈ vs, v.percent ≤ r.percent := by
  obtain ⟨first, rest, rfl⟩ := List.exists_cons_of_ne_nil hvs
  have hfirst := firstBest_pick first rest
  have haggregate := aggregate_eq t first rest
  generalize (pick first [] rest).1 = w, (pick first [] rest).2 = others at hfirst haggregate
  generalize first :: rest = vs at hfirst haggregate
  have hmem : ∀ v, v ∈ vs ↔ v ∈ w :: others := fun v => hfirst.mem_iff
  have hpercent : ∀ v ∈ vs, v.percent ≤ (joined t w others).percent := fun v hv =>
    Int.le_trans (percent_le_of_score (hfirst.score_le hv)) (percent_le_joined t w others)
  obtain ⟨before, after, hsplit, hperm, hbefore, hafter⟩ := hfirst
  refine ⟨before, w, after, joined t w others, hsplit, hbefore, hafter, haggregate, rfl, rfl,
    evidenceOf_congr (fun v => (hmem v).symm) w.cls,
    fun hordered => ⟨Alternates.ordered_addOthers hordered w.cls _, get?_joined t hmem hordered⟩,
    ?_, hpercent⟩
  rw [adjustment_joined t hmem]
  simp only [hperm.mem_iff]

end Verdict

namespace Sample

/-- Three candidates of one rank. Two are of one class and as confident as each other, but the
second has the stronger evidence. -/
def operators : List Verdict :=
  [⟨.core .operationOperator, .connectionInference, .single .heuristic, 50, []⟩,
   ⟨.core .operationOperator, .category, .single .categories, -20, []⟩,
   ⟨.core .operationData, .positional, .single .language, 10, []⟩]

end Sample

namespace Verdict

/-- The second candidate wins and is reinforced, and the third is noted. -/
theorem operators_reinforced : ∃ r, aggregate .builtin Sample.operators = some r ∧
    r.method = .category ∧ r.evidence = .ofList [.heuristic, .categories] ∧ r.adjustment = -10 ∧
    r.alternates = [(.core .operationData, .single .language)] ∧ r.alternates.Ordered ∧
    ∀ v ∈ Sample.operators, v.percent ≤ r.percent := by
  obtain ⟨before, w, after, r, hsplit, -, -, hr, -, -, -, halternates, -, hpercent⟩ :=
    aggregate_joins_candidates .builtin Sample.operators (by decide)
  have hw : w.alternates = [] := by
    have hnone : ∀ v ∈ Sample.operators, v.alternates = [] := by decide
    exact hnone w (by simp [hsplit])
  have hordered : r.alternates.Ordered := (halternates (by rw [hw]; exact .nil)).1
  have hcomputed : aggregate .builtin Sample.operators = some
      ⟨.core .operationOperator, .category, .ofList [.heuristic, .categories], -10,
        [(.core .operationData, .single .language)]⟩ := by decide
  obtain rfl := Option.some.inj (hr.symm.trans hcomputed)
  exact ⟨_, hr, rfl, rfl, rfl, rfl, hordered, hpercent⟩

end Verdict

end CodeChunks
