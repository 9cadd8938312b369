import CodeChunks.Proofs.Evidence.Combined

/-!
# Confidence within 32 bits

Adjustments and the sums behind a confidence are 32-bit numbers. Evidence weighs from nought to 475,
an adjustment is given or is the distance from the weight to a target, and each time verdicts are
combined it goes up by ten at most. So it depends on three numbers alone whether anything can leave
the range, the parameters of `MadeWithin`: the least and the greatest adjustment or target that is
given, and how deep combinations are nested. Neither end of the range is safe.
-/

namespace CodeChunks

theorem fits32_hundredths (x : Float) : fits32 (hundredths x) = true := by
  rw [fits32_iff]
  exact ⟨Int32.le_toInt _, Int32.toInt_le _⟩

namespace Verdict

/-- The verdicts that come of adjustments and targets between two bounds, with combinations nested
no deeper than `n`. -/
inductive MadeWithin (t : Taxonomy) (low high : Int) : Nat → Verdict → Prop where
  | new {n : Nat} (c : CodeClass) (m : Method) (e : EvidenceSet) {adjustment : Int} :
      low ≤ adjustment → adjustment ≤ high → MadeWithin t low high n ⟨c, m, e, adjustment, []⟩
  | ofTarget {n : Nat} (c : CodeClass) (m : Method) (e : EvidenceSet) {target : Int} :
      low ≤ target → target ≤ high → MadeWithin t low high n (ofTarget c m e target)
  | rescored {n : Nat} {v : Verdict} {target : Int} :
      low ≤ target → target ≤ high → MadeWithin t low high n v →
        MadeWithin t low high n (v.rescored target)
  | withAlternates {n : Nat} {v : Verdict} (more : List (CodeClass × EvidenceSet)) :
      MadeWithin t low high n v → MadeWithin t low high n (v.withAlternates more)
  | aggregate {n : Nat} {vs : List Verdict} {v : Verdict} :
      (∀ w ∈ vs, MadeWithin t low high n w) → aggregate t vs = some v →
        MadeWithin t low high (n + 1) v

variable {t : Taxonomy} {low high : Int} {n : Nat} {v : Verdict}

/-! ## The bounds -/

/-- Candidates come to the adjustment of one of them, or to ten more. -/
theorem exists_adjustment_of_aggregate {vs : List Verdict} (h : aggregate t vs = some v) :
    ∃ w ∈ vs, w.adjustment ≤ v.adjustment ∧ v.adjustment ≤ w.adjustment + 10 := by
  cases vs with
  | nil => cases h
  | cons first rest =>
    have hmem := (firstBest_pick first rest).mem_iff.2 List.mem_cons_self
    rw [aggregate_eq] at h
    obtain rfl := Option.some.inj h
    refine ⟨_, hmem, ?_⟩
    unfold joined
    dsimp only
    split <;> omega

theorem MadeWithin.bounds (h : MadeWithin t low high n v) :
    low - 475 ≤ v.adjustment ∧ v.adjustment ≤ high + 10 * n := by
  induction h with
  | new _ _ _ hlow hhigh => dsimp only; omega
  | ofTarget _ _ e hlow hhigh =>
    have hnonneg := e.zero_le_weight
    have hfull := e.weight_le_full
    unfold Verdict.ofTarget adjustmentFor
    dsimp only
    omega
  | @rescored _ v _ hlow hhigh _ _ =>
    have hnonneg := v.evidence.zero_le_weight
    have hfull := v.evidence.weight_le_full
    unfold Verdict.rescored adjustmentFor
    dsimp only
    omega
  | withAlternates _ _ ih => exact ih
  | aggregate _ hv ih =>
    obtain ⟨w, hw, hle, hten⟩ := exists_adjustment_of_aggregate hv
    have hbounds := ih w hw
    omega

theorem inRange_iff (v : Verdict) : v.inRange = true ↔
    -2147483648 ≤ v.adjustment ∧ v.weight + v.adjustment ≤ 2147483647 := by
  have hnonneg : 0 ≤ v.weight := v.evidence.zero_le_weight
  rw [inRange, Bool.and_eq_true, fits32_iff, fits32_iff]
  omega

/-! ## The bounds are reached -/

theorem aggregate_pair (t : Taxonomy) (c : CodeClass) (m : Method) (e : EvidenceSet)
    (adjustment : Int) :
    aggregate t [⟨c, m, e, adjustment, []⟩, ⟨c, m, e, adjustment, []⟩] =
      some ⟨c, m, e, adjustment + 10, []⟩ := by
  rw [aggregate_eq]
  simp [pick, joined, evidenceOf, notes, Alternates.addOthers]

theorem madeWithin_reinforced (t : Taxonomy) (c : CodeClass) (m : Method) (e : EvidenceSet)
    (hle : low ≤ high) (n : Nat) : MadeWithin t low high n ⟨c, m, e, high + 10 * n, []⟩ := by
  induction n with
  | zero =>
    rw [Int.natCast_zero, Int.mul_zero, Int.add_zero]
    exact .new c m e hle (Int.le_refl high)
  | succ n ih =>
    have hnext : high + 10 * (n + 1 : Nat) = high + 10 * n + 10 := by omega
    rw [hnext]
    refine .aggregate (fun w hw => ?_) (aggregate_pair t c m e _)
    simp only [List.mem_cons, List.not_mem_nil, or_false, or_self] at hw
    rw [hw]
    exact ih

/-- Nothing leaves the range of 32 bits exactly if what is given stays far enough from both ends:
475 from the least number, and from the greatest one 475 and ten for each nested combination. A
verdict then has the confidence that its evidence and its adjustment come to, and it has none if the
adjustment is below the range or the sum above. Scores are read as 32-bit targets, of which those
near the ends are not far enough. -/
theorem inRange_of_madeWithin_iff (t : Taxonomy) (n : Nat) {low high : Int} (hle : low ≤ high) :
    ((∀ v, MadeWithin t low high n v → v.inRange = true) ↔
      -2147483648 + 475 ≤ low ∧ high + 475 + 10 * n ≤ 2147483647) ∧
    (∀ v : Verdict, v.checked?.map percent =
      if -2147483648 ≤ v.adjustment ∧ v.weight + v.adjustment ≤ 2147483647 then
        some (max 0 (min 100 (v.weight + v.adjustment)))
      else none) ∧
    ∀ x, -2147483648 ≤ hundredths x ∧ hundredths x ≤ 2147483647 := by
  refine ⟨⟨fun hall => ?_, fun ⟨hlow, hhigh⟩ v hv => ?_⟩, fun v => ?_,
    fun x => fits32_iff.1 (fits32_hundredths x)⟩
  · have hleast := hall _ (.ofTarget (.core .flowAsync) .category .full (Int.le_refl low) hle)
    have hmost := hall _ (madeWithin_reinforced t (.core .flowAsync) .category .full hle n)
    rw [inRange_iff, Verdict.ofTarget, adjustmentFor, EvidenceSet.weight_full] at hleast
    rw [inRange_iff, weight, EvidenceSet.weight_full] at hmost
    dsimp only at hleast hmost
    omega
  · have hfull : v.weight ≤ 475 := v.evidence.weight_le_full
    have hbounds := hv.bounds
    rw [inRange_iff]
    omega
  · rw [checked?]
    simp only [inRange_iff]
    split
    · rw [Option.map_some, percent_eq, weight]
    · rfl

end Verdict

namespace Sample

def overrated : Verdict :=
  ⟨.core .flowAsync, .category, .single .heuristic, 2147483647, []⟩

end Sample

namespace Verdict

/-- With all 32-bit adjustments and targets allowed, verdicts leave the range before any are
combined, and have no confidence then. -/
theorem overrated_has_no_confidence :
    MadeWithin .builtin (-2147483648) 2147483647 0 Sample.overrated ∧
    Sample.overrated.checked?.map percent = none ∧
    ¬ ∀ v, MadeWithin .builtin (-2147483648) 2147483647 0 v → v.inRange = true := by
  have hmade : MadeWithin .builtin (-2147483648) 2147483647 0 Sample.overrated :=
    .new _ _ _ (by decide) (by decide)
  obtain ⟨hall, hconfidence, -⟩ :=
    inRange_of_madeWithin_iff .builtin 0 (show (-2147483648 : Int) ≤ 2147483647 by decide)
  refine ⟨hmade, ?_, mt hall.1 (by decide)⟩
  rw [hconfidence]
  decide

end Verdict

end CodeChunks
