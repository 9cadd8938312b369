import CodeChunks.Evidence.Aggregate

/-!
# The winner among candidates

Candidates are gone through once, and a later one takes the lead only if it beats the one that has
it: by its percentage, or at the same percentage by its strongest evidence. The candidate that is
ahead in the end, the `winner`, gives the combined verdict its class.
-/

namespace CodeChunks

namespace EvidenceSet

theorem weight_single (e : Evidence) : (single e).weight = e.weight := by
  cases e <;> decide

theorem strongest_single (e : Evidence) : (single e).strongest = e.weight := by
  cases e <;> decide

end EvidenceSet

namespace Verdict

variable {v w first : Verdict} {vs : List Verdict}

theorem percent_eq (v : Verdict) :
    v.percent = max 0 (min 100 (v.evidence.weight + v.adjustment)) := by
  unfold percent weight
  dsimp only
  repeat' split
  all_goals omega

theorem beats_iff : v.beats w = true ↔ w.percent < v.percent ∨
    v.percent = w.percent ∧ w.evidence.strongest < v.evidence.strongest := by
  simp [beats]

theorem not_beats_of_percent_lt (h : v.percent < w.percent) : v.beats w = false := by
  rw [← Bool.not_eq_true, beats_iff]
  omega

theorem not_beats_of_le (hp : v.percent ≤ w.percent)
    (hs : v.evidence.strongest ≤ w.evidence.strongest) : v.beats w = false := by
  rw [← Bool.not_eq_true, beats_iff]
  omega

/-- The candidate that is ahead after all. -/
def winner (first : Verdict) (rest : List Verdict) : Verdict :=
  rest.foldl (fun best v => if v.beats best then v else best) first

theorem winner_nil (first : Verdict) : winner first [] = first := rfl

theorem winner_cons (first v : Verdict) (vs : List Verdict) :
    winner first (v :: vs) = winner (if v.beats first then v else first) vs := rfl

theorem winner_append (first : Verdict) (vs ws : List Verdict) :
    winner first (vs ++ ws) = winner (winner first vs) ws :=
  List.foldl_append

theorem percent_le_winner (first : Verdict) (vs : List Verdict) :
    first.percent ≤ (winner first vs).percent := by
  induction vs generalizing first with
  | nil => exact Int.le_refl _
  | cons v vs ih =>
    rw [winner_cons]
    split
    · rename_i hbeats
      rw [beats_iff] at hbeats
      have := ih v
      omega
    · exact ih first

theorem cls_winner_singleton_ne_iff :
    (winner first [v]).cls ≠ first.cls ↔ v.beats first = true ∧ v.cls ≠ first.cls := by
  rw [winner_cons, winner_nil]
  split <;> simp [*]

/-- The lead is kept if no candidate beats it. -/
theorem winner_of_not_beats (h : ∀ v ∈ vs, v.beats first = false) : winner first vs = first := by
  induction vs with
  | nil => rfl
  | cons v vs ih =>
    have hv : v.beats first = false := h v List.mem_cons_self
    rw [winner_cons, hv]
    exact ih fun w hw => h w (List.mem_cons_of_mem v hw)

theorem fst_pick (best : Verdict) (losers vs : List Verdict) :
    (pick best losers vs).1 = winner best vs := by
  induction vs generalizing best losers with
  | nil => rfl
  | cons v vs ih =>
    rw [pick, winner_cons]
    split
    · exact ih v (best :: losers)
    · exact ih best (v :: losers)

theorem aggregate_eq_none_iff {t : Taxonomy} : aggregate t vs = none ↔ vs = [] := by
  cases vs <;> simp [aggregate]

theorem cls_aggregate (t : Taxonomy) (first : Verdict) (rest : List Verdict) :
    (aggregate t (first :: rest)).map (·.cls) = some (winner first rest).cls := by
  rw [← fst_pick first [] rest]
  unfold aggregate
  dsimp only
  split <;> rfl

end Verdict

end CodeChunks
