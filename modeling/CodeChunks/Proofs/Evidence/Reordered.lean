import CodeChunks.Proofs.Evidence.Combined

/-!
# Candidates in another order

The order of the candidates breaks ties between the `leaders`, those with the highest score, and
does nothing else. The evidence of a class is a union, alternates are kept in the order of the
classes, and the ranks are compared one by one. So candidates of which only one leads come to the
same verdict in every order.
-/

namespace CodeChunks

/-! ## Alternates -/

namespace Alternates

variable {c d x : CodeClass}

theorem add_of_lt (h : c.index < x.index) (e g : EvidenceSet) (a : Alternates) :
    add c e ((x, g) :: a) = (c, e) :: (x, g) :: a := by
  rw [add, if_pos h]

theorem add_self (c : CodeClass) (e g : EvidenceSet) (a : Alternates) :
    add c e ((c, g) :: a) = (c, g.union e) :: a := by
  rw [add, if_neg (Nat.lt_irrefl _), if_pos rfl]

theorem add_of_gt (h : x.index < c.index) (e g : EvidenceSet) (a : Alternates) :
    add c e ((x, g) :: a) = (x, g) :: add c e a := by
  have hne : c ≠ x := by
    rintro rfl
    omega
  rw [add, if_neg (by omega), if_neg hne]

theorem index_cases (c d : CodeClass) : c.index < d.index ∨ c = d ∨ d.index < c.index := by
  rcases Nat.lt_trichotomy c.index d.index with h | h | h
  · exact .inl h
  · exact .inr (.inl (CodeClass.index_inj h))
  · exact .inr (.inr h)

theorem add_add_self (c : CodeClass) (e f : EvidenceSet) (a : Alternates) :
    add c f (add c e a) = add c (e.union f) a := by
  induction a with
  | nil => exact add_self c f e []
  | cons y a ih =>
    obtain ⟨x, g⟩ := y
    rcases index_cases c x with h | rfl | h
    · rw [add_of_lt h, add_of_lt h, add_self]
    · rw [add_self, add_self, add_self, EvidenceSet.union_assoc]
    · rw [add_of_gt h, add_of_gt h, add_of_gt h, ih]

theorem add_comm_of_lt (h : c.index < d.index) (e f : EvidenceSet) (a : Alternates) :
    add d f (add c e a) = add c e (add d f a) := by
  induction a with
  | nil =>
    show add d f [(c, e)] = add c e [(d, f)]
    rw [add_of_gt h, add_of_lt h]
    rfl
  | cons y a ih =>
    obtain ⟨x, g⟩ := y
    rcases index_cases c x with hc | rfl | hc
    · rw [add_of_lt hc, add_of_gt h]
      -- whichever class comes first after `d` was added, it comes after `c`
      rcases index_cases d x with hd | rfl | hd
      · rw [add_of_lt hd, add_of_lt h]
      · rw [add_self, add_of_lt hc]
      · rw [add_of_gt hd, add_of_lt hc]
    · rw [add_self, add_of_gt h, add_of_gt h, add_self]
    · have hd : x.index < d.index := by omega
      rw [add_of_gt hc, add_of_gt hd, add_of_gt hd, add_of_gt hc, ih]

theorem add_right_comm (a : Alternates) (c d : CodeClass) (e f : EvidenceSet) :
    (a.add c e).add d f = (a.add d f).add c e := by
  rcases index_cases c d with h | rfl | h
  · exact add_comm_of_lt h e f a
  · rw [add_add_self, add_add_self, EvidenceSet.union_comm]
  · exact (add_comm_of_lt h f e a).symm

theorem addOthers_of_perm {more rest : List (CodeClass × EvidenceSet)} (h : more.Perm rest)
    (winner : CodeClass) (a : Alternates) : a.addOthers winner more = a.addOthers winner rest := by
  apply h.foldl_eq'
  rintro ⟨c, e⟩ - ⟨d, f⟩ - a
  by_cases hc : c = winner <;> by_cases hd : d = winner <;> simp only [hc, hd, if_true, if_false]
  exact add_right_comm a c d e f

end Alternates

namespace Verdict

variable {v w w' : Verdict} {vs ws others others' : List Verdict}

/-! ## The only leader -/

/-- The candidates with the highest score. -/
def leaders (vs : List Verdict) : List Verdict :=
  vs.filter fun v => ∀ u ∈ vs, u.score ≤ v.score

theorem mem_leaders : v ∈ leaders vs ↔ v ∈ vs ∧ ∀ u ∈ vs, u.score ≤ v.score := by
  simp [leaders]

theorem FirstBest.perm (h : FirstBest vs w others) : vs.Perm (w :: others) := by
  obtain ⟨before, after, rfl, hperm, -, -⟩ := h
  exact List.perm_middle.trans (hperm.symm.cons w)

theorem FirstBest.mem_leaders (h : FirstBest vs w others) : w ∈ leaders vs :=
  Verdict.mem_leaders.2 ⟨h.mem_iff.2 List.mem_cons_self, fun _ hu => h.score_le hu⟩

theorem mem_leaders_of_perm (h : vs.Perm ws) (hv : v ∈ leaders ws) : v ∈ leaders vs := by
  obtain ⟨hmem, hle⟩ := mem_leaders.1 hv
  exact mem_leaders.2 ⟨h.mem_iff.2 hmem, fun u hu => hle u (h.mem_iff.1 hu)⟩

/-- If only one candidate leads, it wins in every order, and the same candidates lose. -/
theorem FirstBest.of_perm (hperm : vs.Perm ws) (hone : (leaders vs).length = 1)
    (h : FirstBest vs w others) (h' : FirstBest ws w' others') :
    w = w' ∧ others.Perm others' := by
  obtain ⟨leader, hleader⟩ := List.length_eq_one_iff.1 hone
  have hw := h.mem_leaders
  have hw' := mem_leaders_of_perm hperm h'.mem_leaders
  rw [hleader, List.mem_singleton] at hw hw'
  subst hw hw'
  have hall : (w' :: others).Perm (w' :: others') := h.perm.symm.trans (hperm.trans h'.perm)
  exact ⟨rfl, hall.cons_inv⟩

theorem joined_of_perm (t : Taxonomy) (w : Verdict) (h : others.Perm others') :
    joined t w others = joined t w others' := by
  have hevidence : evidenceOf w.cls (w :: others) = evidenceOf w.cls (w :: others') :=
    evidenceOf_congr (fun _ => (h.cons w).mem_iff) w.cls
  have halternates : w.alternates.addOthers w.cls (notes others) =
      w.alternates.addOthers w.cls (notes others') :=
    Alternates.addOthers_of_perm (h.map _) w.cls w.alternates
  unfold joined
  simp only [hevidence, halternates, h.mem_iff]

/-- Candidates come to the same verdict in every order, if only one of them has the highest
score. -/
theorem aggregate_of_perm (t : Taxonomy) {vs ws : List Verdict} (hperm : vs.Perm ws)
    (hone : (leaders vs).length = 1) :
    ∃ r, aggregate t vs = some r ∧ aggregate t ws = some r := by
  cases vs with
  | nil => cases hone
  | cons first rest =>
    obtain ⟨first', rest', rfl⟩ : ∃ first' rest', ws = first' :: rest' :=
      List.exists_cons_of_ne_nil fun hnil => List.cons_ne_nil first rest (hnil ▸ hperm).eq_nil
    obtain ⟨hwinner, hothers⟩ :=
      FirstBest.of_perm hperm hone (firstBest_pick first rest) (firstBest_pick first' rest')
    refine ⟨_, aggregate_eq t first rest, ?_⟩
    rw [aggregate_eq, hwinner, joined_of_perm t _ hothers]

/-- The candidates in the opposite order: the one that wins is in the middle either way. -/
theorem operators_reversed : (leaders Sample.operators).length = 1 ∧
    ∃ r, aggregate .builtin Sample.operators = some r ∧
      aggregate .builtin Sample.operators.reverse = some r := by
  have hone : (leaders Sample.operators).length = 1 := by decide
  exact ⟨hone, aggregate_of_perm .builtin (List.reverse_perm _).symm hone⟩

-- between two leaders the order decides
example : aggregate .builtin
      [⟨.core .flowControl, .category, .single .categories, 0, []⟩,
       ⟨.core .syntaxLiteral, .category, .single .categories, 0, []⟩] ≠
    aggregate .builtin
      [⟨.core .syntaxLiteral, .category, .single .categories, 0, []⟩,
       ⟨.core .flowControl, .category, .single .categories, 0, []⟩] := by decide

end Verdict

end CodeChunks
