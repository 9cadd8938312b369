import CodeChunks.Proofs.Evidence.Combined

/-!
# Verdicts that can be made

A verdict starts from evidence and an adjustment, without alternates. It can be put at another
confidence, be given more alternates, and be combined with others; `Made` are all that come of this.
Whatever is done, a verdict stays `Tidy`: its alternates are in the order of the classes, each once,
and its own class is never among them.
-/

namespace CodeChunks

/-! ## Alternates -/

namespace Alternates

variable {a : Alternates} {winner : CodeClass} {more : List (CodeClass × EvidenceSet)}

theorem addOthers_cons (winner c : CodeClass) (e : EvidenceSet)
    (more : List (CodeClass × EvidenceSet)) : a.addOthers winner ((c, e) :: more) =
      (if c = winner then a else a.add c e).addOthers winner more := rfl

theorem ne_of_mem_addOthers (h : ∀ x ∈ a, x.1 ≠ winner) :
    ∀ x ∈ a.addOthers winner more, x.1 ≠ winner := by
  induction more generalizing a with
  | nil => exact h
  | cons y more ih =>
    obtain ⟨c, e⟩ := y
    rw [addOthers_cons]
    split
    · exact ih h
    · rename_i hc
      refine ih fun x hx => ?_
      rcases class_of_mem_add hx with hx | ⟨y, hy, hyx⟩
      · rwa [hx]
      · rw [← hyx]
        exact h y hy

theorem get?_eq_none_of_forall {c : CodeClass} (h : ∀ x ∈ a, x.1 ≠ c) : a.get? c = none :=
  List.lookup_eq_none_iff.2 fun x hx => bne_iff_ne.2 (h x hx).symm

theorem Ordered.nodup (h : a.Ordered) : (a.map Prod.fst).Nodup := by
  refine List.pairwise_map.2 (h.imp fun {x y} hlt he => ?_)
  rw [he] at hlt
  exact Nat.lt_irrefl _ hlt

theorem get?_addOthers_of_nodup (h : a.Ordered) (hnodup : (more.map Prod.fst).Nodup)
    (hnew : ∀ x ∈ more, a.get? x.1 = none) (c : CodeClass) :
    (a.addOthers winner more).get? c =
      if c = winner then a.get? c else (a.get? c).or (get? more c) := by
  induction more generalizing a with
  | nil => simp [addOthers, get?]
  | cons y more ih =>
    obtain ⟨d, e⟩ := y
    rw [List.map_cons, List.nodup_cons] at hnodup
    obtain ⟨hd, hnodup⟩ := hnodup
    obtain ⟨hdnew, hnew⟩ := List.forall_mem_cons.1 hnew
    rw [addOthers_cons, get?_cons]
    by_cases hw : d = winner
    · rw [if_pos hw, ih h hnodup hnew]
      by_cases hc : c = winner
      · rw [if_pos hc, if_pos hc]
      · have hdc : d ≠ c := fun he => hc (he ▸ hw)
        rw [if_neg hdc]
    · have hrest : ∀ x ∈ more, (a.add d e).get? x.1 = none := by
        intro x hx
        have hdx : d ≠ x.1 := fun he => hd (List.mem_map.2 ⟨x, hx, he.symm⟩)
        rw [get?_add h, if_neg hdx]
        exact hnew x hx
      rw [if_neg hw, ih (ordered_add h d e) hnodup hrest, get?_add h]
      by_cases hdc : d = c
      · subst hdc
        simp [hw, hdnew]
      · rw [if_neg hdc, if_neg hdc]

end Alternates

/-! ## Verdicts -/

namespace Verdict

/-- The verdicts that can be made. -/
inductive Made : Verdict → Prop where
  | new (c : CodeClass) (m : Method) (e : EvidenceSet) (adjustment : Int) :
      Made ⟨c, m, e, adjustment, []⟩
  | rescored {v : Verdict} (target : Int) : Made v → Made (v.rescored target)
  | withAlternates {v : Verdict} (more : List (CodeClass × EvidenceSet)) :
      Made v → Made (v.withAlternates more)
  | aggregate {t : Taxonomy} {vs : List Verdict} {v : Verdict} :
      (∀ w ∈ vs, Made w) → aggregate t vs = some v → Made v

/-- The alternates of a verdict are in order and other than its class. -/
structure Tidy (v : Verdict) : Prop where
  ordered : v.alternates.Ordered
  ne : ∀ x ∈ v.alternates, x.1 ≠ v.cls

theorem Tidy.withAlternates {v : Verdict} (h : v.Tidy) (more : List (CodeClass × EvidenceSet)) :
    (v.withAlternates more).Tidy :=
  ⟨Alternates.ordered_addOthers h.ordered v.cls more, Alternates.ne_of_mem_addOthers h.ne⟩

/-- What candidates come to has the class and the alternates of one of them, and more. -/
theorem exists_of_aggregate {t : Taxonomy} {vs : List Verdict} {v : Verdict}
    (h : aggregate t vs = some v) : ∃ w ∈ vs, v.cls = w.cls ∧
      ∃ more, v.alternates = w.alternates.addOthers w.cls more := by
  cases vs with
  | nil => cases h
  | cons first rest =>
    have hmem := (firstBest_pick first rest).mem_iff.2 List.mem_cons_self
    rw [aggregate_eq] at h
    obtain rfl := Option.some.inj h
    exact ⟨_, hmem, rfl, _, alternates_joined t _ _⟩

theorem Made.tidy {v : Verdict} (h : v.Made) : v.Tidy := by
  induction h with
  | new => exact ⟨.nil, nofun⟩
  | rescored _ _ ih => exact ⟨ih.ordered, ih.ne⟩
  | withAlternates more _ ih => exact ih.withAlternates more
  | aggregate _ hv ih =>
    obtain ⟨w, hw, hcls, more, halternates⟩ := exists_of_aggregate hv
    have hmore := (ih w hw).withAlternates more
    exact ⟨halternates ▸ hmore.ordered, by rw [halternates, hcls]; exact hmore.ne⟩

end Verdict

end CodeChunks
