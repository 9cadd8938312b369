import CodeChunks.Proofs.Tree.Built
import Mathlib.Data.List.Pairwise

/-!
# Parents and children

A tree that was built node by node is `Linked`: a node has a parent exactly if the parent has it as
a child, and the children of a node stand in the order in which they were added. So a node has one
parent at most: a child is one step deeper than its parent, and siblings are `Apart`, since what is
below one child of a node is not below another.
-/

namespace CodeChunks.SyntaxTree

/-- Parents and children know each other. -/
structure Linked (t : SyntaxTree) : Prop where
  mem_children_iff : ∀ p c : NodeId, c ∈ t.children p ↔ t.parent? c = some p
  increasing : ∀ p : NodeId, (t.children p).Pairwise (· < ·)

theorem children_of_size_le {t : SyntaxTree} {i : NodeId} (h : t.size ≤ i) :
    t.children i = [] := by
  rw [children, node_of_size_le h]
  rfl

theorem Linked.push {t t' : SyntaxTree} {parent : Option NodeId} {kind : String} {named : Bool}
    {start stop : Nat} (hl : t.Linked) (ht : t.WellFormed)
    (h : t.push? parent kind named start stop = some t') : t'.Linked := by
  obtain ⟨-, -, -, p, -, hp, hnode⟩ := node_of_push? h
  have hparent : ∀ c : NodeId, t'.parent? c = if c = t.size then p else t.parent? c := by
    intro c
    unfold parent?
    rw [hnode c]
    split
    · rfl
    · split <;> rfl
  have hchildren : ∀ i : NodeId, t'.children i =
      if p = some i then t.children i ++ [t.size] else t.children i := by
    intro i
    unfold children
    rw [hnode i]
    by_cases hi : i = t.size
    · have hne : p ≠ some i := fun e => Nat.lt_irrefl _ (hi ▸ hp i e)
      rw [if_pos hi, if_neg hne]
      exact (children_of_size_le (Nat.le_of_eq hi.symm)).symm
    · rw [if_neg hi]
      split <;> rfl
  constructor
  · intro i c
    rw [hparent c, hchildren i]
    by_cases hc : c = t.size
    · subst hc
      have hfresh : t.size ∉ t.children i := fun hm => Nat.lt_irrefl _ (ht.child i _ hm).2
      by_cases hpi : p = some i <;> simp [hpi, hfresh]
    · by_cases hpi : p = some i <;> simp [hpi, hc, hl.mem_children_iff i c]
  · intro i
    rw [hchildren i]
    split
    · refine List.pairwise_append.2 ⟨hl.increasing i, List.pairwise_singleton _ _, ?_⟩
      intro c hc d hd
      rw [List.mem_singleton.1 hd]
      exact (ht.child i c hc).2
    · exact hl.increasing i

theorem Built.linked {t : SyntaxTree} (h : t.Built) : t.Linked := by
  induction h with
  | empty source language =>
    refine ⟨fun p c => ?_, fun p => ?_⟩
    · rw [children_of_size_le (Nat.zero_le p), parent?, node_of_size_le (Nat.zero_le c)]
      constructor <;> intro h <;> cases h
    · rw [children_of_size_le (Nat.zero_le p)]
      exact .nil
  | push hb h ih => exact ih.push hb.wellFormed h
  | markErrors _ ih => exact ⟨ih.mem_children_iff, ih.increasing⟩

/-! ## Depth -/

variable {t : SyntaxTree}

theorem Linked.parent_lt (hl : t.Linked) (ht : t.WellFormed) {p c : Nat}
    (h : t.parent? c = some p) : p < c :=
  (ht.child p c ((hl.mem_children_iff p c).2 h)).1

/-- Ancestors have smaller numbers, so the number of a node is fuel enough to count them. -/
theorem Linked.depthWithin_of_le (hl : t.Linked) (ht : t.WellFormed) {i fuel : Nat}
    (h : i ≤ fuel) : t.depthWithin fuel i = t.depth i := by
  induction i using Nat.strongRecOn generalizing fuel with
  | ind i ih =>
    cases hp : t.parent? i with
    | none =>
      have hzero : ∀ n, t.depthWithin n i = 0 := by
        intro n
        cases n with
        | zero => rfl
        | succ n => rw [depthWithin, hp]
      rw [depth, hzero, hzero]
    | some p =>
      have hlt : p < i := hl.parent_lt ht hp
      have hstep : ∀ n, i ≤ n → t.depthWithin n i = t.depth p + 1 := by
        intro n hn
        cases n with
        | zero => exact absurd (Nat.lt_of_lt_of_le hlt hn) (Nat.not_lt_zero p)
        | succ n =>
          rw [depthWithin, hp]
          exact congrArg (· + 1) (ih p hlt (Nat.le_of_lt_succ (Nat.lt_of_lt_of_le hlt hn)))
      rw [depth, hstep fuel h, hstep i (Nat.le_refl i)]

theorem Linked.depth_child (hl : t.Linked) (ht : t.WellFormed) {p c : Nat}
    (h : c ∈ t.children p) : t.depth c = t.depth p + 1 := by
  have hp : t.parent? c = some p := (hl.mem_children_iff p c).1 h
  have hlt : p < c := hl.parent_lt ht hp
  obtain ⟨n, rfl⟩ : ∃ n, c = n + 1 := ⟨c - 1, by omega⟩
  have hn : p ≤ n := by omega
  rw [depth, depthWithin, hp]
  exact congrArg (· + 1) (hl.depthWithin_of_le ht hn)

/-! ## Nodes that are apart -/

def Apart (t : SyntaxTree) (i j : NodeId) : Prop := ∀ k, t.Below i k → ¬ t.Below j k

theorem WellFormed.le_of_below (ht : t.WellFormed) {i j : Nat} (h : t.Below i j) : i ≤ j := by
  induction h with
  | refl => exact Nat.le_refl i
  | @tail k j _ hkj ih =>
    have := (ht.child k j hkj).1
    omega

theorem WellFormed.lt_size_of_below (ht : t.WellFormed) {i j : Nat} (hi : i < t.size)
    (h : t.Below i j) : j < t.size := by
  cases h with
  | refl => exact hi
  | @tail k _ _ hkj => exact (ht.child k j hkj).2

/-- What stands above a node stands above one another: a node has one parent at most. -/
theorem Linked.below_or_below (hl : t.Linked) {i j k : NodeId} (hik : t.Below i k)
    (hjk : t.Below j k) : t.Below i j ∨ t.Below j i := by
  have hunique : Relator.RightUnique (Function.swap t.Child) := by
    intro c p q hpc hqc
    have hp := (hl.mem_children_iff p c).1 hpc
    have hq := (hl.mem_children_iff q c).1 hqc
    exact Option.some.inj (hp.symm.trans hq)
  have htotal := Relation.ReflTransGen.total_of_right_unique hunique
    (Relation.reflTransGen_swap.2 hik) (Relation.reflTransGen_swap.2 hjk)
  rcases htotal with h | h
  · exact .inr (Relation.reflTransGen_swap.1 h)
  · exact .inl (Relation.reflTransGen_swap.1 h)

theorem Linked.not_below_of_siblings (hl : t.Linked) (ht : t.WellFormed) {p i j : Nat}
    (hi : i ∈ t.children p) (hj : j ∈ t.children p) (hne : i ≠ j) : ¬ t.Below i j := by
  intro h
  cases h with
  | refl => exact hne rfl
  | @tail q _ hiq hqj =>
    have hq := (hl.mem_children_iff q j).1 hqj
    have hp := (hl.mem_children_iff p j).1 hj
    obtain rfl : q = p := Option.some.inj (hq.symm.trans hp)
    have := ht.le_of_below hiq
    have := (ht.child q i hi).1
    omega

theorem Linked.apart_of_siblings (hl : t.Linked) (ht : t.WellFormed) {p i j : Nat}
    (hi : i ∈ t.children p) (hj : j ∈ t.children p) (hne : i ≠ j) : t.Apart i j := by
  intro k hik hjk
  rcases hl.below_or_below hik hjk with h | h
  · exact hl.not_below_of_siblings ht hi hj hne h
  · exact hl.not_below_of_siblings ht hj hi hne.symm h

theorem Linked.pairwise_apart_children (hl : t.Linked) (ht : t.WellFormed) (p : NodeId) :
    (t.children p).Pairwise t.Apart :=
  (hl.increasing p).imp_of_mem fun hi hj hlt =>
    hl.apart_of_siblings ht hi hj (Nat.ne_of_lt hlt)

end CodeChunks.SyntaxTree
