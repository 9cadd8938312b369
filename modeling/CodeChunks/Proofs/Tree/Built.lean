import CodeChunks.SyntaxTree
import CodeChunks.Proofs.Text.LineIndex
import Mathlib.Logic.Relation

/-!
# Trees that were built node by node

A tree is `Built` from the empty one by adding nodes. Such a tree is `WellFormed`: the span of a
node lies in the source, its lines are those of its ends, and the children of a node were added
after it. So what is `Below` a node can be unfolded into a branch that `Mirrors` it, with the size
of the tree as a bound for its depth.
-/

namespace CodeChunks

def Span.Within (a b : Span) : Prop := b.start ≤ a.start ∧ a.stop ≤ b.stop

instance (a b : Span) : Decidable (a.Within b) := inferInstanceAs (Decidable (_ ∧ _))

theorem Span.Within.refl (a : Span) : a.Within a := ⟨Nat.le_refl _, Nat.le_refl _⟩

theorem Span.Within.trans {a b c : Span} (hab : a.Within b) (hbc : b.Within c) : a.Within c :=
  ⟨Nat.le_trans hbc.1 hab.1, Nat.le_trans hab.2 hbc.2⟩

namespace SyntaxTree

/-- The trees that adding nodes leads to. -/
inductive Built : SyntaxTree → Prop where
  | empty (source : Source) (language : Language) : Built (.empty source language)
  | push {t t' : SyntaxTree} {parent : Option NodeId} {kind : String} {named : Bool}
      {start stop : Nat} : Built t → t.push? parent kind named start stop = some t' → Built t'
  | markErrors {t : SyntaxTree} : Built t → Built { t with hasErrors := true }

def Child (t : SyntaxTree) (p c : NodeId) : Prop := c ∈ t.children p

/-- `j` is `i` or a node below it. -/
def Below (t : SyntaxTree) : NodeId → NodeId → Prop := Relation.ReflTransGen t.Child

/-- What adding nodes keeps. -/
structure WellFormed (t : SyntaxTree) : Prop where
  span : ∀ i : Nat, i < t.size → ∃ start stop, start ≤ stop ∧ stop ≤ t.source.size ∧
    t.span i = .ofBytes t.source start stop
  child : ∀ i c : Nat, c ∈ t.children i → i < c ∧ c < t.size

theorem node_eq (t : SyntaxTree) (i : NodeId) : t.node i = t.nodes[i]?.getD default :=
  Array.getD_eq_getD_getElem?

theorem node_of_size_le {t : SyntaxTree} {i : NodeId} (h : t.size ≤ i) : t.node i = default := by
  rw [node_eq, Array.getElem?_eq_none h, Option.getD_none]

/-- The nodes after one was added: it comes last, and its parent knows it. -/
theorem node_of_push? {t t' : SyntaxTree} {parent : Option NodeId} {kind : String} {named : Bool}
    {start stop : Nat} (h : t.push? parent kind named start stop = some t') :
    start ≤ t.source.size ∧ t'.source = t.source ∧ t'.size = t.size + 1 ∧
    ∃ p : Option NodeId, p = parent.filter (· < t.size) ∧
      (∀ q : Nat, p = some q → q < t.size) ∧ ∀ i, t'.node i =
      if i = t.size then
        { kind, named, parent := p
          span := .ofBytes t.source start (max start (min stop t.source.size)) }
      else if p = some i then (t.node i).addChild t.size else t.node i := by
  unfold push? append? at h
  split at h
  · next hs =>
    obtain rfl := Option.some.inj h
    refine ⟨hs, rfl, ?_, parent.filter (· < t.size), rfl, fun q hq => ?_, fun i => ?_⟩
    · cases parent.filter (· < t.size) <;> simp [size]
    · simpa using (Option.filter_eq_some_iff.1 hq).2
    · cases hp : parent.filter (· < t.size) with
      | none =>
        simp only [node_eq, Array.getElem?_push, size]
        split <;> rfl
      | some p =>
        have hlt : p < t.size := by simpa using (Option.filter_eq_some_iff.1 hp).2
        simp only [node_eq, Array.getElem?_push, Array.getElem?_modify, size, Option.some.injEq]
        by_cases hpi : p = i
        · subst hpi
          have hne : p ≠ t.nodes.size := Nat.ne_of_lt hlt
          rw [if_pos rfl, if_neg hne, if_neg hne, if_pos rfl,
            Array.getElem?_eq_getElem (show p < t.nodes.size from hlt)]
          rfl
        · rw [if_neg hpi, if_neg hpi]
          split <;> rfl
  · cases h

theorem WellFormed.push {t t' : SyntaxTree} {parent : Option NodeId} {kind : String}
    {named : Bool} {start stop : Nat} (ht : t.WellFormed)
    (h : t.push? parent kind named start stop = some t') : t'.WellFormed := by
  obtain ⟨hs, hsource, hsize, p, -, hp, hnode⟩ := node_of_push? h
  constructor
  · intro i hi
    unfold SyntaxTree.span
    rw [hnode i, hsource]
    by_cases hlast : i = t.size
    · exact ⟨start, max start (min stop t.source.size), by omega, by omega, by rw [if_pos hlast]⟩
    · obtain ⟨a, b, hab, hb, hspan⟩ := ht.span i (by omega)
      refine ⟨a, b, hab, hb, ?_⟩
      rw [if_neg hlast]
      split <;> exact hspan
  · intro i c hc
    unfold children at hc
    rw [hnode i] at hc
    rw [hsize]
    split at hc
    · cases hc
    · split at hc
      · next hpi =>
        rcases List.mem_append.1 hc with hc | hc
        · have := ht.child i c hc
          omega
        · have := hp i hpi
          rw [List.mem_singleton] at hc
          omega
      · have := ht.child i c hc
        omega

theorem Built.wellFormed {t : SyntaxTree} (h : t.Built) : t.WellFormed := by
  induction h with
  | empty source language =>
    refine ⟨fun i hi => absurd hi (Nat.not_lt_zero i), fun i c hc => ?_⟩
    rw [children, node_of_size_le (Nat.zero_le i)] at hc
    cases hc
  | push _ h ih => exact ih.push h
  | markErrors _ ih => exact ⟨ih.span, ih.child⟩

/-! ## Branches -/

/-- A branch shows what is below its node. -/
inductive Mirrors (t : SyntaxTree) : Branch → Prop where
  | mk {i : NodeId} {cs : List Branch} : i < t.size → cs.map Branch.node = t.children i →
      (∀ c ∈ cs, t.Mirrors c) → t.Mirrors (.mk i cs)

/-- Children have larger numbers, so the fuel does not run out before the leaves. -/
theorem WellFormed.mirrors_branchWithin {t : SyntaxTree} (ht : t.WellFormed) {fuel i : Nat}
    (hi : i < t.size) (hfuel : t.size ≤ i + fuel) :
    t.Mirrors (t.branchWithin fuel i) := by
  induction fuel generalizing i with
  | zero => omega
  | succ fuel ih =>
    refine .mk hi ?_ ?_
    · rw [List.map_map]
      refine (List.map_congr_left fun c _ => ?_).trans (List.map_id _)
      cases fuel <;> rfl
    · intro b hb
      obtain ⟨c, hc, rfl⟩ := List.mem_map.1 hb
      have := ht.child i c hc
      exact ih this.2 (by omega)

theorem WellFormed.mirrors_branch {t : SyntaxTree} (ht : t.WellFormed) {i : Nat}
    (hi : i < t.size) : t.Mirrors (t.branch i) :=
  ht.mirrors_branchWithin hi (by omega)

theorem WellFormed.branchWithin_eq_branch {t : SyntaxTree} (ht : t.WellFormed) {fuel i : Nat}
    (hi : i < t.size) (hfuel : t.size ≤ i + fuel) : t.branchWithin fuel i = t.branch i := by
  have hsame : ∀ {m n i : Nat}, i < t.size → t.size ≤ i + m → t.size ≤ i + n →
      t.branchWithin m i = t.branchWithin n i := by
    intro m
    induction m with
    | zero => intros; omega
    | succ m ih =>
      intro n i hi hm hn
      cases n with
      | zero => omega
      | succ n =>
        refine congrArg (Branch.mk i) (List.map_congr_left fun c hc => ?_)
        have := ht.child i c hc
        exact ih this.2 (by omega) (by omega)
  exact hsame hi hfuel (by omega)

/-- A branch unfolds into the branches of all children of its node. -/
theorem WellFormed.branch_eq {t : SyntaxTree} (ht : t.WellFormed) {i : Nat} (hi : i < t.size) :
    t.branch i = .mk i ((t.children i).map t.branch) := by
  obtain ⟨fuel, hfuel⟩ : ∃ fuel, t.size = fuel + 1 := ⟨t.size - 1, by omega⟩
  unfold branch
  rw [hfuel, branchWithin, ← hfuel]
  refine congrArg (Branch.mk i) (List.map_congr_left fun c hc => ?_)
  have := ht.child i c hc
  exact ht.branchWithin_eq_branch this.2 (by omega)

theorem node_branch (t : SyntaxTree) (i : NodeId) : (t.branch i).node = i := by
  unfold branch
  cases t.size <;> rfl

end SyntaxTree

end CodeChunks
