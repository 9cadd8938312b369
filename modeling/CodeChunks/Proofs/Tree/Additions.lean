import CodeChunks.Proofs.Tree.Parents

/-!
# Trees grown from a row of additions

A tree grows by one `Addition` at a time. As long as the additions are `Admissible`, every node
starting in the source and having its parent among the nodes before it, none is refused, and after
each of them the tree is `Consistent`: what it stores about bytes and lines, about parents and
children, and about depth agrees. So a `Walk` along parents ends at a node without one, and what is
below a node can be unfolded to the leaves.
-/

namespace CodeChunks

theorem Span.lines_ofBytes (s : Source) (start stop : Nat) :
    1 ≤ (ofBytes s start stop).firstLine ∧
      (ofBytes s start stop).firstLine ≤ (ofBytes s start stop).lastLine ∧
      (ofBytes s start stop).lastLine ≤ s.starts.size :=
  ⟨s.one_le_lineOf _, s.lineOf_mono (Nat.le_max_right _ _), s.lineOf_le _⟩

structure Addition where
  parent : Option NodeId
  kind : String
  named : Bool
  start : Nat
  stop : Nat
  deriving DecidableEq, Repr

namespace Addition

/-- The node of an addition. Its end is moved into the source and not before its start. -/
def node (a : Addition) (source : Source) : Node where
  kind := a.kind
  named := a.named
  span := .ofBytes source a.start (max a.start (min a.stop source.size))
  parent := a.parent

/-- Every node starts in the source or at its end, and has a parent only among those before it. -/
def Admissible (source : Source) (adds : List Addition) : Prop :=
  ∀ n, (h : n < adds.length) → adds[n].start ≤ source.size ∧ ∀ p ∈ adds[n].parent, p < n

instance (source : Source) (adds : List Addition) : Decidable (Admissible source adds) :=
  inferInstanceAs (Decidable (∀ n, (h : n < adds.length) → _ ∧ ∀ p ∈ adds[n].parent, p < n))

end Addition

namespace SyntaxTree

variable {t t' : SyntaxTree} {source : Source} {adds : List Addition}

def add? (t : SyntaxTree) (a : Addition) : Option SyntaxTree :=
  t.append? a.parent a.kind a.named a.start a.stop

def grow? (t : SyntaxTree) (adds : List Addition) : Option SyntaxTree := adds.foldlM add? t

theorem grow?_append_singleton (t : SyntaxTree) (adds : List Addition) (a : Addition) :
    t.grow? (adds ++ [a]) = (t.grow? adds).bind (·.add? a) := by
  simp [grow?, List.foldlM_append, Option.bind_eq_bind]

/-! ## What a tree keeps of the additions -/

/-- The nodes of a tree are those that were added, in order; only children are found out later. -/
structure Holds (t : SyntaxTree) (source : Source) (adds : List Addition) : Prop where
  source_eq : t.source = source
  size_eq : t.size = adds.length
  node : ∀ n, (h : n < adds.length) →
    t.node n = { adds[n].node source with children := t.children n }

theorem holds_empty (source : Source) (language : Language) :
    (SyntaxTree.empty source language).Holds source [] :=
  ⟨rfl, rfl, fun n h => absurd h (Nat.not_lt_zero n)⟩

theorem filter_parent_eq {parent : Option NodeId} (h : ∀ p ∈ parent, p < t.size) :
    parent.filter (· < t.size) = parent := by
  cases parent with
  | none => rfl
  | some p => exact Option.filter_some_pos (by simpa using h p rfl)

theorem add?_eq_push? {a : Addition} (h : ∀ p ∈ a.parent, p < t.size) :
    t.add? a = t.push? a.parent a.kind a.named a.start a.stop := by
  rw [push?, filter_parent_eq h]
  rfl

theorem exists_add? {a : Addition} (h : a.start ≤ t.source.size) : ∃ t', t.add? a = some t' := by
  unfold add? append?
  rw [if_pos h]
  exact ⟨_, rfl⟩

/-- A new node comes last. Of the other nodes, only its parent changes, by a child. -/
theorem Holds.add {a : Addition} (ht : t.Holds source adds)
    (hparent : ∀ p ∈ a.parent, p < adds.length) (h : t.add? a = some t') :
    t'.Holds source (adds ++ [a]) := by
  rw [← ht.size_eq] at hparent
  rw [add?_eq_push? hparent] at h
  obtain ⟨-, hsource, hsize, p, hp, -, hnode⟩ := node_of_push? h
  have hkept : p = a.parent := hp.trans (filter_parent_eq hparent)
  refine ⟨hsource.trans ht.source_eq, ?_, fun n hn => ?_⟩
  · rw [hsize, ht.size_eq, List.length_append, List.length_singleton]
  · unfold children
    rw [hnode n]
    by_cases hlast : n = t.size
    · rw [if_pos hlast, ht.source_eq, hkept]
      subst hlast
      simp [ht.size_eq, Addition.node]
    · have hlt : n < adds.length := by
        rw [List.length_append, List.length_singleton, ← ht.size_eq] at hn
        rw [← ht.size_eq]
        omega
      rw [if_neg hlast, List.getElem_append_left hlt, ht.node n hlt]
      split <;> rfl

/-- Admissible additions are not refused, and the tree holds them at every point. -/
theorem exists_grow? (source : Source) (language : Language)
    (h : Addition.Admissible source adds) {n : Nat} (hn : n ≤ adds.length) :
    ∃ t, (SyntaxTree.empty source language).grow? (adds.take n) = some t ∧ t.Built ∧
      t.Holds source (adds.take n) := by
  induction n with
  | zero => exact ⟨_, rfl, .empty source language, holds_empty source language⟩
  | succ n ih =>
    obtain ⟨t, hgrow, hbuilt, hholds⟩ := ih (by omega)
    obtain ⟨hstart, hparent⟩ := h n hn
    obtain ⟨t', hadd⟩ : ∃ t', t.add? adds[n] = some t' :=
      exists_add? (by rwa [hholds.source_eq])
    have hlength : (adds.take n).length = n := by
      rw [List.length_take]
      omega
    rw [← List.take_append_getElem hn]
    have hbefore : ∀ p ∈ adds[n].parent, p < t.size := by
      rwa [hholds.size_eq, hlength]
    refine ⟨t', ?_, hbuilt.push (add?_eq_push? hbefore ▸ hadd), hholds.add (by rwa [hlength]) hadd⟩
    rw [grow?_append_singleton, hgrow]
    exact hadd

/-! ## Consistency -/

/-- The walk along parents from a node to one without a parent. -/
inductive Walk (t : SyntaxTree) : NodeId → List NodeId → Prop where
  | stop {i : NodeId} : t.parent? i = none → Walk t i []
  | up {i p : NodeId} {ps : List NodeId} : t.parent? i = some p → Walk t p ps → Walk t i (p :: ps)

/-- What a tree stores agrees. -/
structure Consistent (t : SyntaxTree) : Prop where
  bytes : ∀ i : Nat, i < t.size →
    (t.span i).start ≤ (t.span i).stop ∧ (t.span i).stop ≤ t.source.size
  lines : ∀ i : Nat, i < t.size → 1 ≤ (t.span i).firstLine ∧
    (t.span i).firstLine ≤ (t.span i).lastLine ∧ (t.span i).lastLine ≤ t.source.starts.size
  parent_lt : ∀ p c : Nat, t.parent? c = some p → p < c
  /-- The children of a node are the nodes that have it as their parent. -/
  mem_children : ∀ p c : Nat, c ∈ t.children p ↔ c < t.size ∧ t.parent? c = some p
  increasing : ∀ p : NodeId, (t.children p).Pairwise (· < ·)
  /-- Depth counts the steps of a walk that ends. -/
  walk : ∀ i : NodeId, ∃ ps, t.Walk i ps ∧ ps.length = t.depth i
  depth_child : ∀ p c : NodeId, t.parent? c = some p → t.depth c = t.depth p + 1
  depth_le : ∀ i : Nat, t.depth i ≤ i
  /-- No descent along children goes on for ever. -/
  descent : WellFounded fun c p : NodeId => c ∈ t.children p
  /-- The fuel of a branch does not run out before the leaves. -/
  branch : ∀ i : Nat, i < t.size → t.branch i = .mk i ((t.children i).map t.branch)

theorem depthWithin_le (t : SyntaxTree) (fuel : Nat) (i : NodeId) :
    t.depthWithin fuel i ≤ fuel := by
  induction fuel generalizing i with
  | zero => exact Nat.le_refl 0
  | succ fuel ih =>
    unfold depthWithin
    split
    · exact Nat.succ_le_succ (ih _)
    · exact Nat.zero_le _

/-- Parents have smaller numbers, so a walk along them ends. -/
theorem Linked.exists_walk (hl : t.Linked) (ht : t.WellFormed) (i : Nat) :
    ∃ ps, t.Walk i ps ∧ ps.length = t.depth i := by
  induction i using Nat.strongRecOn with
  | ind i ih =>
    cases hp : t.parent? i with
    | none =>
      refine ⟨[], .stop hp, ?_⟩
      unfold depth
      cases i with
      | zero => rfl
      | succ n => rw [depthWithin, hp]; rfl
    | some p =>
      obtain ⟨ps, hwalk, hlength⟩ := ih p (hl.parent_lt ht hp)
      refine ⟨p :: ps, .up hp hwalk, ?_⟩
      rw [List.length_cons, hlength, hl.depth_child ht ((hl.mem_children_iff p i).2 hp)]

/-- Children have larger numbers and are in the tree, so a descent along them ends. -/
theorem WellFormed.wellFounded_child (ht : t.WellFormed) :
    WellFounded fun c p : NodeId => c ∈ t.children p := by
  refine Subrelation.wf ?_ (measure fun i : Nat => t.size - i).wf
  intro c p hc
  have := ht.child p c hc
  show t.size - c < t.size - p
  omega

theorem Built.consistent (h : t.Built) : t.Consistent where
  bytes i hi := by
    obtain ⟨start, stop, hle, hstop, hspan⟩ := h.wellFormed.span i hi
    rw [hspan]
    exact ⟨hle, hstop⟩
  lines i hi := by
    obtain ⟨start, stop, -, -, hspan⟩ := h.wellFormed.span i hi
    rw [hspan]
    exact Span.lines_ofBytes t.source start stop
  parent_lt p c hp := h.linked.parent_lt h.wellFormed hp
  mem_children p c := by
    rw [← h.linked.mem_children_iff p c]
    exact ⟨fun hc => ⟨(h.wellFormed.child p c hc).2, hc⟩, fun hc => hc.2⟩
  increasing := h.linked.increasing
  walk i := h.linked.exists_walk h.wellFormed i
  depth_child p c hp := h.linked.depth_child h.wellFormed ((h.linked.mem_children_iff p c).2 hp)
  depth_le i := t.depthWithin_le i i
  descent := h.wellFormed.wellFounded_child
  branch i hi := h.wellFormed.branch_eq hi

/-- However a tree is grown from admissible additions, none of them is refused, and after each the
tree holds the nodes that were added so far and is consistent. -/
theorem consistent_after_each_addition (source : Source) (language : Language)
    (h : Addition.Admissible source adds) {n : Nat} (hn : n ≤ adds.length) :
    ∃ t, (SyntaxTree.empty source language).grow? (adds.take n) = some t ∧
      t.Holds source (adds.take n) ∧ t.Consistent := by
  obtain ⟨t, hgrow, hbuilt, hholds⟩ := exists_grow? source language h hn
  exact ⟨t, hgrow, hholds, hbuilt.consistent⟩

/-- Two roots, the first with a child and a grandchild that ends before it starts, the second at the
end of the source and beyond. -/
def twoRoots : List Addition :=
  [⟨none, "list", true, 0, 9⟩, ⟨some 0, "item", true, 2, 5⟩, ⟨some 1, "gap", false, 5, 3⟩,
    ⟨none, "rest", true, 9, 100⟩]

theorem two_roots_consistent :
    Addition.Admissible (.ofString "a\nbb\nccc\n") twoRoots ∧
    ∃ t, (SyntaxTree.empty (.ofString "a\nbb\nccc\n") .unknown).grow? (twoRoots.take 4) = some t ∧
      t.Holds (.ofString "a\nbb\nccc\n") twoRoots ∧ t.Consistent := by
  have h : Addition.Admissible (.ofString "a\nbb\nccc\n") twoRoots := by decide +kernel
  exact ⟨h, consistent_after_each_addition _ _ h (Nat.le_refl 4)⟩

end SyntaxTree

end CodeChunks
