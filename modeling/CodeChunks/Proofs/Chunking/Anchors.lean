import CodeChunks.Proofs.Chunking.Emitted
import CodeChunks.Proofs.Tree.Parents
import Mathlib.Data.List.Nodup
import Mathlib.Data.List.Perm.Subperm

/-!
# The nodes that drafts stand for

Every draft stands for one node: the node that it was made of, or the first of the children that no
draft took in. Drafts of a node stand for it or for nodes `Below` it. No two drafts of a
`Selector.plan` stand for the same node, so there are at most as many drafts as nodes.
-/

namespace CodeChunks

/-! ## Closing gaps -/

namespace Draft

theorem nodes_of_grows {ds es : List Draft} (h : List.Forall₂ Grows ds es) :
    es.map node = ds.map node := by
  induction h with
  | nil => rfl
  | cons hg _ ih => rw [List.map_cons, List.map_cons, hg.node, ih]

theorem nodes_closeGaps (s : Source) (whole : Span) (ds : List Draft) :
    (closeGaps s whole ds).map node = ds.map node :=
  nodes_of_grows (grows_closeGaps s whole ds)

end Draft

namespace Selector

variable {s : Selector} {Inner : NodeId → List Draft → Prop} {depth : Nat}

/-! ## Below -/

theorem Run.exists_below {is : List NodeId} {ds : List Draft} (h : Run s Inner depth is ds)
    (hinner : ∀ i ds, Inner i ds → ∀ d ∈ ds, s.tree.Below i d.node) :
    ∀ d ∈ ds, ∃ i ∈ is, s.tree.Below i d.node := by
  intro d hd
  cases h with
  | @node pre post i =>
    rw [List.mem_singleton.1 hd]
    exact ⟨i, by simp, .refl⟩
  | @inner i _ _ _ hin => exact ⟨i, List.mem_singleton_self i, hinner i ds hin d hd⟩
  | @glue i is =>
    rw [List.mem_singleton.1 hd]
    exact ⟨i, List.mem_cons_self, .refl⟩
  | blank => cases hd

theorem Split.exists_below {is : List NodeId} {ds : List Draft} (h : Split s Inner depth is ds)
    (hinner : ∀ i ds, Inner i ds → ∀ d ∈ ds, s.tree.Below i d.node) :
    ∀ d ∈ ds, ∃ i ∈ is, s.tree.Below i d.node := by
  induction h with
  | nil => simp
  | cons hrun _ ih =>
    intro d hd
    rcases List.mem_append.1 hd with hd | hd
    · obtain ⟨i, hi, hid⟩ := hrun.exists_below hinner d hd
      exact ⟨i, List.mem_append_left _ hi, hid⟩
    · obtain ⟨i, hi, hid⟩ := ih d hd
      exact ⟨i, List.mem_append_right _ hi, hid⟩

/-- Drafts that fall into runs of children stand for nodes below the parent, also when they are
stretched. -/
theorem Split.below_closeGaps {i : NodeId} {ds : List Draft} {whole : Span}
    (h : Split s Inner depth (s.tree.children i) ds)
    (hinner : ∀ i ds, Inner i ds → ∀ d ∈ ds, s.tree.Below i d.node) :
    ∀ d ∈ Draft.closeGaps s.source whole ds, s.tree.Below i d.node := by
  intro e he
  obtain ⟨d, hd, hg⟩ := Draft.exists_grows_of_mem_closeGaps he
  obtain ⟨c, hc, hcd⟩ := h.exists_below hinner d hd
  rw [hg.node]
  exact .head hc hcd

theorem below_of_mem_emit (ht : s.tree.WellFormed) (depth : Nat) {i : Nat}
    (hi : i < s.tree.size) (hw : s.isWorthy i = true) :
    ∀ d ∈ (s.emit depth (s.tree.branch i)).drafts, s.tree.Below i d.node := by
  refine emit_induct (P := fun _ i ds => ∀ d ∈ ds, s.tree.Below i d.node) ht ?_ ?_ ?_ depth hi hw
  · intro depth i _ _ _ d hd
    rw [List.mem_singleton.1 hd]
    exact .refl
  · intro depth i _ _ _ _ d hd
    rw [List.mem_singleton.1 hd]
    exact .refl
  · intro depth i ds _ _ _ _ hsplit
    exact hsplit.below_closeGaps fun _ _ h => h

/-! ## Distinct -/

theorem Run.nodup {is : List NodeId} {ds : List Draft} (h : Run s Inner depth is ds)
    (hinner : ∀ i ds, Inner i ds → (ds.map Draft.node).Nodup) : (ds.map Draft.node).Nodup := by
  cases h with
  | node => exact List.nodup_singleton _
  | inner _ _ hin => exact hinner _ _ hin
  | glue => exact List.nodup_singleton _
  | blank => exact .nil

theorem Split.nodup {is : List NodeId} {ds : List Draft} (h : Split s Inner depth is ds)
    (hapart : is.Pairwise s.tree.Apart)
    (hbelow : ∀ i ds, Inner i ds → ∀ d ∈ ds, s.tree.Below i d.node)
    (hinner : ∀ i ds, Inner i ds → (ds.map Draft.node).Nodup) : (ds.map Draft.node).Nodup := by
  induction h with
  | nil => exact .nil
  | @cons is js ds es hrun hrest ih =>
    obtain ⟨_, hjs, hcross⟩ := List.pairwise_append.1 hapart
    rw [List.map_append]
    refine (hrun.nodup hinner).append (ih hjs) ?_
    intro k hk hk'
    obtain ⟨d, hd, rfl⟩ := List.mem_map.1 hk
    obtain ⟨e, he, hde⟩ := List.mem_map.1 hk'
    obtain ⟨i, hi, hid⟩ := hrun.exists_below hbelow d hd
    obtain ⟨j, hj, hje⟩ := hrest.exists_below hbelow e he
    rw [hde] at hje
    exact hcross i hi j hj d.node hid hje

/-- No two drafts of a node stand for the same node. -/
theorem nodup_emit (ht : s.tree.WellFormed) (hl : s.tree.Linked) (depth : Nat) {i : Nat}
    (hi : i < s.tree.size) (hw : s.isWorthy i = true) :
    ((s.emit depth (s.tree.branch i)).drafts.map Draft.node).Nodup := by
  refine (emit_induct (P := fun _ i ds => (∀ d ∈ ds, s.tree.Below i d.node) ∧
    (ds.map Draft.node).Nodup) ht ?_ ?_ ?_ depth hi hw).2
  · intro depth i _ _ _
    refine ⟨fun d hd => ?_, List.nodup_singleton _⟩
    rw [List.mem_singleton.1 hd]
    exact .refl
  · intro depth i _ _ _ _
    refine ⟨fun d hd => ?_, List.nodup_singleton _⟩
    rw [List.mem_singleton.1 hd]
    exact .refl
  · intro depth i ds _ _ _ _ hsplit
    refine ⟨hsplit.below_closeGaps fun _ _ h => h.1, ?_⟩
    rw [Draft.nodes_closeGaps]
    exact hsplit.nodup (hl.pairwise_apart_children ht i) (fun _ _ h => h.1) fun _ _ h => h.2

theorem pairwise_apart_topNodes (ht : s.tree.WellFormed) (hl : s.tree.Linked) :
    s.topNodes.Pairwise s.tree.Apart := by
  unfold topNodes
  split
  · exact .nil
  · split
    · exact List.pairwise_singleton _ _
    · exact hl.pairwise_apart_children ht _

theorem nodup_plan (ht : s.tree.WellFormed) (hl : s.tree.Linked) :
    (s.plan.drafts.map Draft.node).Nodup := by
  have hbelow : ∀ i ∈ s.topNodes, ∀ k ∈ (s.selectTop i).drafts.map Draft.node,
      s.tree.Below i k := by
    intro i hi k hk
    obtain ⟨d, hd, rfl⟩ := List.mem_map.1 hk
    rw [drafts_selectTop] at hd
    split at hd
    · next hw => exact below_of_mem_emit ht _ (lt_size_of_mem_topNodes ht hi) hw d hd
    · cases hd
  rw [drafts_plan, List.map_flatMap, List.nodup_flatMap]
  constructor
  · intro i hi
    rw [drafts_selectTop]
    split
    · next hw => exact nodup_emit ht hl _ (lt_size_of_mem_topNodes ht hi) hw
    · exact .nil
  · refine (pairwise_apart_topNodes ht hl).imp_of_mem fun {i j} hi hj hapart => ?_
    intro k hik hjk
    exact hapart k (hbelow i hi k hik) (hbelow j hj k hjk)

theorem lt_size_of_mem_plan (ht : s.tree.WellFormed) {d : Draft} (hd : d ∈ s.plan.drafts) :
    d.node < s.tree.size := by
  obtain ⟨i, hi, hw, hd⟩ := mem_drafts_plan.1 hd
  have hsize := lt_size_of_mem_topNodes ht hi
  exact ht.lt_size_of_below hsize (below_of_mem_emit ht _ hsize hw d hd)

/-- There are at most as many drafts as nodes. -/
theorem length_plan_le (ht : s.tree.WellFormed) (hl : s.tree.Linked) :
    s.plan.drafts.length ≤ s.tree.size := by
  have hsub : s.plan.drafts.map Draft.node ⊆ List.range s.tree.size := by
    intro k hk
    obtain ⟨d, hd, rfl⟩ := List.mem_map.1 hk
    exact List.mem_range.2 (lt_size_of_mem_plan ht hd)
  have hle := ((nodup_plan ht hl).subperm hsub).length_le
  rwa [List.length_map, List.length_range] at hle

end Selector

end CodeChunks
