import CodeChunks.Chunking.Selection
import CodeChunks.Proofs.Chunking.Stretch

/-!
# Runs of children

When a node is taken apart, its children fall into runs of neighbours: a child worth a chunk with
what joins it, a child that is looked into, or children that no draft takes in. `Run` says what the
drafts of one run are and `Split` cuts a row of children into runs. Both are relative to what is
known about the drafts of children that are looked into, so that `Selector.emit_induct` is one
induction for every property of the drafts of a node.
-/

namespace CodeChunks

/-! ## Hulls -/

namespace Span

theorem merge_comm (a b : Span) : a.merge b = b.merge a := by
  simp only [merge, Nat.min_comm, Nat.max_comm]

theorem merge_assoc (a b c : Span) : (a.merge b).merge c = a.merge (b.merge c) := by
  simp only [merge, Nat.min_assoc, Nat.max_assoc]

theorem merge_right_comm (a b c : Span) : (a.merge b).merge c = (a.merge c).merge b := by
  rw [merge_assoc, merge_comm b, ← merge_assoc]

end Span

namespace SyntaxTree

variable {t : SyntaxTree}

/-- The smallest span that holds a node and some others. -/
def hull (t : SyntaxTree) (i : NodeId) (is : List NodeId) : Span :=
  is.foldl (fun a j => a.merge (t.span j)) (t.span i)

def bytesOf (t : SyntaxTree) (is : List NodeId) : Nat :=
  is.foldr (fun j n => (t.span j).byteLength + n) 0

theorem hull_append_singleton (i j : NodeId) (is : List NodeId) :
    t.hull i (is ++ [j]) = (t.hull i is).merge (t.span j) := by
  simp [hull]

theorem hull_cons (i j : NodeId) (is : List NodeId) :
    t.hull i (j :: is) = (t.hull j is).merge (t.span i) := by
  have swap : ∀ (a b : Span), is.foldl (fun a j => a.merge (t.span j)) (a.merge b) =
      (is.foldl (fun a j => a.merge (t.span j)) a).merge b := by
    induction is with
    | nil => intros; rfl
    | cons k is ih =>
      intro a b
      rw [List.foldl_cons, List.foldl_cons, Span.merge_right_comm, ih]
  rw [hull, List.foldl_cons, Span.merge_comm, swap]
  rfl

@[simp] theorem bytesOf_append_singleton (is : List NodeId) (j : NodeId) :
    t.bytesOf (is ++ [j]) = t.bytesOf is + (t.span j).byteLength := by
  induction is with
  | nil => exact Nat.add_comm _ _
  | cons i is ih =>
    simp only [bytesOf, List.cons_append, List.foldr_cons] at ih ⊢
    rw [ih, Nat.add_assoc]

theorem hull_induct {R : Span → Prop} (hmerge : ∀ {a b : Span}, R a → R b → R (a.merge b))
    {i : NodeId} {is : List NodeId} (hi : R (t.span i)) (his : ∀ j ∈ is, R (t.span j)) :
    R (t.hull i is) := by
  induction is generalizing i with
  | nil => exact hi
  | cons j is ih =>
    rw [hull_cons]
    exact hmerge (ih (his j List.mem_cons_self) fun k hk => his k (List.mem_cons_of_mem _ hk)) hi

theorem within_hull {i j : NodeId} {is : List NodeId} (h : j ∈ i :: is) :
    (t.span j).Within (t.hull i is) := by
  induction is generalizing i with
  | nil =>
    rw [List.mem_singleton.1 h]
    exact .refl _
  | cons k is ih =>
    rw [hull_cons]
    rcases List.mem_cons.1 h with rfl | h
    · exact Span.within_merge_right _ _
    · exact (ih h).trans (Span.within_merge_left _ _)

end SyntaxTree

namespace Selector

variable {s : Selector} {Inner : NodeId → List Draft → Prop} {depth : Nat}

/-! ## Runs -/

/-- The draft of a child with the neighbours that joined it. -/
def runDraft (s : Selector) (depth : Nat) (i : NodeId) (joined : List NodeId) : Draft :=
  { s.nodeDraft i depth with
    span := s.tree.hull i joined
    glueBytes := s.tree.bytesOf joined }

def glueDraft (s : Selector) (depth : Nat) (i : NodeId) (is : List NodeId) : Draft :=
  { span := s.tree.hull i is, node := i, depth := depth, kind := .glue }

@[simp] theorem node_runDraft (i : NodeId) (joined : List NodeId) :
    (s.runDraft depth i joined).node = i := rfl

@[simp] theorem node_glueDraft (i : NodeId) (is : List NodeId) :
    (s.glueDraft depth i is).node = i := rfl

/-- Neighbouring children that share their fate, and the drafts made of them. -/
inductive Run (s : Selector) (Inner : NodeId → List Draft → Prop) (depth : Nat) :
    List NodeId → List Draft → Prop where
  /-- A child worth a chunk, with what joined it from both sides. -/
  | node {pre post : List NodeId} {i : NodeId} : s.isWorthy i = true →
      s.fits (s.tree.span i) = true → (∀ j ∈ pre ++ post, s.isWorthy j = false) →
      s.fits (s.tree.hull i (pre ++ post)) = true →
      Run s Inner depth (pre ++ i :: post) [s.runDraft depth i (pre ++ post)]
  /-- A child that does not fit and is looked into. -/
  | inner {i : NodeId} {ds : List Draft} : s.isWorthy i = true →
      s.fits (s.tree.span i) = false → Inner i ds → Run s Inner depth [i] ds
  /-- Children that no draft took in. -/
  | glue {i : NodeId} {is : List NodeId} : (∀ j ∈ i :: is, s.isWorthy j = false) →
      (s.tree.hull i is).Filled s.source →
      Run s Inner depth (i :: is) [s.glueDraft depth i is]
  /-- Children without a text that no draft took in. -/
  | blank {i : NodeId} {is : List NodeId} : (∀ j ∈ i :: is, s.isWorthy j = false) →
      ¬ (s.tree.hull i is).Filled s.source → Run s Inner depth (i :: is) []

/-- A row of children, cut into runs. -/
inductive Split (s : Selector) (Inner : NodeId → List Draft → Prop) (depth : Nat) :
    List NodeId → List Draft → Prop where
  | nil : Split s Inner depth [] []
  | cons {is js : List NodeId} {ds es : List Draft} : Run s Inner depth is ds →
      Split s Inner depth js es → Split s Inner depth (is ++ js) (ds ++ es)

theorem Run.split {is : List NodeId} {ds : List Draft} (h : Run s Inner depth is ds) :
    Split s Inner depth is ds := by
  simpa using Split.cons h .nil

theorem Split.append {is js : List NodeId} {ds es : List Draft} (h : Split s Inner depth is ds)
    (k : Split s Inner depth js es) : Split s Inner depth (is ++ js) (ds ++ es) := by
  induction h with
  | nil => exact k
  | cons hrun _ ih =>
    rw [List.append_assoc, List.append_assoc]
    exact .cons hrun ih

theorem Split.exists_run {is : List NodeId} {ds : List Draft} (h : Split s Inner depth is ds)
    {d : Draft} (hd : d ∈ ds) : ∃ js es, js <:+: is ∧ Run s Inner depth js es ∧ d ∈ es := by
  induction h with
  | nil => cases hd
  | @cons is js ds es hrun _ ih =>
    rcases List.mem_append.1 hd with hd | hd
    · exact ⟨is, ds, (List.prefix_append _ _).isInfix, hrun, hd⟩
    · obtain ⟨ks, fs, hks, hrun', hd'⟩ := ih hd
      exact ⟨ks, fs, hks.trans (List.suffix_append _ _).isInfix, hrun', hd'⟩

/-- What is open after some children, the last run of which is not finished. -/
inductive Open (s : Selector) (depth : Nat) : List NodeId → Tail → Prop where
  | idle : Open s depth [] .idle
  | absorbing {pre post : List NodeId} {i : NodeId} : s.isWorthy i = true →
      s.fits (s.tree.span i) = true → (∀ j ∈ pre ++ post, s.isWorthy j = false) →
      s.fits (s.tree.hull i (pre ++ post)) = true →
      Open s depth (pre ++ i :: post) (.absorbing (s.runDraft depth i (pre ++ post)))
  | gathering {i : NodeId} {is : List NodeId} : (∀ j ∈ i :: is, s.isWorthy j = false) →
      Open s depth (i :: is) (.gathering ⟨s.tree.hull i is, i, s.tree.bytesOf (i :: is)⟩)

theorem Open.split {is : List NodeId} {tail : Tail} (h : Open s depth is tail) :
    Split s Inner depth is (s.close depth tail).drafts := by
  cases h with
  | idle => exact .nil
  | absorbing hw hi hall hfit => exact (Run.node hw hi hall hfit).split
  | @gathering i is hall =>
    simp only [close, leaveGlue]
    split
    · next hblank =>
      exact (Run.blank hall fun h => by rw [h] at hblank; cases hblank).split
    · next hblank => exact (Run.glue hall (by simpa [Span.Filled] using hblank)).split

/-- A child not worth a chunk joins the last run or starts a new one. -/
theorem Open.attach (Inner : NodeId → List Draft → Prop) {is : List NodeId} {tail : Tail}
    (h : Open s depth is tail) {i : NodeId} (hw : s.isWorthy i = false) :
    ∃ js ks, is ++ [i] = js ++ ks ∧ Split s Inner depth js (s.attach i tail).1.drafts ∧
      Open s depth ks (s.attach i tail).2 := by
  have alone : Open s depth [i] (.gathering (.ofNode s.tree i)) := .gathering (by simpa using hw)
  cases h with
  | idle => exact ⟨[], [i], rfl, .nil, alone⟩
  | @absorbing pre post k hkw hkf hall hfit =>
    have hjoin : (s.runDraft depth k (pre ++ post)).absorb (s.tree.span i) =
        s.runDraft depth k (pre ++ (post ++ [i])) := by
      simp [Draft.absorb, runDraft, ← List.append_assoc, SyntaxTree.hull_append_singleton]
    simp only [Selector.attach, hjoin]
    split
    · next hfit' =>
      refine ⟨[], pre ++ k :: (post ++ [i]), by simp, .nil, .absorbing hkw hkf ?_ hfit'⟩
      intro j hj
      rw [← List.append_assoc, List.mem_append, List.mem_singleton] at hj
      rcases hj with hj | rfl
      · exact hall j hj
      · exact hw
    · exact ⟨_, [i], rfl, (Run.node hkw hkf hall hfit).split, alone⟩
  | @gathering k is hall =>
    refine ⟨[], k :: (is ++ [i]), by simp, .nil, ?_⟩
    have hglue : Glue.add ⟨s.tree.hull k is, k, s.tree.bytesOf (k :: is)⟩ (s.tree.span i) =
        ⟨s.tree.hull k (is ++ [i]), k, s.tree.bytesOf (k :: (is ++ [i]))⟩ := by
      rw [SyntaxTree.hull_append_singleton, ← List.cons_append,
        SyntaxTree.bytesOf_append_singleton]
      rfl
    simp only [Selector.attach, hglue]
    refine .gathering fun j hj => ?_
    rw [← List.cons_append, List.mem_append, List.mem_singleton] at hj
    rcases hj with hj | rfl
    · exact hall j hj
    · exact hw

/-- A child worth a chunk that fits takes in what waits or starts a new run. -/
theorem Open.place (Inner : NodeId → List Draft → Prop) {is : List NodeId} {tail : Tail}
    (h : Open s depth is tail) {i : NodeId} (hw : s.isWorthy i = true)
    (hfit : s.fits (s.tree.span i) = true) :
    ∃ js ks, is ++ [i] = js ++ ks ∧ Split s Inner depth js (s.place depth i tail).1.drafts ∧
      Open s depth ks (s.place depth i tail).2 := by
  have alone : Open s depth [i] (.absorbing (s.nodeDraft i depth)) :=
    @Open.absorbing s depth [] [] i hw hfit (by simp) hfit
  have apart : Split s Inner depth is (s.close depth tail ++ .ofSteps [.emit]).drafts := by
    simpa using (h.split : Split s Inner depth is _)
  cases h with
  | idle => exact ⟨_, [i], rfl, apart, alone⟩
  | absorbing => exact ⟨_, [i], rfl, apart, alone⟩
  | @gathering k is hall =>
    simp only [Selector.place]
    split
    · next hjoin =>
      refine ⟨[], k :: is ++ [i], rfl, .nil, ?_⟩
      have hspan : (s.tree.hull k is).merge (s.nodeDraft i depth).span =
          s.tree.hull i (k :: is) := by
        rw [SyntaxTree.hull_cons]
        rfl
      simp only [hspan] at hjoin ⊢
      have hopen := @Open.absorbing s depth (k :: is) [] i hw hfit
      rw [List.append_nil] at hopen
      exact hopen hall hjoin
    · exact ⟨_, [i], rfl, apart, alone⟩

/-- The children of a node fall into runs. -/
theorem split_siblings {is : List NodeId} {tail : Tail} (h : Open s depth is tail)
    (bs : List Branch)
    (hinner : ∀ b ∈ bs, s.isWorthy b.node = true → s.fits (s.tree.span b.node) = false →
      Inner b.node (s.emit depth b).drafts) :
    Split s Inner depth (is ++ bs.map Branch.node) (s.siblings depth tail bs).drafts := by
  induction bs generalizing is tail with
  | nil =>
    rw [siblings, List.map_nil, List.append_nil]
    exact h.split
  | cons b bs ih =>
    have hrest : ∀ {ks : List NodeId} {tail : Tail}, Open s depth ks tail →
        Split s Inner depth (ks ++ bs.map Branch.node) (s.siblings depth tail bs).drafts :=
      fun ho => ih ho fun c hc => hinner c (List.mem_cons_of_mem _ hc)
    rw [siblings, List.map_cons, Plan.drafts_append, Plan.drafts_ofSteps, List.nil_append,
      List.append_cons]
    split
    · next hw =>
      split
      · next hfit =>
        obtain ⟨js, ks, hjs, hsplit, hopen⟩ := h.place Inner hw hfit
        rw [hjs, List.append_assoc]
        exact hsplit.append (hrest hopen)
      · next hfit =>
        have hfit' : s.fits (s.tree.span b.node) = false := by simpa using hfit
        have hb : Run s Inner depth [b.node] _ :=
          .inner hw hfit' (hinner b List.mem_cons_self hw hfit')
        exact (h.split.append hb.split).append (hrest .idle)
    · next hw =>
      obtain ⟨js, ks, hjs, hsplit, hopen⟩ := h.attach Inner (by simpa using hw)
      rw [hjs, List.append_assoc]
      exact hsplit.append (hrest hopen)

/-! ## Induction over the drafts of a node -/

/-- Induction over the drafts of a node: a node that fits, one that is kept whole, and one that is
taken apart, given the property for the children that are looked into. -/
theorem emit_induct (ht : s.tree.WellFormed) {P : Nat → NodeId → List Draft → Prop}
    (whole : ∀ depth (i : Nat), i < s.tree.size → s.isWorthy i = true →
      s.fits (s.tree.span i) = true → P depth i [s.nodeDraft i depth])
    (fallback : ∀ depth (i : Nat), i < s.tree.size → s.isWorthy i = true →
      s.fits (s.tree.span i) = false → (∀ c ∈ s.tree.children i, s.isWorthy c = false) →
      P depth i [s.fallbackDraft i depth])
    (apart : ∀ depth (i : Nat) ds, i < s.tree.size → s.isWorthy i = true →
      s.fits (s.tree.span i) = false → (∃ c ∈ s.tree.children i, s.isWorthy c = true) →
      Split s (P (depth + 1)) (depth + 1) (s.tree.children i) ds →
      P depth i (Draft.closeGaps s.source (s.tree.span i) ds))
    (depth : Nat) {i : Nat} (hi : i < s.tree.size) (hw : s.isWorthy i = true) :
    P depth i (s.emit depth (s.tree.branch i)).drafts := by
  have mirrored : ∀ b, s.tree.Mirrors b → ∀ depth, s.isWorthy b.node = true →
      P depth b.node (s.emit depth b).drafts := by
    intro b hb
    induction hb with
    | @mk i cs hi hcs _ ih =>
      intro depth hw
      have hany : (cs.any fun b => s.isWorthy b.node) = true ↔
          ∃ c ∈ s.tree.children i, s.isWorthy c = true := by
        rw [← hcs]
        simp
      rw [emit]
      split
      · next hfit => exact whole depth i hi hw hfit
      · next hfit =>
        have hfit' : s.fits (s.tree.span i) = false := by simpa using hfit
        split
        · next hsome =>
          rw [Plan.drafts_append, Plan.drafts_ofSteps, List.nil_append]
          apply apart depth i _ hi hw hfit' (hany.1 hsome)
          rw [← hcs]
          exact split_siblings .idle cs fun c hc hcw _ => ih c hc (depth + 1) hcw
        · next hnone =>
          refine fallback depth i hi hw hfit' fun c hc => ?_
          cases hcw : s.isWorthy c with
          | false => rfl
          | true => exact absurd (hany.2 ⟨c, hc, hcw⟩) hnone
  have h := mirrored _ (ht.mirrors_branch hi) depth
  rw [SyntaxTree.node_branch] at h
  exact h hw

/-! ## What lasts -/

variable {R : Span → Prop}

theorem Run.forall (hmerge : ∀ {a b : Span}, R a → R b → R (a.merge b)) {is : List NodeId}
    {ds : List Draft} (h : Run s Inner depth is ds) (his : ∀ i ∈ is, R (s.tree.span i))
    (hinner : ∀ i ds, Inner i ds → ∀ d ∈ ds, R d.span) : ∀ d ∈ ds, R d.span := by
  intro d hd
  cases h with
  | node =>
    rw [List.mem_singleton.1 hd]
    refine SyntaxTree.hull_induct hmerge (his _ (by simp)) fun j hj => his j ?_
    rcases List.mem_append.1 hj with hj | hj <;> simp [hj]
  | inner _ _ hin => exact hinner _ _ hin d hd
  | glue =>
    rw [List.mem_singleton.1 hd]
    exact SyntaxTree.hull_induct hmerge (his _ List.mem_cons_self)
      fun j hj => his j (List.mem_cons_of_mem _ hj)
  | blank => cases hd

theorem Split.forall (hmerge : ∀ {a b : Span}, R a → R b → R (a.merge b)) {is : List NodeId}
    {ds : List Draft} (h : Split s Inner depth is ds) (his : ∀ i ∈ is, R (s.tree.span i))
    (hinner : ∀ i ds, Inner i ds → ∀ d ∈ ds, R d.span) : ∀ d ∈ ds, R d.span := by
  induction h with
  | nil => simp
  | cons hrun _ ih =>
    intro d hd
    rcases List.mem_append.1 hd with hd | hd
    · exact hrun.forall hmerge (fun i hi => his i (List.mem_append_left _ hi)) hinner d hd
    · exact ih (fun i hi => his i (List.mem_append_right _ hi)) d hd

theorem forall_emit (ht : s.tree.WellFormed) (hR : Span.Lasting s.source R)
    (hnodes : ∀ i : Nat, i < s.tree.size → R (s.tree.span i)) (depth : Nat) {i : Nat}
    (hi : i < s.tree.size) (hw : s.isWorthy i = true) :
    ∀ d ∈ (s.emit depth (s.tree.branch i)).drafts, R d.span := by
  refine emit_induct (P := fun _ _ ds => ∀ d ∈ ds, R d.span) ht ?_ ?_ ?_ depth hi hw
  · intro depth i hi _ _ d hd
    rw [List.mem_singleton.1 hd]
    exact hnodes i hi
  · intro depth i hi _ _ _ d hd
    rw [List.mem_singleton.1 hd]
    exact hnodes i hi
  · intro depth i ds hi _ _ _ hsplit
    apply hR.closeGaps (hnodes i hi)
    exact hsplit.forall hR.merge (fun c hc => hnodes c (ht.child i c hc).2) fun _ _ h => h

end Selector

end CodeChunks
