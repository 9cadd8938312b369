import CodeChunks.Proofs.Chunking.Ceilings
import Mathlib.Data.List.Nodup

/-!
# Children one after another

The children of a node that is taken apart can also be gone through in a loop, `Selector.visitAll`,
that makes drafts as it goes and stops at the first limit that is broken. Between two children it
has in `Hand` all drafts so far, the place of the draft that the child before made, as long as that
may take in what follows, and the children that wait for a neighbour. `Selector.visitAll_eq` says
that the loop comes to the plan for the children under the same limits, and
`Selector.children_fall_into_runs` what the drafts are when it ends.
-/

namespace CodeChunks

/-! ## Limits as a plan is carried out -/

namespace Limits

variable {l : Limits} {count : Nat} {steps more : List Step}

/-- The number of drafts after some steps, given the number before them. -/
def spend (l : Limits) (count : Nat) (steps : List Step) : Except Error Nat :=
  steps.foldlM l.allow count

theorem spend_cons (step : Step) :
    l.spend count (step :: steps) = (l.allow count step).bind (l.spend · steps) := rfl

theorem spend_append :
    l.spend count (steps ++ more) = (l.spend count steps).bind (l.spend · more) :=
  List.foldlM_append

theorem eq_of_allow {step : Step} {n : Nat} (h : l.allow count step = .ok n) :
    n = count + [step].count .emit := by
  cases step with
  | ask i => exact (Except.ok.inj h).symm
  | visit depth =>
    simp only [allow] at h
    split at h
    · cases h
    · exact (Except.ok.inj h).symm
  | emit =>
    simp only [allow, Meter.countOne] at h
    split at h
    · cases h
    · exact (Except.ok.inj h).symm

theorem spend_eq (l : Limits) (count : Nat) (steps : List Step) :
    l.spend count steps = match (l.take count steps).2 with
      | some e => .error e
      | none => .ok (count + steps.count .emit) := by
  induction steps generalizing count with
  | nil => rfl
  | cons step steps ih =>
    rw [spend_cons, take]
    cases h : l.allow count step with
    | error e => rfl
    | ok n =>
      show l.spend n steps = _
      rw [ih, eq_of_allow h, Nat.add_assoc, ← List.count_append, List.singleton_append]

theorem eq_of_spend {n : Nat} (h : l.spend count steps = .ok n) :
    n = count + steps.count .emit := by
  rw [spend_eq] at h
  split at h
  · cases h
  · exact (Except.ok.inj h).symm

/-- A value, if the steps before it keep the limits. -/
def after {α : Type} (l : Limits) (count : Nat) (steps : List Step) (a : α) : Except Error α :=
  (l.spend count steps).map fun _ => a

variable {α β : Type}

theorem map_after (a : α) (f : α → β) :
    (l.after count steps a).map f = l.after count steps (f a) := by
  unfold after
  cases l.spend count steps <;> rfl

theorem after_bind {a : α} {b : β} {f : α → Except Error β}
    (h : f a = l.after (count + steps.count .emit) more b) :
    (l.after count steps a >>= f) = l.after count (steps ++ more) b := by
  unfold after at h ⊢
  rw [spend_append]
  cases hspend : l.spend count steps with
  | error e => rfl
  | ok n =>
    rw [eq_of_spend hspend]
    exact h

theorem eq_of_after {a b : α} (h : l.after count steps a = .ok b) : b = a := by
  unfold after at h
  cases hspend : l.spend count steps with
  | error e =>
    rw [hspend] at h
    cases h
  | ok n =>
    rw [hspend] at h
    exact (Except.ok.inj h).symm

theorem allow_bind {step : Step} {b : β} {x : Except Error β}
    (h : x = l.after (count + [step].count .emit) steps b) :
    (l.allow count step >>= fun _ => x) = l.after count (step :: steps) b := by
  unfold after at h ⊢
  rw [spend_cons]
  cases hallow : l.allow count step with
  | error e => rfl
  | ok n =>
    rw [eq_of_allow hallow]
    exact h

end Limits

/-- Carries a plan out after other drafts were made. -/
def Plan.carryOut (l : Limits) (p : Plan) (drafts : List Draft) : Except Error (List Draft) :=
  match (l.take drafts.length p.steps).2 with
  | some e => .error e
  | none => .ok (drafts ++ p.drafts)

theorem Plan.carryOut_eq (l : Limits) (p : Plan) (drafts : List Draft) :
    p.carryOut l drafts = l.after drafts.length p.steps (drafts ++ p.drafts) := by
  rw [carryOut, Limits.after, Limits.spend_eq]
  cases (l.take drafts.length p.steps).2 <;> rfl

/-! ## The loop -/

/-- What is in hand between two children: all drafts so far, the place of the draft that the child
before made, if it may take in what follows, and the children that wait for a neighbour. -/
structure Hand where
  drafts : List Draft
  adjacent : Option Nat := none
  pending : Option Glue := none
  deriving DecidableEq, Repr

def Hand.push (l : Limits) (d : Draft) (h : Hand) : Except Error Hand := do
  let _ ← l.allow h.drafts.length .emit
  return { h with drafts := h.drafts ++ [d] }

def Hand.pushOpen (l : Limits) (d : Draft) (h : Hand) : Except Error Hand := do
  let h ← h.push l d
  return { h with adjacent := some (h.drafts.length - 1) }

namespace Selector

def dropPending (s : Selector) (l : Limits) (depth : Nat) (h : Hand) : Except Error Hand :=
  match h.pending with
  | none => .ok h
  | some g =>
    if Text.isBlankText (g.span.text s.source) then .ok { h with pending := none }
    else Hand.push l { span := g.span, node := g.first, depth := depth, kind := .glue }
      { h with pending := none }

/-- A child not worth a chunk waits, with those that wait already. -/
def wait (s : Selector) (i : NodeId) (h : Hand) : Hand :=
  { h with
    adjacent := none
    pending := match h.pending with
      | some g => some (g.add (s.tree.span i))
      | none => some (.ofNode s.tree i) }

/-- A child not worth a chunk joins the draft before it if the result fits. -/
def joinOrWait (s : Selector) (i : NodeId) (h : Hand) : Hand :=
  match h.adjacent with
  | none => s.wait i h
  | some k =>
    match h.drafts[k]? with
    | none => s.wait i h
    | some d =>
      let joined := d.absorb (s.tree.span i)
      if s.fits joined.span then { h with drafts := h.drafts.set k joined } else s.wait i h

/-- A child worth a chunk that fits takes in what waits before it if the result fits. -/
def makeDraft (s : Selector) (l : Limits) (depth : Nat) (i : NodeId) (h : Hand) :
    Except Error Hand :=
  let d := s.nodeDraft i depth
  match h.pending with
  | none => h.pushOpen l d
  | some g =>
    let span := g.span.merge d.span
    if s.fits span then
      Hand.pushOpen l { d with span := span, glueBytes := g.bytes } { h with pending := none }
    else s.dropPending l depth h >>= Hand.pushOpen l d

/-- A child worth a chunk that does not fit is looked into. -/
def lookInto (s : Selector) (l : Limits) (depth : Nat) (i : NodeId) (h : Hand) :
    Except Error Hand := do
  let h ← s.dropPending l depth h
  ((s.emit depth (s.tree.branch i)).carryOut l h.drafts).map fun drafts => { drafts := drafts }

def visitChild (s : Selector) (l : Limits) (depth : Nat) (h : Hand) (i : NodeId) :
    Except Error Hand := do
  let _ ← l.allow h.drafts.length (.visit depth)
  if s.isWorthy i then
    if s.fits (s.tree.span i) then s.makeDraft l depth i h else s.lookInto l depth i h
  else return s.joinOrWait i h

def visitAll (s : Selector) (l : Limits) (depth : Nat) (before : List Draft)
    (is : List NodeId) : Except Error (List Draft) := do
  let h ← is.foldlM (s.visitChild l depth) { drafts := before }
  (s.dropPending l depth h).map Hand.drafts

end Selector

/-! ## What is in hand and what is open -/

/-- What is in hand after some drafts, given what is open. -/
def Hand.of (drafts : List Draft) : Tail → Hand
  | .idle => { drafts := drafts }
  | .absorbing d => { drafts := drafts ++ [d], adjacent := some drafts.length }
  | .gathering g => { drafts := drafts, pending := some g }

namespace Hand

theorem length_of (drafts : List Draft) (tail : Tail) :
    (of drafts tail).drafts.length = drafts.length + tail.made := by
  cases tail <;> simp [of, Tail.made]

/-- No draft may take in what follows while children wait, and only the last one may. -/
theorem exclusive_of (drafts : List Draft) (tail : Tail) :
    ((of drafts tail).adjacent = none ∨ (of drafts tail).pending = none) ∧
      ∀ k, (of drafts tail).adjacent = some k → k + 1 = (of drafts tail).drafts.length := by
  cases tail with
  | idle => exact ⟨.inl rfl, nofun⟩
  | absorbing d =>
    refine ⟨.inr rfl, fun k hk => ?_⟩
    rw [length_of]
    exact congrArg (· + 1) (Option.some.inj hk).symm
  | gathering g => exact ⟨.inl rfl, nofun⟩

theorem push_eq (l : Limits) (d : Draft) (h : Hand) :
    h.push l d = l.after h.drafts.length [.emit] { h with drafts := h.drafts ++ [d] } := by
  unfold push Limits.after
  rw [Limits.spend_cons]
  cases l.allow h.drafts.length .emit <;> rfl

theorem pushOpen_eq (l : Limits) (d : Draft) (h : Hand) :
    h.pushOpen l d = l.after h.drafts.length [.emit]
      { h with drafts := h.drafts ++ [d], adjacent := some h.drafts.length } := by
  unfold pushOpen
  rw [push_eq, Limits.after, Limits.after]
  cases l.spend h.drafts.length [.emit] with
  | error e => rfl
  | ok n =>
    have hlast : (h.drafts ++ [d]).length - 1 = h.drafts.length := by simp
    exact congrArg (fun k => Except.ok { h with drafts := h.drafts ++ [d], adjacent := some k })
      hlast

end Hand

namespace Selector

variable {s : Selector} {l : Limits} {depth : Nat} {drafts : List Draft} {tail : Tail}

/-! ### One child -/

theorem joinOrWait_of (i : NodeId) :
    s.joinOrWait i (.of drafts tail) =
      .of (drafts ++ (s.attach i tail).1.drafts) (s.attach i tail).2 := by
  cases tail with
  | idle => simp [joinOrWait, wait, Hand.of, attach]
  | absorbing d =>
    have hlast : (drafts ++ [d])[drafts.length]? = some d := by simp
    simp only [joinOrWait, Hand.of, attach, hlast]
    split
    · simp
    · simp [wait]
  | gathering g => simp [joinOrWait, wait, Hand.of, attach]

theorem dropPending_gathering (g : Glue) :
    s.dropPending l depth (.of drafts (.gathering g)) =
      l.after drafts.length (s.leaveGlue depth g).steps
        (.of (drafts ++ (s.leaveGlue depth g).drafts) .idle) := by
  simp only [dropPending, Hand.of, leaveGlue]
  split
  · rw [Plan.drafts_empty, List.append_nil]
    rfl
  · exact Hand.push_eq _ _ _

theorem drafts_dropPending :
    (s.dropPending l depth (.of drafts tail)).map Hand.drafts =
      l.after (Hand.of drafts tail).drafts.length (s.close depth tail).steps
        (drafts ++ (s.close depth tail).drafts) := by
  cases tail with
  | idle =>
    show Except.ok drafts = .ok (drafts ++ [])
    rw [List.append_nil]
  | absorbing d => rfl
  | gathering g =>
    rw [dropPending_gathering, Limits.map_after]
    rfl

theorem length_append_close (s : Selector) (depth : Nat) (drafts : List Draft) (tail : Tail) :
    (Hand.of drafts tail).drafts.length + (s.close depth tail).steps.count .emit =
      (drafts ++ (s.close depth tail).drafts).length := by
  have hclose := s.emits_close depth tail
  unfold Plan.emits at hclose
  rw [Hand.length_of, List.length_append]
  omega

theorem makeDraft_of (i : NodeId) :
    s.makeDraft l depth i (.of drafts tail) =
      l.after (Hand.of drafts tail).drafts.length (s.place depth i tail).1.steps
        (.of (drafts ++ (s.place depth i tail).1.drafts) (s.place depth i tail).2) := by
  cases tail with
  | idle =>
    simp only [makeDraft, place, Hand.of, Hand.pushOpen_eq]
    simp [close, Plan.ofSteps]
  | absorbing d =>
    simp only [makeDraft, place, Hand.of, Hand.pushOpen_eq]
    simp [close, Plan.ofSteps]
  | gathering g =>
    unfold makeDraft place
    dsimp only [Hand.of]
    split
    · rw [Hand.pushOpen_eq, Plan.drafts_ofSteps, List.append_nil]
      rfl
    · have hcount : drafts.length + (s.leaveGlue depth g).steps.count .emit =
          (drafts ++ (s.leaveGlue depth g).drafts).length :=
        s.length_append_close depth drafts (.gathering g)
      show (s.dropPending l depth (.of drafts (.gathering g)) >>= _) = _
      rw [dropPending_gathering]
      refine Limits.after_bind ?_
      rw [hcount, Hand.pushOpen_eq]
      simp [close, Hand.of, Plan.ofSteps]

/-! ### All children -/

/-- The plan for one child, given what is open before it, and what is open after it. -/
def advance (s : Selector) (depth : Nat) (tail : Tail) (b : Branch) : Plan × Tail :=
  if s.isWorthy b.node then
    if s.fits (s.tree.span b.node) then s.place depth b.node tail
    else (s.close depth tail ++ s.emit depth b, .idle)
  else s.attach b.node tail

theorem siblings_cons (b : Branch) (bs : List Branch) :
    s.siblings depth tail (b :: bs) = .ofSteps [.visit depth] ++
      ((s.advance depth tail b).1 ++ s.siblings depth (s.advance depth tail b).2 bs) := by
  rw [siblings, advance]
  split
  · split <;> rfl
  · rfl

theorem emits_advance (depth : Nat) (tail : Tail) {b : Branch} (hb : s.tree.Mirrors b) :
    (s.advance depth tail b).1.emits + tail.made =
      (s.advance depth tail b).1.drafts.length + (s.advance depth tail b).2.made := by
  unfold advance
  split
  · split
    · exact s.emits_place depth b.node tail
    · have hclose := s.emits_close depth tail
      have hemit := emits_emit hb depth
      have hidle : Tail.idle.made = 0 := rfl
      simp only [Plan.emits_append, Plan.drafts_append, List.length_append]
      omega
  · exact s.emits_attach b.node tail

theorem steps_attach (i : NodeId) : (s.attach i tail).1.steps = [] := by
  cases tail with
  | idle => rfl
  | absorbing d =>
    unfold attach
    dsimp only
    split <;> rfl
  | gathering g => rfl

theorem lookInto_of (i : NodeId) :
    s.lookInto l depth i (.of drafts tail) =
      l.after (Hand.of drafts tail).drafts.length
        (s.close depth tail ++ s.emit depth (s.tree.branch i)).steps
        (.of (drafts ++ (s.close depth tail ++ s.emit depth (s.tree.branch i)).drafts) .idle) := by
  have hdrafts : ∀ (x : Except Error Hand) (f : List Draft → Except Error Hand),
      (x >>= fun h => f h.drafts) = (x.map Hand.drafts >>= f) := by
    intro x f
    cases x <;> rfl
  unfold lookInto
  rw [hdrafts _ fun ds => ((s.emit depth (s.tree.branch i)).carryOut l ds).map
    fun es => { drafts := es }, drafts_dropPending]
  refine Limits.after_bind ?_
  rw [Plan.carryOut_eq, Limits.map_after, length_append_close, Plan.drafts_append,
    ← List.append_assoc]
  rfl

theorem visitChild_of (i : NodeId) :
    s.visitChild l depth (.of drafts tail) i =
      l.after (Hand.of drafts tail).drafts.length
        (.visit depth :: (s.advance depth tail (s.tree.branch i)).1.steps)
        (.of (drafts ++ (s.advance depth tail (s.tree.branch i)).1.drafts)
          (s.advance depth tail (s.tree.branch i)).2) := by
  refine Limits.allow_bind ?_
  unfold advance
  rw [SyntaxTree.node_branch]
  split
  · split
    · exact makeDraft_of i
    · exact lookInto_of i
  · rw [steps_attach, joinOrWait_of]
    rfl

/-- Going through children in a loop comes to the plan for them, under the limits. -/
theorem foldlM_visitChild (ht : s.tree.WellFormed) {is : List NodeId}
    (his : ∀ i ∈ is, i < s.tree.size) (drafts : List Draft) (tail : Tail) :
    (do
      let h ← is.foldlM (s.visitChild l depth) (.of drafts tail)
      (s.dropPending l depth h).map Hand.drafts) =
      l.after (Hand.of drafts tail).drafts.length
        (s.siblings depth tail (is.map s.tree.branch)).steps
        (drafts ++ (s.siblings depth tail (is.map s.tree.branch)).drafts) := by
  induction is generalizing drafts tail with
  | nil =>
    rw [List.map_nil, siblings]
    exact drafts_dropPending
  | cons i is ih =>
    have hmirrors := ht.mirrors_branch (his i List.mem_cons_self)
    have hcount : (Hand.of drafts tail).drafts.length +
        (.visit depth :: (s.advance depth tail (s.tree.branch i)).1.steps).count .emit =
        (Hand.of (drafts ++ (s.advance depth tail (s.tree.branch i)).1.drafts)
          (s.advance depth tail (s.tree.branch i)).2).drafts.length := by
      have hemits := emits_advance depth tail hmirrors
      unfold Plan.emits at hemits
      have hvisit : Step.visit depth ≠ .emit := by simp
      rw [Hand.length_of, Hand.length_of, List.length_append, List.count_cons_of_ne hvisit]
      omega
    rw [List.foldlM_cons, bind_assoc, visitChild_of, List.map_cons, siblings_cons,
      Plan.drafts_append, Plan.drafts_ofSteps, List.nil_append, Plan.drafts_append,
      ← List.append_assoc]
    refine Limits.after_bind ?_
    rw [hcount]
    exact ih (fun j hj => his j (List.mem_cons_of_mem i hj)) _ _

theorem visitAll_eq (ht : s.tree.WellFormed) {is : List NodeId}
    (his : ∀ i ∈ is, i < s.tree.size) (before : List Draft) :
    s.visitAll l depth before is =
      (s.siblings depth .idle (is.map s.tree.branch)).carryOut l before := by
  rw [Plan.carryOut_eq]
  exact foldlM_visitChild ht his before .idle

/-- Between two children the loop has in hand what is open, whatever comes next. -/
theorem exists_of_foldlM (drafts : List Draft) (tail : Tail) {is : List NodeId} {h : Hand}
    (hfold : is.foldlM (s.visitChild l depth) (.of drafts tail) = .ok h) :
    ∃ ds tail', h = .of ds tail' := by
  induction is generalizing drafts tail with
  | nil => exact ⟨drafts, tail, (Except.ok.inj hfold).symm⟩
  | cons i is ih =>
    rw [List.foldlM_cons] at hfold
    cases hstep : s.visitChild l depth (.of drafts tail) i with
    | error e =>
      rw [hstep] at hfold
      cases hfold
    | ok next =>
      rw [hstep] at hfold
      rw [visitChild_of] at hstep
      rw [Limits.eq_of_after hstep] at hfold
      exact ih _ _ hfold

/-! ## The whole node -/

theorem spend_asks (l : Limits) (count : Nat) (bs : List Branch) :
    l.spend count (bs.map fun b => .ask b.node) = .ok count := by
  induction bs with
  | nil => rfl
  | cons b bs ih => exact ih

/-- A node that is taken apart comes to the loop over its children and to closing the gaps between
the drafts that were made in the loop. -/
theorem carryOut_emit (ht : s.tree.WellFormed) {i : Nat} (hi : i < s.tree.size)
    (hfit : s.fits (s.tree.span i) = false) (hsome : ∃ c ∈ s.tree.children i, s.isWorthy c = true)
    (l : Limits) (depth : Nat) (before : List Draft) :
    (s.emit depth (s.tree.branch i)).carryOut l before =
      (s.visitAll l (depth + 1) before (s.tree.children i)).map fun ds =>
        before ++ Draft.closeGaps s.source (s.tree.span i) (ds.drop before.length) := by
  have hany : ((s.tree.children i).map s.tree.branch).any (fun b => s.isWorthy b.node) = true := by
    obtain ⟨c, hc, hw⟩ := hsome
    exact List.any_eq_true.2 ⟨s.tree.branch c, List.mem_map_of_mem hc,
      by rwa [SyntaxTree.node_branch]⟩
  rw [visitAll_eq ht fun c hc => (ht.child i c hc).2, Plan.carryOut_eq, Plan.carryOut_eq,
    Limits.map_after, List.drop_left, ht.branch_eq hi, emit, if_neg (by simp [hfit]), if_pos hany]
  unfold Limits.after
  rw [Plan.steps_append, Limits.spend_append, Plan.ofSteps, spend_asks]
  rfl

/-- The drafts of nodes in a row, those that do not fit being looked into. -/
theorem split_branches (s : Selector) (depth : Nat) (is : List NodeId) :
    Split s (fun c es => es = (s.emit depth (s.tree.branch c)).drafts) depth is
      (s.siblings depth .idle (is.map s.tree.branch)).drafts := by
  have hnodes : (is.map s.tree.branch).map Branch.node = is := by
    rw [List.map_map]
    exact (List.map_congr_left fun c _ => s.tree.node_branch c).trans (List.map_id _)
  have hsplit : Split s (fun c es => es = (s.emit depth (s.tree.branch c)).drafts) depth
      ([] ++ (is.map s.tree.branch).map Branch.node)
      (s.siblings depth .idle (is.map s.tree.branch)).drafts := by
    refine split_siblings .idle (is.map s.tree.branch) fun b hb _ _ => ?_
    obtain ⟨c, -, rfl⟩ := List.mem_map.1 hb
    rw [SyntaxTree.node_branch]
  rwa [List.nil_append, hnodes] at hsplit

theorem Split.exists_runs {Inner : NodeId → List Draft → Prop} {is : List NodeId}
    {ds : List Draft} (h : Split s Inner depth is ds) :
    ∃ runs : List (List NodeId × List Draft), runs.flatMap (·.1) = is ∧ runs.flatMap (·.2) = ds ∧
      ∀ r ∈ runs, Run s Inner depth r.1 r.2 := by
  induction h with
  | nil => exact ⟨[], rfl, rfl, nofun⟩
  | @cons is js ds es hrun _ ih =>
    obtain ⟨runs, rfl, rfl, hruns⟩ := ih
    exact ⟨(is, ds) :: runs, rfl, rfl, List.forall_mem_cons.2 ⟨hrun, hruns⟩⟩

theorem existsUnique_of_mem_flatMap {runs : List (List NodeId × List Draft)}
    (hnodup : (runs.flatMap (·.1)).Nodup) {c : NodeId} (hc : c ∈ runs.flatMap (·.1)) :
    ∃! k : Nat, ∃ r : List NodeId × List Draft, runs[k]? = some r ∧ c ∈ r.1 := by
  have hapart : ∀ {j k : Nat} {q r : List NodeId × List Draft}, runs[j]? = some q →
      runs[k]? = some r → j < k → c ∈ q.1 → c ∉ r.1 := by
    intro j k q r hq hr hlt
    obtain ⟨hj, rfl⟩ := List.getElem?_eq_some_iff.1 hq
    obtain ⟨hk, rfl⟩ := List.getElem?_eq_some_iff.1 hr
    have hpair := (List.nodup_flatMap.1 hnodup).2
    exact fun hcq hcr => List.pairwise_iff_getElem.1 hpair j k hj hk hlt hcq hcr
  obtain ⟨r, hr, hcr⟩ := List.mem_flatMap.1 hc
  obtain ⟨k, hk⟩ := List.mem_iff_getElem?.1 hr
  refine ⟨k, ⟨r, hk, hcr⟩, ?_⟩
  rintro j ⟨q, hj, hcq⟩
  rcases Nat.lt_trichotomy j k with hlt | heq | hgt
  · exact absurd hcr (hapart hj hk hlt hcq)
  · exact heq
  · exact absurd hcq (hapart hk hj hgt hcr)

/-- A node is taken apart by going through its children in a loop and closing the gaps between the
drafts made there. The loop never has a draft that may take in what follows and children that wait
at the same time, and such a draft is the last one. If the loop ends without a failure, the children
fall into runs, one after another, and every child is in one of them. The drafts made in the loop
are those of the runs: of a child worth a chunk with the neighbours that fit with it, of a child
that does not fit and is looked into, or of neighbours not worth a chunk. -/
theorem children_fall_into_runs (ht : s.tree.Built) {i : Nat} (hi : i < s.tree.size) (l : Limits)
    (depth : Nat) (before : List Draft) :
    (∀ is h, is <+: s.tree.children i →
      is.foldlM (s.visitChild l (depth + 1)) { drafts := before } = .ok h →
      (h.adjacent = none ∨ h.pending = none) ∧
        ∀ k, h.adjacent = some k → k + 1 = h.drafts.length) ∧
    (s.fits (s.tree.span i) = false → (∃ c ∈ s.tree.children i, s.isWorthy c = true) →
      (s.emit depth (s.tree.branch i)).carryOut l before =
        (s.visitAll l (depth + 1) before (s.tree.children i)).map fun ds =>
          before ++ Draft.closeGaps s.source (s.tree.span i) (ds.drop before.length)) ∧
    ∀ ds, s.visitAll l (depth + 1) before (s.tree.children i) = .ok ds →
      ∃ runs : List (List NodeId × List Draft),
        runs.flatMap (·.1) = s.tree.children i ∧ ds = before ++ runs.flatMap (·.2) ∧
        (∀ c ∈ s.tree.children i, ∃! k : Nat, ∃ r : List NodeId × List Draft,
          runs[k]? = some r ∧ c ∈ r.1) ∧
        ∀ r ∈ runs, s.Run (fun c es => es = (s.emit (depth + 1) (s.tree.branch c)).drafts)
          (depth + 1) r.1 r.2 := by
  have hwf := ht.wellFormed
  refine ⟨fun is h _ hfold => ?_, fun hfit hsome => carryOut_emit hwf hi hfit hsome l depth before,
    fun ds hds => ?_⟩
  · obtain ⟨es, tail, rfl⟩ := exists_of_foldlM before .idle hfold
    exact Hand.exclusive_of es tail
  · obtain ⟨runs, hnodes, hdrafts, hruns⟩ :=
      (s.split_branches (depth + 1) (s.tree.children i)).exists_runs
    rw [visitAll_eq hwf fun c hc => (hwf.child i c hc).2, Plan.carryOut_eq] at hds
    refine ⟨runs, hnodes, ?_, fun c hc => ?_, hruns⟩
    · rw [Limits.eq_of_after hds, hdrafts]
    · have hnodup : (s.tree.children i).Nodup := (ht.linked.increasing i).imp Nat.ne_of_lt
      rw [← hnodes] at hc hnodup
      exact existsUnique_of_mem_flatMap hnodup hc

end Selector

def Sample.selector : Selector := (settings 4).selector file tree

namespace Selector

/-- In a class with two functions, the loop over the words of its header and its block ends with
three drafts, which are those of runs of these seven children. -/
theorem class_children_in_runs :
    ∃ ds, Sample.selector.visitAll ⟨200, 5000⟩ 2 [] (Sample.selector.tree.children 1) = .ok ds ∧
      ds.length = 3 ∧ ∃ runs : List (List NodeId × List Draft),
        runs.flatMap (·.1) = [2, 3, 4, 5, 6, 7, 8] ∧ ds = runs.flatMap (·.2) := by
  have hchildren : Sample.selector.tree.children 1 = [2, 3, 4, 5, 6, 7, 8] := by decide +kernel
  have hlength : (Sample.selector.visitAll ⟨200, 5000⟩ 2 []
      (Sample.selector.tree.children 1)).toOption.map List.length = some 3 := by decide +kernel
  have hsize : 1 < Sample.selector.tree.size := by decide +kernel
  have hbuilt : Sample.selector.tree.Built := by
    dsimp only [Sample.selector, Settings.selector]
    exact Sample.built_tree
  obtain ⟨-, -, hruns⟩ := children_fall_into_runs hbuilt hsize ⟨200, 5000⟩ 1 []
  cases hds : Sample.selector.visitAll ⟨200, 5000⟩ 2 [] (Sample.selector.tree.children 1) with
  | error e =>
    rw [hds] at hlength
    cases hlength
  | ok ds =>
    rw [hds] at hlength
    obtain ⟨runs, hnodes, hdrafts, -⟩ := hruns ds hds
    exact ⟨ds, rfl, Option.some.inj hlength, runs, hnodes.trans hchildren, hdrafts⟩

end Selector

end CodeChunks
