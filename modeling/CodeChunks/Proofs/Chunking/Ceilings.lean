import CodeChunks.Proofs.Chunking.Anchors
import CodeChunks.Proofs.Chunking.Repeat

/-!
# Limits on depth and number

The steps of a plan keep the limits exactly if no node that is looked at (`Plan.Visits`) is too deep
and there are not too many drafts (`Plan.emits`). So a run that keeps its limits keeps larger ones,
and `Settings.withLimits` then makes the same chunks. Every node that is looked at has its own depth
in the tree, and every draft stands for a node of its own, so a tree that is neither too deep nor
too large causes no breach (`Error.isBreach`). A run that is late before it breaks a limit is late
whatever the limits are.
-/

namespace CodeChunks

/-! ## Steps and limits -/

/-- Whether a failure is the breach of a limit on depth or number. -/
def Error.isBreach : Error → Bool
  | .depthExceeded _ _ => true
  | .chunkLimitExceeded _ _ => true
  | _ => false

namespace Limits

variable {l : Limits} {count : Nat} {steps : List Step}

/-- Steps keep the limits exactly if they are not too deep and make not too many drafts. -/
theorem snd_take_eq_none_iff (h : count ≤ l.maxChunks) : (l.take count steps).2 = none ↔
    (∀ depth, .visit depth ∈ steps → depth ≤ l.maxDepth) ∧
      count + steps.count .emit ≤ l.maxChunks := by
  induction steps generalizing count with
  | nil => simpa [take] using h
  | cons step steps ih =>
    cases step with
    | ask i => simpa [take, allow] using ih h
    | visit depth =>
      by_cases hdepth : l.maxDepth < depth
      · have hover : ¬ depth ≤ l.maxDepth := by omega
        simp [take, allow, hdepth, hover]
      · have hle : depth ≤ l.maxDepth := by omega
        simpa [take, allow, hdepth, hle] using ih h
    | emit =>
      by_cases hcount : l.maxChunks < count + 1
      · have hover : ¬ count + (steps.count .emit + 1) ≤ l.maxChunks := by omega
        simp [take, allow, Meter.countOne, hcount, hover]
      · have hle : count + 1 ≤ l.maxChunks := by omega
        have hsum : count + (steps.count .emit + 1) = count + 1 + steps.count .emit := by omega
        simpa [take, allow, Meter.countOne, hcount, hsum] using ih hle

theorem snd_take_of_le {l' : Limits} (hdepth : l.maxDepth ≤ l'.maxDepth)
    (hchunks : l.maxChunks ≤ l'.maxChunks) (h : (l.take 0 steps).2 = none) :
    (l'.take 0 steps).2 = none := by
  have hkept := (snd_take_eq_none_iff (Nat.zero_le _)).1 h
  refine (snd_take_eq_none_iff (Nat.zero_le _)).2 ⟨fun n hn => ?_, ?_⟩
  · exact Nat.le_trans (hkept.1 n hn) hdepth
  · exact Nat.le_trans hkept.2 hchunks

theorem isBreach_of_allow {step : Step} {e : Error} (h : l.allow count step = .error e) :
    e.isBreach = true := by
  cases step with
  | ask i => cases h
  | visit depth =>
    simp only [allow] at h
    split at h
    · cases h
      rfl
    · cases h
  | emit =>
    simp only [allow, Meter.countOne] at h
    split at h
    · cases h
      rfl
    · cases h

theorem isBreach_of_snd_take {e : Error} (h : (l.take count steps).2 = some e) :
    e.isBreach = true := by
  induction steps generalizing count with
  | nil => cases h
  | cons step steps ih =>
    rw [take] at h
    cases hallow : l.allow count step with
    | ok n =>
      rw [hallow] at h
      exact ih h
    | error e' =>
      rw [hallow] at h
      obtain rfl : e' = e := Option.some.inj h
      exact isBreach_of_allow hallow

end Limits

/-! ## The steps of a plan -/

namespace Plan

def emits (p : Plan) : Nat := p.steps.count .emit

/-- Whether a node at some depth is looked at. -/
def Visits (p : Plan) (depth : Nat) : Prop := .visit depth ∈ p.steps

@[simp] theorem emits_append (p q : Plan) : (p ++ q).emits = p.emits + q.emits :=
  List.count_append

@[simp] theorem visits_append {p q : Plan} {depth : Nat} :
    (p ++ q).Visits depth ↔ p.Visits depth ∨ q.Visits depth :=
  List.mem_append

@[simp] theorem emits_asks (bs : List Branch) :
    (ofSteps (bs.map fun b => .ask b.node)).emits = 0 := by
  simp [emits, ofSteps, List.count_eq_zero]

@[simp] theorem not_visits_asks (bs : List Branch) (depth : Nat) :
    ¬ (ofSteps (bs.map fun b => .ask b.node)).Visits depth := by
  simp [Visits, ofSteps]

theorem emits_join (ps : List Plan) (h : ∀ p ∈ ps, p.emits = p.drafts.length) :
    (join ps).emits = (join ps).drafts.length := by
  induction ps with
  | nil => rfl
  | cons p ps ih =>
    rw [join, emits_append, drafts_append, List.length_append, h p List.mem_cons_self,
      ih fun q hq => h q (List.mem_cons_of_mem p hq)]

theorem visits_join {ps : List Plan} {depth : Nat} :
    (join ps).Visits depth ↔ ∃ p ∈ ps, p.Visits depth := by
  induction ps with
  | nil => simp [join, Visits]
  | cons p ps ih => rw [join, visits_append, ih, List.exists_mem_cons_iff]

end Plan

/-- The number of drafts that were made and are not complete. -/
def Tail.made : Tail → Nat
  | .absorbing _ => 1
  | _ => 0

namespace Selector

variable {s : Selector}

/-! ### One child -/

theorem emits_close (s : Selector) (depth : Nat) (tail : Tail) :
    (s.close depth tail).emits + tail.made = (s.close depth tail).drafts.length := by
  cases tail with
  | idle => rfl
  | absorbing d => rfl
  | gathering g =>
    simp only [close, leaveGlue]
    split <;> rfl

theorem emits_attach (s : Selector) (i : NodeId) (tail : Tail) :
    (s.attach i tail).1.emits + tail.made =
      (s.attach i tail).1.drafts.length + (s.attach i tail).2.made := by
  cases tail with
  | idle => rfl
  | absorbing d =>
    unfold attach
    dsimp only
    split <;> rfl
  | gathering g => rfl

theorem emits_place (s : Selector) (depth : Nat) (i : NodeId) (tail : Tail) :
    (s.place depth i tail).1.emits + tail.made =
      (s.place depth i tail).1.drafts.length + (s.place depth i tail).2.made := by
  have happart : (s.close depth tail ++ Plan.ofSteps [.emit]).emits + tail.made =
      (s.close depth tail ++ Plan.ofSteps [.emit]).drafts.length + 1 := by
    have hone : (Plan.ofSteps [.emit]).emits = 1 := rfl
    rw [Plan.emits_append, hone, Plan.drafts_append, Plan.drafts_ofSteps, List.append_nil,
      ← emits_close]
    omega
  unfold place
  cases tail with
  | idle => exact happart
  | absorbing d => exact happart
  | gathering g =>
    dsimp only
    split
    · rfl
    · exact happart

theorem not_visits_close (depth : Nat) (tail : Tail) (n : Nat) :
    ¬ (s.close depth tail).Visits n := by
  cases tail with
  | idle => simp [close, Plan.Visits]
  | absorbing d => simp [close, Plan.Visits]
  | gathering g =>
    simp only [close, leaveGlue]
    split <;> simp [Plan.Visits, Plan.single]

theorem not_visits_attach (i : NodeId) (tail : Tail) (n : Nat) :
    ¬ (s.attach i tail).1.Visits n := by
  cases tail with
  | idle => simp [attach, Plan.Visits]
  | absorbing d =>
    unfold attach
    dsimp only
    split <;> simp [Plan.Visits]
  | gathering g => simp [attach, Plan.Visits]

theorem not_visits_place (depth : Nat) (i : NodeId) (tail : Tail) (n : Nat) :
    ¬ (s.place depth i tail).1.Visits n := by
  have hone : ¬ (Plan.ofSteps [.emit]).Visits n := by simp [Plan.Visits, Plan.ofSteps]
  have happart : ¬ (s.close depth tail ++ Plan.ofSteps [.emit]).Visits n := by
    rw [Plan.visits_append]
    rintro (h | h)
    · exact not_visits_close depth tail n h
    · exact hone h
  unfold place
  cases tail with
  | idle => exact happart
  | absorbing d => exact happart
  | gathering g =>
    dsimp only
    split
    · exact hone
    · exact happart

/-! ### All children -/

/-- Every draft is made in one step. A draft that may still take in what follows was made before. -/
theorem emits_siblings (s : Selector) (depth : Nat) (tail : Tail) (bs : List Branch)
    (hinner : ∀ b ∈ bs, (s.emit depth b).emits = (s.emit depth b).drafts.length) :
    (s.siblings depth tail bs).emits + tail.made =
      (s.siblings depth tail bs).drafts.length := by
  induction bs generalizing tail with
  | nil =>
    rw [siblings]
    exact s.emits_close depth tail
  | cons b bs ih =>
    have hrest := fun tail => ih tail fun c hc => hinner c (List.mem_cons_of_mem b hc)
    have hvisit : (Plan.ofSteps [.visit depth]).emits = 0 := rfl
    rw [siblings, Plan.emits_append, hvisit, Plan.drafts_append, Plan.drafts_ofSteps,
      List.nil_append]
    split
    · split
      · have hplace := s.emits_place depth b.node tail
        have := hrest (s.place depth b.node tail).2
        rw [Plan.emits_append, Plan.drafts_append, List.length_append]
        omega
      · have hclose := s.emits_close depth tail
        have hidle : Tail.idle.made = 0 := rfl
        have := hrest .idle
        have := hinner b List.mem_cons_self
        simp only [Plan.emits_append, Plan.drafts_append, List.length_append]
        omega
    · have hattach := s.emits_attach b.node tail
      have := hrest (s.attach b.node tail).2
      rw [Plan.emits_append, Plan.drafts_append, List.length_append]
      omega

theorem visits_siblings {depth n : Nat} {tail : Tail} {bs : List Branch}
    (h : (s.siblings depth tail bs).Visits n) :
    (∃ b ∈ bs, n = depth) ∨ ∃ b ∈ bs, (s.emit depth b).Visits n := by
  induction bs generalizing tail with
  | nil =>
    rw [siblings] at h
    exact absurd h (not_visits_close depth tail n)
  | cons b bs ih =>
    have hrest : ∀ {tail : Tail}, (s.siblings depth tail bs).Visits n →
        (∃ c ∈ b :: bs, n = depth) ∨ ∃ c ∈ b :: bs, (s.emit depth c).Visits n := by
      intro tail hv
      rcases ih hv with ⟨c, hc, hn⟩ | ⟨c, hc, hn⟩
      · exact .inl ⟨c, List.mem_cons_of_mem b hc, hn⟩
      · exact .inr ⟨c, List.mem_cons_of_mem b hc, hn⟩
    rw [siblings, Plan.visits_append] at h
    rcases h with h | h
    · have hn : n = depth := by simpa [Plan.Visits, Plan.ofSteps] using h
      exact .inl ⟨b, List.mem_cons_self, hn⟩
    · split at h
      · split at h
        · rcases Plan.visits_append.1 h with h | h
          · exact absurd h (not_visits_place depth b.node tail n)
          · exact hrest h
        · rcases Plan.visits_append.1 h with h | h
          · rcases Plan.visits_append.1 h with h | h
            · exact absurd h (not_visits_close depth tail n)
            · exact .inr ⟨b, List.mem_cons_self, h⟩
          · exact hrest h
      · rcases Plan.visits_append.1 h with h | h
        · exact absurd h (not_visits_attach b.node tail n)
        · exact hrest h

/-! ### A whole tree -/

theorem emits_emit {b : Branch} (hb : s.tree.Mirrors b) (depth : Nat) :
    (s.emit depth b).emits = (s.emit depth b).drafts.length := by
  induction hb generalizing depth with
  | @mk i cs _ _ _ ih =>
    have hasks : ∀ p : Plan, p.emits = p.drafts.length →
        (Plan.ofSteps (cs.map fun b => .ask b.node) ++ p).emits =
          (Plan.ofSteps (cs.map fun b => .ask b.node) ++ p).drafts.length := by
      intro p hp
      rw [Plan.emits_append, Plan.emits_asks, Nat.zero_add, Plan.drafts_append,
        Plan.drafts_ofSteps, List.nil_append, hp]
    rw [emit]
    split
    · rfl
    · dsimp only
      split
      · have hinner := s.emits_siblings (depth + 1) .idle cs fun c hc => ih c hc (depth + 1)
        have hlength := (Draft.grows_closeGaps s.source (s.tree.span i)
          (s.siblings (depth + 1) .idle cs).drafts).length_eq
        exact hasks _ (hinner.trans hlength)
      · exact hasks _ rfl

theorem exists_of_visits_emit (ht : s.tree.WellFormed) (hl : s.tree.Linked) {b : Branch}
    (hb : s.tree.Mirrors b) {n : Nat} (h : (s.emit (s.tree.depth b.node) b).Visits n) :
    ∃ j : Nat, j < s.tree.size ∧ s.tree.depth j = n := by
  -- The depth is counted down the branches; along the way it stays the depth of the node.
  generalize hdepth : s.tree.depth b.node = depth at h
  induction hb generalizing depth with
  | @mk i cs hi hcs hmirrors ih =>
    have hchild : ∀ c ∈ cs, s.tree.depth c.node = depth + 1 := by
      intro c hc
      have hmem : c.node ∈ s.tree.children i := hcs ▸ List.mem_map_of_mem hc
      rw [hl.depth_child ht hmem]
      exact congrArg (· + 1) hdepth
    have hsize : ∀ c ∈ cs, c.node < s.tree.size := by
      intro c hc
      have hmem : c.node ∈ s.tree.children i := hcs ▸ List.mem_map_of_mem hc
      exact (ht.child i c.node hmem).2
    rw [emit] at h
    split at h
    · simp [Plan.Visits, Plan.single] at h
    · dsimp only at h
      split at h
      · rcases Plan.visits_append.1 h with h | h
        · exact absurd h (Plan.not_visits_asks cs n)
        · have hsiblings : (s.siblings (depth + 1) .idle cs).Visits n := h
          rcases visits_siblings hsiblings with ⟨c, hc, rfl⟩ | ⟨c, hc, hv⟩
          · exact ⟨c.node, hsize c hc, hchild c hc⟩
          · exact ih c hc (depth + 1) (hchild c hc) hv
      · rcases Plan.visits_append.1 h with h | h
        · exact absurd h (Plan.not_visits_asks cs n)
        · simp [Plan.Visits, Plan.single] at h

theorem emits_plan (ht : s.tree.WellFormed) : s.plan.emits = s.plan.drafts.length := by
  apply Plan.emits_join
  intro p hp
  obtain ⟨i, hi, rfl⟩ := List.mem_map.1 hp
  have hmirrors := ht.mirrors_branch (lt_size_of_mem_topNodes ht hi)
  have hsteps : (Plan.ofSteps [.visit (s.tree.depth i), .ask i]).emits = 0 := rfl
  unfold selectTop
  dsimp only
  rw [Plan.emits_append, hsteps, Nat.zero_add, Plan.drafts_append, Plan.drafts_ofSteps,
    List.nil_append]
  split
  · exact emits_emit hmirrors _
  · rfl

theorem exists_of_visits_plan (ht : s.tree.WellFormed) (hl : s.tree.Linked) {n : Nat}
    (h : s.plan.Visits n) : ∃ j : Nat, j < s.tree.size ∧ s.tree.depth j = n := by
  obtain ⟨p, hp, hv⟩ := Plan.visits_join.1 h
  obtain ⟨i, hi, rfl⟩ := List.mem_map.1 hp
  have hsize := lt_size_of_mem_topNodes ht hi
  unfold selectTop at hv
  dsimp only at hv
  rcases Plan.visits_append.1 hv with hv | hv
  · have hn : n = s.tree.depth i := by simpa [Plan.Visits, Plan.ofSteps] using hv
    exact ⟨i, hsize, hn.symm⟩
  · split at hv
    · have hv' : (s.emit (s.tree.depth (s.tree.branch i).node) (s.tree.branch i)).Visits n := by
        rwa [SyntaxTree.node_branch]
      exact exists_of_visits_emit ht hl (ht.mirrors_branch hsize) hv'
    · simp [Plan.Visits] at hv

end Selector

/-! ## Runs with other limits -/

namespace Settings

def withLimits (s : Settings) (l : Limits) : Settings :=
  { s with config := { s.config with maxDepth := l.maxDepth, maxChunks := l.maxChunks } }

variable {s : Settings} {f : SourceFile} {stamp stamp' : Stamp} {t : SyntaxTree} {l : Limits}

theorem inTime_withLimits (s : Settings) (f : SourceFile) (t : SyntaxTree) (l : Limits) :
    (s.withLimits l).inTime f t = s.inTime f t := by
  have htimeout : (Meter.ofConfig (s.withLimits l).config).timeout =
      (Meter.ofConfig s.config).timeout := rfl
  exact Meter.inTime_congr htimeout s.clock 0 (s.selector f t).plan.steps

theorem runTree_withLimits (hdepth : s.config.maxDepth ≤ l.maxDepth)
    (hchunks : s.config.maxChunks ≤ l.maxChunks) {cs : List Chunk}
    (h : (s.runTree f stamp t).1 = .chunks cs) :
    ((s.withLimits l).runTree f stamp t).1 = .chunks cs := by
  rw [fst_runTree] at h ⊢
  cases hf : s.failure? f t with
  | some e =>
    rw [hf] at h
    cases h
  | none =>
    obtain ⟨hkept, htime⟩ := failure?_eq_none_iff.1 hf
    have hlarger : (s.withLimits l).failure? f t = none :=
      failure?_eq_none_iff.2 ⟨Limits.snd_take_of_le hdepth hchunks hkept,
        (s.inTime_withLimits f t l).symm ▸ htime⟩
    rw [hf] at h
    rw [hlarger]
    exact h

/-- With larger limits a run that is late is late at the same time. -/
theorem runTree_withLimits_of_failed (hdepth : s.config.maxDepth ≤ l.maxDepth)
    (hchunks : s.config.maxChunks ≤ l.maxChunks) {e : Error} (hb : e.isBreach = false)
    (h : (s.runTree f stamp t).1 = .failed e) :
    ((s.withLimits l).runTree f stamp t).1 = .failed e := by
  rw [fst_runTree] at h ⊢
  split at h
  · next e' hf =>
    obtain rfl : e' = e := Outcome.failed.inj h
    rcases cases_of_failure? hf with hbroken | ⟨hkept, htime⟩
    · rw [Limits.isBreach_of_snd_take hbroken] at hb
      cases hb
    · have hlarger : (s.withLimits l).failure? f t = some e' := by
        have htake : ((Limits.ofConfig (s.withLimits l).config).take 0 (s.inTime f t).1).2 = none :=
          Limits.snd_take_of_le hdepth hchunks hkept
        rw [failure?, inTime_withLimits, htake, htime]
        rfl
      rw [hlarger]
  · cases h

/-- A tree that is neither too deep nor too large breaks no limit. -/
theorem isBreach_of_runTree (ht : t.Built)
    (hdepth : ∀ i : Nat, i < t.size → t.depth i ≤ s.config.maxDepth)
    (hsize : t.size ≤ s.config.maxChunks) {e : Error}
    (h : (s.runTree f stamp t).1 = .failed e) : e.isBreach = false := by
  have hwf : (s.selector f t).tree.WellFormed := ht.wellFormed
  have hlinked : (s.selector f t).tree.Linked := ht.linked
  have hkept : ((Limits.ofConfig s.config).take 0 (s.selector f t).plan.steps).2 = none := by
    refine (Limits.snd_take_eq_none_iff (Nat.zero_le _)).2 ⟨fun n hn => ?_, ?_⟩
    · obtain ⟨j, hj, rfl⟩ := Selector.exists_of_visits_plan hwf hlinked hn
      exact hdepth j hj
    · have hemits := Selector.emits_plan hwf
      have hlength := Selector.length_plan_le hwf hlinked
      unfold Plan.emits at hemits
      rw [Nat.zero_add, hemits]
      exact Nat.le_trans hlength hsize
  rw [fst_runTree] at h
  split at h
  · next e' hf =>
    obtain rfl : e' = e := Outcome.failed.inj h
    rcases cases_of_failure? hf with hbroken | ⟨-, htime⟩
    · rw [hkept] at hbroken
      cases hbroken
    · obtain ⟨look, rfl, -⟩ := Meter.eq_timeout_of_inTime htime
      rfl
  · cases h

/-- Either the limits play no part in a run, or it chunks a tree. -/
theorem run_withLimits_cases (s : Settings) (f : SourceFile) (stamp : Stamp) (l : Limits) :
    (((s.withLimits l).run f stamp).1 = (s.run f stamp).1 ∧
      ∀ e, (s.run f stamp).1 = .failed e → e.isBreach = false) ∨
    ∃ t, s.parser f.content f.language = .tree t ∧ s.run f stamp = s.runTree f stamp t ∧
      (s.withLimits l).run f stamp = (s.withLimits l).runTree f stamp t := by
  have hparser : (s.withLimits l).parser = s.parser := rfl
  unfold run
  rw [hparser]
  cases Content.ofText f.content.toList with
  | nothing => exact .inl ⟨rfl, nofun⟩
  | blank lines => exact .inl ⟨rfl, nofun⟩
  | binary =>
    refine .inl ⟨rfl, fun e he => ?_⟩
    rw [← Outcome.failed.inj he]
    rfl
  | singleLine => exact .inl ⟨rfl, nofun⟩
  | code =>
    dsimp only
    cases hp : s.parser f.content f.language with
    | crashed => exact .inl ⟨rfl, nofun⟩
    | failed e =>
      refine .inl ⟨rfl, fun e' he => ?_⟩
      rw [← Outcome.failed.inj he]
      cases e <;> rfl
    | tree t => exact .inr ⟨t, rfl, rfl, rfl⟩

/-- Limits cut a run short and never shape what it makes. A run that goes well makes the same chunks
with larger limits, but for identifiers and times, and one that fails otherwise than by a breach
fails in the same way. No limit is broken on a tree that is neither too deep nor too large. -/
theorem run_with_larger_limits (s : Settings) (f : SourceFile) (stamp stamp' : Stamp) (l : Limits)
    (hdepth : s.config.maxDepth ≤ l.maxDepth) (hchunks : s.config.maxChunks ≤ l.maxChunks) :
    (∀ cs, (s.run f stamp).1 = .chunks cs →
      ((s.withLimits l).run f stamp').1 = .chunks (stamp'.mark cs)) ∧
    (∀ e, (s.run f stamp).1 = .failed e → e.isBreach = false →
      ((s.withLimits l).run f stamp').1 = .failed e) ∧
    ∀ t, s.parser f.content f.language = .tree t → t.Built →
      (∀ i : Nat, i < t.size → t.depth i ≤ s.config.maxDepth) → t.size ≤ s.config.maxChunks →
      ∀ e, (s.run f stamp).1 = .failed e → e.isBreach = false := by
  rw [run_mark (s.withLimits l) f stamp stamp']
  obtain ⟨hsame, hnone⟩ | ⟨t, hparser, hrun, hrun'⟩ := s.run_withLimits_cases f stamp l
  · rw [hsame]
    refine ⟨fun cs hcs => ?_, fun e he _ => ?_, fun t _ _ _ _ => hnone⟩
    · rw [hcs]
      rfl
    · rw [he]
      rfl
  · rw [hrun, hrun']
    refine ⟨fun cs hcs => ?_, fun e he hb => ?_, fun t' ht' hbuilt hdeep hsize e he => ?_⟩
    · rw [runTree_withLimits hdepth hchunks hcs]
      rfl
    · rw [runTree_withLimits_of_failed hdepth hchunks hb he]
      rfl
    · obtain rfl : t = t' := Parsed.tree.inj (hparser.symm.trans ht')
      exact isBreach_of_runTree hbuilt hdeep hsize he

end Settings

namespace Sample

/-- Settings with limits that the class with two functions just keeps: its deepest nodes have four
ancestors, and it has fifteen nodes. -/
def limited : Settings := (settings 4).withLimits ⟨4, 15⟩

def binary : SourceFile := ⟨"a\x00b\n", none, .python⟩

def laterIds : Stamp := { stamp with ids := fun n => .ofNat (n + 100) }

end Sample

namespace Settings

/-- With the default limits the class with two functions makes the same three chunks as with limits
that it just keeps, and a binary file is refused in the same way. -/
theorem class_with_default_limits :
    (∃ cs, cs.length = 3 ∧ (Sample.limited.run Sample.file Sample.stamp).1 = .chunks cs ∧
      ((Sample.limited.withLimits ⟨200, 5000⟩).run Sample.file Sample.laterIds).1 =
        .chunks (Sample.laterIds.mark cs)) ∧
    ((Sample.limited.withLimits ⟨200, 5000⟩).run Sample.binary Sample.laterIds).1 =
      .failed (.binaryFile none) ∧
    ∀ e, (Sample.limited.run Sample.file Sample.stamp).1 = .failed e → e.isBreach = false := by
  have hfile := Sample.limited.run_with_larger_limits Sample.file Sample.stamp Sample.laterIds
    ⟨200, 5000⟩ (by decide) (by decide)
  have hbinary := Sample.limited.run_with_larger_limits Sample.binary Sample.stamp
    Sample.laterIds ⟨200, 5000⟩ (by decide) (by decide)
  refine ⟨?_, hbinary.2.1 (.binaryFile none) rfl rfl, ?_⟩
  · have hlength : (Sample.limited.run Sample.file Sample.stamp).1.chunkList.length = 3 := by
      decide +kernel
    cases hcs : (Sample.limited.run Sample.file Sample.stamp).1 with
    | chunks cs =>
      rw [hcs] at hlength
      exact ⟨cs, hlength, rfl, hfile.1 cs hcs⟩
    | failed e =>
      rw [hcs] at hlength
      cases hlength
    | crashed =>
      rw [hcs] at hlength
      cases hlength
  · exact hfile.2.2 Sample.tree rfl Sample.built_tree (by decide +kernel) (by decide +kernel)

end Settings

end CodeChunks
