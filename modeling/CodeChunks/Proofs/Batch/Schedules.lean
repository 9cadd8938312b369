import CodeChunks.Proofs.Batch.Reports
import CodeChunks.Proofs.Batch.Steps
import Mathlib.Algebra.GroupWithZero.Nat

/-!
# Batches on any schedule

Whatever the schedule, the files of a batch offer the same `Batch.drafts`, each file in its own
order. The schedule decides which of two files keeps a content that they share, but not whether it
is kept. So each content is returned once, and the numbers of chunks returned and dropped are always
the same.

`Turn` is what one turn does and `Invariant` what holds after any number of them: the offers so far
were made in some order (`Offered`), and the store and the counts are what this order makes of them.
-/

namespace CodeChunks

theorem Stats.tally_tally (n a b : Nat) : tally (tally n a) b = tally n (a + b) := by
  unfold tally
  omega

/-! ## Collected batches -/

/-! ## One turn -/

/-- How many turns it takes to draft a file with this outcome and, unless it fails, to offer each
chunk and to end. -/
def Outcome.turns : Outcome → Nat
  | .chunks drafted => drafted.length + 2
  | _ => 1

def BatchFile.turns (parser : Parser) (budget : Budget) (c : Chunker) (f : BatchFile) : Nat :=
  (f.draft parser budget c).2.turns

namespace Batch

variable (parser : Parser) (budget : Budget) (c₀ : Chunker)

def drafts (files : List BatchFile) : List Chunk := files.flatMap (·.offered parser budget c₀)

namespace Task

/-- The chunks that a file has still to offer. -/
def rest (t : Task) : List Chunk :=
  match t.progress with
  | .waiting => t.file.offered parser budget c₀
  | .offering _ rest _ => rest
  | .ended _ => []

def kept (t : Task) : List Chunk :=
  match t.progress with
  | .waiting => []
  | .offering _ _ kept => kept
  | .ended o => o.chunkList

/-- How many chunks a file that ended has dropped. -/
def dropped (t : Task) : Nat :=
  match t.progress with
  | .ended o => (t.file.offered parser budget c₀).length - o.chunkList.length
  | _ => 0

def turns (t : Task) : Nat :=
  match t.progress with
  | .waiting => t.file.turns parser budget c₀
  | .offering _ rest _ => rest.length + 1
  | .ended _ => 0

/-- A file keeps no more than it drafted. -/
def Sound (t : Task) : Prop :=
  match t.progress with
  | .waiting => True
  | .offering total rest kept =>
    total = (t.file.offered parser budget c₀).length ∧ kept.length + rest.length ≤ total
  | .ended o => o.chunkList.length ≤ (t.file.offered parser budget c₀).length

/-- What a turn does, seen from a chunker that gives the same answers. -/
structure Turn (c : Chunker) (seen : SeenContents) (t : Task) (c' : Chunker)
    (seen' : SeenContents) (t' : Task) : Prop where
  file : t'.file = t.file
  agrees : c₀.Agrees c'
  sound : t'.Sound parser budget c₀
  turns : t'.turns parser budget c₀ = t.turns parser budget c₀ - 1
  counter : ∃ more, t'.dropped parser budget c₀ = t.dropped parser budget c₀ + more ∧
    (more = 0 ∧ c'.stats.duplicatesDropped = c.stats.duplicatesDropped ∨
      c'.stats.duplicatesDropped = Stats.tally c.stats.duplicatesDropped more)
  contents :
    (seen' = seen ∧ t'.kept = t.kept ∧ t'.rest parser budget c₀ = t.rest parser budget c₀) ∨
    ∃ x batch, t.rest parser budget c₀ = x :: t'.rest parser budget c₀ ∧
      seen' = (Cache.offer Chunker.contentKey? (fun _ => batch) seen x).1 ∧
      t'.kept = if Cache.isNew Chunker.contentKey? seen x then t.kept ++ [x] else t.kept

variable {parser budget c₀}

/-- Drafting a file decides how many turns it takes from then on. -/
theorem turn_waiting {c : Chunker} (hc : c₀.Agrees c) (seen : SeenContents) (f : BatchFile) :
    Turn parser budget c₀ c seen ⟨f, .waiting⟩ (Task.step parser budget ⟨f, .waiting⟩ c seen).1
      (Task.step parser budget ⟨f, .waiting⟩ c seen).2.1
      (Task.step parser budget ⟨f, .waiting⟩ c seen).2.2 := by
  have hagrees := hc.trans (f.agrees_draft parser budget c)
  have hstats := f.stats_draft parser budget c
  have hsame := f.outcome_draft_of_agrees parser budget hc
  unfold step
  dsimp only
  generalize f.draft parser budget c = result at hagrees hstats hsame ⊢
  obtain ⟨c', outcome⟩ := result
  dsimp only at hagrees hstats hsame
  have hoffered : f.offered parser budget c₀ =
      outcome.chunkList.map (Chunker.inBatch f.stamp.batch) := by
    rw [BatchFile.offered, hsame]
  have hturns : f.turns parser budget c₀ = outcome.turns := by
    rw [BatchFile.turns, hsame]
  cases outcome with
  | chunks drafted =>
    refine ⟨rfl, hagrees, ?_, ?_, ⟨0, rfl, .inl ⟨rfl, hstats⟩⟩, .inl ⟨rfl, rfl, hoffered.symm⟩⟩
    · simp [Sound, hoffered]
    · simp [turns, hturns, Outcome.turns]
  | failed e =>
    refine ⟨rfl, hagrees, ?_, ?_, ⟨0, ?_, .inl ⟨rfl, hstats⟩⟩, .inl ⟨rfl, rfl, hoffered.symm⟩⟩
    · simp [Sound, Outcome.chunkList]
    · simp [turns, hturns, Outcome.turns]
    · simp [dropped, hoffered, Outcome.chunkList]
  | crashed =>
    refine ⟨rfl, hagrees, ?_, ?_, ⟨0, ?_, .inl ⟨rfl, hstats⟩⟩, .inl ⟨rfl, rfl, hoffered.symm⟩⟩
    · simp [Sound, Outcome.chunkList]
    · simp [turns, hturns, Outcome.turns]
    · simp [dropped, hoffered, Outcome.chunkList]

theorem turn_step {c : Chunker} (hc : c₀.Agrees c) (seen : SeenContents) {t : Task}
    (ht : t.Sound parser budget c₀) :
    t.Turn parser budget c₀ c seen (t.step parser budget c seen).1
      (t.step parser budget c seen).2.1 (t.step parser budget c seen).2.2 := by
  obtain ⟨f, progress⟩ := t
  cases progress with
  | waiting => exact turn_waiting hc seen f
  | offering total rest kept =>
    obtain ⟨htotal, hlength⟩ := ht
    cases rest with
    | nil =>
      refine ⟨rfl, ⟨hc.config, hc.classifier, hc.counter⟩, ?_, rfl,
        ⟨total - kept.length, ?_, .inr rfl⟩, .inl ⟨rfl, rfl, rfl⟩⟩
      · exact htotal ▸ hlength
      · simp [step, dropped, ← htotal]
    | cons x rest =>
      refine ⟨rfl, hc, ⟨htotal, ?_⟩, rfl, ⟨0, rfl, .inl ⟨rfl, rfl⟩⟩,
        .inr ⟨x, f.stamp.batch, rfl, rfl, ?_⟩⟩
      · rw [List.length_cons] at hlength
        have hkept : ∀ isKept : Bool,
            (if isKept then kept ++ [x] else kept).length ≤ kept.length + 1 := by
          intro isKept
          cases isKept <;> simp
        exact Nat.le_trans (Nat.add_le_add_right (hkept _) _) (by omega)
      · rw [← Cache.snd_offer Chunker.contentKey? fun _ => f.stamp.batch]
        rfl
  | ended o =>
    exact ⟨rfl, hc, ht, rfl, ⟨0, rfl, .inl ⟨rfl, rfl⟩⟩, .inl ⟨rfl, rfl, rfl⟩⟩

end Task

/-! ## Any turns -/

variable (files : List BatchFile) (seen₀ : SeenContents)

/-- The digest by which a chunk of a batch is recognised. -/
def offerKey (x : Uuid × Chunk) : Option String := Chunker.contentKey? x.2

/-- The offers so far, whoever made them, were made in some order. -/
def Offered (seen : SeenContents) (tasks : List Task) : Prop :=
  ∃ log : List (Uuid × Chunk), seen = (Cache.offerAll offerKey Prod.fst seen₀ log).1 ∧
    (tasks.flatMap Task.kept).Perm
      ((Cache.offerAll offerKey Prod.fst seen₀ log).2.map Prod.snd) ∧
    (log.map Prod.snd ++ tasks.flatMap (Task.rest parser budget c₀)).Perm
      (drafts parser budget c₀ files)

/-- What holds on any schedule. -/
structure Invariant (s : State) : Prop where
  task_files : s.tasks.map Task.file = files
  agrees : c₀.Agrees s.chunker
  sound : ∀ t ∈ s.tasks, t.Sound parser budget c₀
  counter : c₀.stats.duplicatesDropped < 18446744073709551616 → s.chunker.stats.duplicatesDropped =
    Stats.tally c₀.stats.duplicatesDropped (s.tasks.map (Task.dropped parser budget c₀)).sum
  offered : Offered parser budget c₀ files seen₀ s.seen s.tasks

variable {parser budget c₀ files seen₀}

theorem flatMap_perm_of_more {g : Task → List Chunk} {t t' : Task} {more : List Chunk}
    (before after : List Task) (h : (g t').Perm (g t ++ more)) :
    ((before ++ t' :: after).flatMap g).Perm ((before ++ t :: after).flatMap g ++ more) := by
  simp only [List.flatMap_append, List.flatMap_cons, List.append_assoc]
  refine .append_left _ ((h.append_right _).trans ?_)
  rw [List.append_assoc]
  exact .append_left _ List.perm_append_comm

theorem flatMap_eq_of_same {g : Task → List Chunk} {t t' : Task} (before after : List Task)
    (h : g t' = g t) :
    (before ++ t' :: after).flatMap g = (before ++ t :: after).flatMap g := by
  simp [h]

theorem Offered.turn {c c' : Chunker} {seen seen' : SeenContents} {t t' : Task}
    {before after : List Task}
    (h : Offered parser budget c₀ files seen₀ seen (before ++ t :: after))
    (hturn : t.Turn parser budget c₀ c seen c' seen' t') :
    Offered parser budget c₀ files seen₀ seen' (before ++ t' :: after) := by
  obtain ⟨log, rfl, hkept, hrest⟩ := h
  rcases hturn.contents with ⟨rfl, hsame, hrestSame⟩ | ⟨x, batch, hx, rfl, hmore⟩
  · refine ⟨log, rfl, ?_, ?_⟩
    · rwa [flatMap_eq_of_same before after hsame]
    · rwa [flatMap_eq_of_same before after hrestSame]
  · -- The offer comes last in the order.
    refine ⟨log ++ [(batch, x)], ?_, ?_, ?_⟩
    · rw [Cache.offerAll_concat]
      rfl
    · rw [Cache.offerAll_concat]
      change t'.kept = if Cache.isNew offerKey _ (batch, x) then _ else _ at hmore
      split
      · next hnew =>
        rw [if_pos hnew] at hmore
        rw [List.map_append]
        exact (flatMap_perm_of_more before after (.of_eq hmore)).trans (hkept.append_right [x])
      · next hnew =>
        rw [if_neg hnew] at hmore
        rwa [flatMap_eq_of_same before after hmore]
    · have htaken : (t.rest parser budget c₀).Perm (t'.rest parser budget c₀ ++ [x]) := by
        rw [hx]
        exact (List.perm_append_singleton x _).symm
      rw [List.map_append, List.append_assoc]
      refine (List.Perm.append_left _ ?_).trans hrest
      exact List.perm_append_comm.trans (flatMap_perm_of_more before after htaken).symm

theorem invariant_start : Invariant parser budget c₀ files seen₀ (start c₀ seen₀ files) where
  task_files := by simp [start, Function.comp_def]
  agrees := .refl c₀
  sound := by
    intro t ht
    obtain ⟨f, _, rfl⟩ := List.mem_map.1 ht
    trivial
  counter := by
    intro h
    have hdropped : ((start c₀ seen₀ files).tasks.map (Task.dropped parser budget c₀)).sum = 0 := by
      simp [start, Function.comp_def, Task.dropped]
    rw [hdropped]
    exact (Nat.mod_eq_of_lt h).symm
  offered := by
    refine ⟨[], rfl, ?_, ?_⟩
    · simp [start, Cache.offerAll, List.flatMap_map, Task.kept]
    · simp [start, drafts, List.flatMap_map, Task.rest]

theorem Invariant.step {s : State} (h : Invariant parser budget c₀ files seen₀ s) (i : Nat) :
    Invariant parser budget c₀ files seen₀ (s.step parser budget i) := by
  obtain hnothing | ⟨before, t, after, htasks, _, hstep⟩ := s.step_cases parser budget i
  · rw [hnothing]
    exact h
  · have hturn := Task.turn_step h.agrees s.seen (h.sound t (by simp [htasks]))
    rw [hstep]
    generalize t.step parser budget s.chunker s.seen = result at hturn
    obtain ⟨c', seen', t'⟩ := result
    dsimp only at hturn
    refine ⟨?_, hturn.agrees, ?_, ?_, (htasks ▸ h.offered).turn hturn⟩
    · rw [← h.task_files, htasks]
      simp [hturn.file]
    · intro u hu
      have hold := h.sound u
      rw [htasks] at hold
      rcases List.mem_append.1 hu with hu | hu
      · exact hold (List.mem_append_left _ hu)
      · rcases List.mem_cons.1 hu with rfl | hu
        · exact hturn.sound
        · exact hold (List.mem_append_right _ (List.mem_cons_of_mem _ hu))
    · intro hlt
      obtain ⟨more, hmore, hcounter⟩ := hturn.counter
      have hsum : ((before ++ t' :: after).map (Task.dropped parser budget c₀)).sum =
          (s.tasks.map (Task.dropped parser budget c₀)).sum + more := by
        rw [htasks]
        simp only [List.map_append, List.map_cons, List.sum_append, List.sum_cons, hmore]
        omega
      rw [hsum]
      rcases hcounter with ⟨rfl, hsame⟩ | htally
      · exact hsame.trans (h.counter hlt)
      · rw [htally, h.counter hlt, Stats.tally_tally]

theorem Invariant.run {s : State} (h : Invariant parser budget c₀ files seen₀ s)
    (schedule : List Nat) :
    Invariant parser budget c₀ files seen₀ (s.run parser budget schedule) := by
  induction schedule generalizing s with
  | nil => exact h
  | cons i schedule ih => exact ih (h.step i)

/-! ## When all files ended -/

variable (parser budget c₀)

def State.turnsLeft (s : State) (i : Nat) : Nat :=
  (s.tasks[i]?.map (Task.turns parser budget c₀)).getD 0

variable {parser budget c₀}

theorem Invariant.turnsLeft_step {s : State} (h : Invariant parser budget c₀ files seen₀ s)
    (i j : Nat) : (s.step parser budget i).turnsLeft parser budget c₀ j =
      s.turnsLeft parser budget c₀ j - if i = j then 1 else 0 := by
  unfold State.step State.turnsLeft
  cases ht : s.tasks[i]? with
  | none =>
    by_cases hij : i = j
    · subst hij
      simp [ht]
    · simp [hij]
  | some t =>
    have hturn := Task.turn_step h.agrees s.seen (h.sound t (List.mem_of_getElem? ht))
    dsimp only
    rw [List.getElem?_set]
    by_cases hij : i = j
    · subst hij
      obtain ⟨hi, rfl⟩ := List.getElem?_eq_some_iff.1 ht
      simp [hi, hturn.turns]
    · simp [hij]

theorem Invariant.turnsLeft_run {s : State} (h : Invariant parser budget c₀ files seen₀ s)
    (schedule : List Nat) (j : Nat) :
    (s.run parser budget schedule).turnsLeft parser budget c₀ j =
      s.turnsLeft parser budget c₀ j - schedule.count j := by
  induction schedule generalizing s with
  | nil => rfl
  | cons i schedule ih =>
    rw [State.run, ih (h.step i), h.turnsLeft_step, List.count_cons]
    by_cases hij : i = j <;> simp [hij]
    omega

theorem Task.turns_eq_zero_iff {t : Task} :
    t.turns parser budget c₀ = 0 ↔ ∃ o, t.progress = .ended o := by
  obtain ⟨f, progress⟩ := t
  cases progress with
  | waiting =>
    unfold turns BatchFile.turns
    dsimp only
    cases (f.draft parser budget c₀).2 <;> simp [Outcome.turns]
  | offering total rest kept => simp [turns]
  | ended o => simp [turns]

theorem State.isComplete_iff (parser : Parser) (budget : Budget) (c₀ : Chunker) {s : State} :
    s.IsComplete ↔ ∀ i, s.turnsLeft parser budget c₀ i = 0 := by
  unfold turnsLeft
  constructor
  · intro h i
    cases ht : s.tasks[i]? with
    | none => rfl
    | some t => exact Task.turns_eq_zero_iff.2 (h t (List.mem_of_getElem? ht))
  · intro h t ht
    obtain ⟨i, hi⟩ := List.mem_iff_getElem?.1 ht
    have hzero := h i
    rw [hi] at hzero
    exact Task.turns_eq_zero_iff.1 hzero

/-- A schedule lets all files end if and only if each has its turns. -/
theorem isComplete_run_iff (schedule : List Nat) :
    ((start c₀ seen₀ files).run parser budget schedule).IsComplete ↔
      ∀ i f, files[i]? = some f → f.turns parser budget c₀ ≤ schedule.count i := by
  rw [State.isComplete_iff parser budget c₀]
  -- A turn of a file that ended changes nothing, so turns left are never below nought.
  simp only [invariant_start.turnsLeft_run schedule, Nat.sub_eq_zero_iff_le]
  refine forall_congr' fun i => ?_
  unfold State.turnsLeft start
  dsimp only
  rw [List.getElem?_map]
  cases files[i]? with
  | none => simp
  | some f => simp [Task.turns]

theorem chunksOf_outcomes {tasks : List Task} (h : ∀ t ∈ tasks, ∃ o, t.progress = .ended o) :
    chunksOf (tasks.filterMap Task.outcome?) = tasks.flatMap Task.kept := by
  unfold chunksOf
  induction tasks with
  | nil => rfl
  | cons t tasks ih =>
    obtain ⟨o, ho⟩ := h t List.mem_cons_self
    have houtcome : t.outcome? = some (t.file.path, o) := by simp [Task.outcome?, ho]
    have hkept : t.kept = o.chunkList := by simp [Task.kept, ho]
    rw [List.filterMap_cons_some houtcome, List.flatMap_cons, List.flatMap_cons, hkept,
      ih fun u hu => h u (List.mem_cons_of_mem t hu)]

theorem flatMap_rest {tasks : List Task} (h : ∀ t ∈ tasks, ∃ o, t.progress = .ended o) :
    tasks.flatMap (Task.rest parser budget c₀) = [] := by
  rw [List.flatMap_eq_nil_iff]
  intro t ht
  obtain ⟨o, ho⟩ := h t ht
  simp [Task.rest, ho]

theorem sum_dropped {tasks : List Task} (h : ∀ t ∈ tasks, ∃ o, t.progress = .ended o)
    (hsound : ∀ t ∈ tasks, t.Sound parser budget c₀) :
    (tasks.map (Task.dropped parser budget c₀)).sum + (tasks.flatMap Task.kept).length =
      (drafts parser budget c₀ (tasks.map Task.file)).length := by
  induction tasks with
  | nil => rfl
  | cons t tasks ih =>
    obtain ⟨o, ho⟩ := h t List.mem_cons_self
    have hle := hsound t List.mem_cons_self
    have hrest := ih (fun u hu => h u (List.mem_cons_of_mem t hu))
      fun u hu => hsound u (List.mem_cons_of_mem t hu)
    have hdropped : t.dropped parser budget c₀ =
        (t.file.offered parser budget c₀).length - o.chunkList.length := by
      simp [Task.dropped, ho]
    have hkept : t.kept = o.chunkList := by simp [Task.kept, ho]
    unfold Task.Sound at hle
    rw [ho] at hle
    dsimp only at hle
    unfold drafts at hrest ⊢
    rw [List.map_cons, List.map_cons, List.sum_cons, List.flatMap_cons, List.flatMap_cons,
      List.length_append, List.length_append, hdropped, hkept]
    omega

theorem filterMap_map_snd (log : List (Uuid × Chunk)) :
    (log.map Prod.snd).filterMap Chunker.contentKey? = log.filterMap offerKey := by
  rw [List.filterMap_map]
  rfl

/-- When all files ended, what they kept is what is kept of all drafts in some order. -/
theorem Invariant.exists_log {s : State} (h : Invariant parser budget c₀ files seen₀ s)
    (hs : s.IsComplete) : ∃ log : List (Uuid × Chunk),
      (log.map Prod.snd).Perm (drafts parser budget c₀ files) ∧
      (log.filterMap offerKey).Perm ((drafts parser budget c₀ files).filterMap
        Chunker.contentKey?) ∧
      (chunksOf s.outcomes).Perm
        ((Cache.offerAll offerKey Prod.fst seen₀ log).2.map Prod.snd) := by
  obtain ⟨log, _, hkept, hrest⟩ := h.offered
  rw [flatMap_rest hs, List.append_nil] at hrest
  have hkeys := hrest.filterMap Chunker.contentKey?
  rw [filterMap_map_snd] at hkeys
  refine ⟨log, hrest, hkeys, ?_⟩
  rw [State.outcomes, chunksOf_outcomes hs]
  exact hkept

theorem Invariant.keys_perm {s : State} (h : Invariant parser budget c₀ files seen₀ s)
    (hs : s.IsComplete)
    (hroom : seen₀.RoomFor ((drafts parser budget c₀ files).filterMap Chunker.contentKey?)) :
    ((chunksOf s.outcomes).filterMap Chunker.contentKey?).Perm
      (seen₀.newKeys ((drafts parser budget c₀ files).filterMap Chunker.contentKey?)) := by
  obtain ⟨log, -, hdrafts, hkept⟩ := h.exists_log hs
  have hkeys := hkept.filterMap Chunker.contentKey?
  rw [filterMap_map_snd] at hkeys
  have hlog := Cache.keys_offerAll_perm offerKey Prod.fst seen₀ (hroom.mono hdrafts.subset)
  exact (hkeys.trans hlog).trans (seen₀.newKeys_perm hdrafts)

theorem Invariant.length_eq {s : State} (h : Invariant parser budget c₀ files seen₀ s)
    (hs : s.IsComplete)
    (hroom : seen₀.RoomFor ((drafts parser budget c₀ files).filterMap Chunker.contentKey?)) :
    (chunksOf s.outcomes).length =
      (seen₀.newKeys ((drafts parser budget c₀ files).filterMap Chunker.contentKey?)).length +
        (drafts parser budget c₀ files).countP fun x => !x.isParsed := by
  obtain ⟨log, hlog, hdrafts, hkept⟩ := h.exists_log hs
  have hunparsed : (drafts parser budget c₀ files).countP (fun x => !x.isParsed) =
      log.countP fun x => (offerKey x).isNone := by
    have hkey : ∀ x ∈ drafts parser budget c₀ files,
        (!x.isParsed) = true ↔ (Chunker.contentKey? x).isNone = true := by
      intro x hx
      obtain ⟨f, _, hx⟩ := List.mem_flatMap.1 hx
      rw [Chunker.isNone_contentKey? (f.isSome_of_mem_offered parser budget c₀ hx)]
    rw [List.countP_congr hkey, ← hlog.countP_eq, List.countP_map]
    rfl
  rw [hkept.length_eq, List.length_map,
    Cache.length_offerAll offerKey Prod.fst seen₀ (hroom.mono hdrafts.subset), hunparsed,
    (seen₀.newKeys_perm hdrafts).length_eq]

theorem countP_hasDigest (cs : List Chunk) (h : String) :
    cs.countP (·.hasDigest h) = (cs.filterMap Chunker.contentKey?).count h := by
  rw [List.count, List.countP_filterMap]
  refine List.countP_congr fun x _ => ?_
  rw [← Chunker.contentKey?_eq_some_iff]
  cases Chunker.contentKey? x <;> simp

theorem decide_mem_keys (cs : List Chunk) (h : String) :
    decide (h ∈ cs.filterMap Chunker.contentKey?) = cs.any (·.hasDigest h) := by
  rw [Bool.eq_iff_iff, decide_eq_true_iff, List.mem_filterMap, List.any_eq_true]
  simp only [Chunker.contentKey?_eq_some_iff]

variable (parser budget) (c : Chunker) (seen : SeenContents) (files : List BatchFile)

/-- The files of a batch that goes on after failures may be done in order or on any other schedule
that gives each of them its turns. As long as the store has room for the digests that are drafted,
all schedules return each digest of a parsed content that is drafted and was not seen exactly once,
and all return the same number of chunks. What is not returned is counted as dropped. -/
theorem returned_on_any_schedule :
    (∃ schedule s, (start c seen files).run parser budget schedule = s ∧ s.IsComplete ∧
      drive (isLast true true) c seen (files.map fun f => (f.path, f.job parser budget)) =
        (s.chunker, s.seen, s.outcomes)) ∧
    ∀ schedule s, (start c seen files).run parser budget schedule = s →
      (s.IsComplete ↔
        ∀ i f, files[i]? = some f → f.turns parser budget c ≤ schedule.count i) ∧
      (s.IsComplete → ∃ r cs,
        collect true { totalFiles := files.length } s.outcomes = .ok (r, cs) ∧
        (seen.RoomFor ((drafts parser budget c files).filterMap Chunker.contentKey?) →
          (∀ h, cs.countP (·.hasDigest h) =
            if !seen.contains h && (drafts parser budget c files).any (·.hasDigest h)
            then 1 else 0) ∧
          cs.length =
            (seen.newKeys ((drafts parser budget c files).filterMap Chunker.contentKey?)).length +
              (drafts parser budget c files).countP (fun x => !x.isParsed)) ∧
        r.totalChunks = cs.length ∧
        (c.stats.duplicatesDropped < 18446744073709551616 →
          s.chunker.stats.duplicatesDropped = Stats.tally c.stats.duplicatesDropped
            ((drafts parser budget c files).length - cs.length))) := by
  refine ⟨?_, ?_⟩
  · obtain ⟨d, seen', ended, outcomes, hdrive, ⟨schedule, hrun⟩, hended, rfl⟩ :=
      State.reaches_drive parser budget c seen [] files
    exact ⟨schedule, _, hrun, hended, hdrive⟩
  · rintro schedule s rfl
    refine ⟨isComplete_run_iff schedule, fun hs => ?_⟩
    have hinv : Invariant parser budget c files seen _ := invariant_start.run schedule
    have htotal := BatchReport.totalChunks_addFiles { totalFiles := files.length }
      ((start c seen files).run parser budget schedule).outcomes
    refine ⟨_, _, collect_true_eq _ _, fun hroom => ⟨fun h => ?_, hinv.length_eq hs hroom⟩,
      htotal.trans (Nat.zero_add _), ?_⟩
    · rw [countP_hasDigest, (hinv.keys_perm hs hroom).count_eq, Cache.count_newKeys,
        decide_mem_keys]
    · intro hlt
      have hsum := sum_dropped hs hinv.sound
      rw [hinv.task_files] at hsum
      rw [hinv.counter hlt, State.outcomes, chunksOf_outcomes hs]
      congr 1
      omega

end Batch

namespace Sample

def copies : List BatchFile :=
  [{ path := "a.py", input := .text content, stamp := stamp },
   { path := "b.py", input := .text content, stamp := later },
   { path := "c.py", input := .bytes none, stamp := later }]

end Sample

namespace Batch

/-- Two copies that fit the budget and are chunked in turns return one chunk and drop one. -/
theorem copies_returned_once : ∃ s r cs,
    (start Sample.chunker (Sample.shelf 2) Sample.copies).run (Sample.settings 512).parser
      (Sample.settings 512).budget [0, 1, 2, 1, 0, 0, 1] = s ∧ s.IsComplete ∧
    collect true { totalFiles := 3 } s.outcomes = .ok (r, cs) ∧ cs.length = 1 ∧
      r.totalChunks = 1 ∧ s.chunker.stats.duplicatesDropped = 1 := by
  obtain ⟨_, hall⟩ := returned_on_any_schedule (Sample.settings 512).parser
    (Sample.settings 512).budget Sample.chunker (Sample.shelf 2) Sample.copies
  obtain ⟨hcomplete, hcounts⟩ := hall [0, 1, 2, 1, 0, 0, 1] _ rfl
  have hturns : ∀ i < 3, ∀ f ∈ Sample.copies[i]?, f.turns (Sample.settings 512).parser
      (Sample.settings 512).budget Sample.chunker ≤
        [0, 1, 2, 1, 0, 0, 1].count i := by decide +kernel
  have hs := hcomplete.2 fun i f hf =>
    hturns i (List.getElem?_eq_some_iff.1 hf).1 f hf
  have htwo : (drafts (Sample.settings 512).parser (Sample.settings 512).budget Sample.chunker
      Sample.copies).length = 2 := by decide +kernel
  have hroom : (Sample.shelf 2).RoomFor ((drafts (Sample.settings 512).parser
      (Sample.settings 512).budget Sample.chunker Sample.copies).filterMap
        Chunker.contentKey?) :=
    Sample.roomFor_shelf (Nat.le_trans (List.length_filterMap_le _ _) (Nat.le_of_eq htwo))
  obtain ⟨r, cs, hcollect, hkept, htotal, hdropped⟩ := hcounts hs
  have hone : cs.length = 1 := (hkept hroom).2.trans (by decide +kernel)
  refine ⟨_, r, cs, rfl, hs, hcollect, hone, htotal.trans hone, ?_⟩
  rw [hdropped (by decide), htwo, hone]
  rfl

end Batch

end CodeChunks
