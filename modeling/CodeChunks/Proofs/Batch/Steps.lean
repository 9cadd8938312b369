import CodeChunks.Batch
import CodeChunks.Proofs.Contents.Calls

/-!
# The steps of a batch

Several files of a batch may be under way at once; a `Task` is one of them, and its `Progress` says
how far it is. A file is drafted first; then it offers its chunks to the contents seen, one after
another, and when none is left it retains those that were kept. A schedule says whose turn it is
(`Batch.State.run`). Doing the files in order, as `drive` does, is one of the schedules.
-/

namespace CodeChunks

/-! ## What a file does -/

namespace Chunker

variable (c : Chunker) (parser : Parser) (budget : Budget) (f : SourceFile) (stamp : Stamp)
  (clock : Clock)

/-- Drafts the chunks of a text in a known language. -/
def draftAs : Chunker × Outcome :=
  let (outcome, asked) := (c.settings parser budget clock).run f stamp
  let c := c.learn f.language asked
  match outcome with
  | .failed e => (c.recordFailure (extensionKey f.path) e, .failed e)
  | o => (c, o)

def retain (extension : String) (batch : Uuid) (total : Nat) (kept : List Chunk) : Chunker :=
  { c with
    batches := if kept.isEmpty then c.batches else c.batches.put batch kept
    stats := c.stats.processed extension kept.length (total - kept.length) }

theorem agrees_draftAs :
    c.Agrees (c.draftAs parser budget f stamp clock).1 := by
  unfold draftAs
  obtain ⟨outcome, asked⟩ := (c.settings parser budget clock).run f stamp
  have hlearn := c.agrees_learn f.language asked
  cases outcome with
  | chunks drafted => exact hlearn
  | failed e => exact ⟨hlearn.config, hlearn.classifier, hlearn.counter⟩
  | crashed => exact hlearn

theorem outcome_draftAs :
    (c.draftAs parser budget f stamp clock).2 =
      ((c.settings parser budget clock).run f stamp).1 := by
  unfold draftAs
  obtain ⟨outcome, asked⟩ := (c.settings parser budget clock).run f stamp
  cases outcome <;> rfl

theorem stats_draftAs :
    (c.draftAs parser budget f stamp clock).1.stats.duplicatesDropped =
      c.stats.duplicatesDropped := by
  unfold draftAs
  obtain ⟨outcome, asked⟩ := (c.settings parser budget clock).run f stamp
  cases outcome with
  | chunks drafted => rfl
  | failed e =>
    unfold recordFailure
    dsimp only
    split <;> rfl
  | crashed => rfl

end Chunker

/-- What a file of a batch is given as: its text, or its bytes if it exists. -/
inductive BatchInput where
  | text (content : String)
  | bytes (bytes : Option ByteArray)

structure BatchFile where
  path : String
  input : BatchInput
  stamp : Stamp
  clock : Clock := .still

namespace BatchFile

variable (parser : Parser) (budget : Budget)

def job (f : BatchFile) : Batch.Job := fun c seen =>
  match f.input with
  | .text content => c.chunk seen parser budget content (some f.path) f.stamp f.clock
  | .bytes bytes => c.chunkFile seen parser budget f.path bytes f.stamp f.clock

def extension (f : BatchFile) : String := Chunker.extensionKey (some f.path)

def source (f : BatchFile) (content : String) : SourceFile :=
  ⟨content, some f.path, Language.detect f.path (some content)⟩

/-- What the file does before it turns to the contents seen. -/
def draft (f : BatchFile) (c : Chunker) : Chunker × Outcome :=
  match f.input with
  | .text content => c.draftAs parser budget (f.source content) f.stamp f.clock
  | .bytes none => (c, .failed .fileNotFound)
  | .bytes (some bytes) =>
    match String.fromUTF8? bytes with
    | some content => c.draftAs parser budget (f.source content) f.stamp f.clock
    | none =>
      let e : Error := .binaryFile (some f.path)
      (c.recordFailure f.extension e, .failed e)

/-- The chunks that the file drafts, in its batch. -/
def offered (f : BatchFile) (c : Chunker) : List Chunk :=
  (f.draft parser budget c).2.chunkList.map (Chunker.inBatch f.stamp.batch)

theorem draft_cases (f : BatchFile) :
    (∃ content, f.draft parser budget =
      fun c => c.draftAs parser budget (f.source content) f.stamp f.clock) ∨
    (f.draft parser budget = fun c => (c, .failed .fileNotFound)) ∨
    f.draft parser budget = fun c =>
      (c.recordFailure f.extension (.binaryFile (some f.path)),
        .failed (.binaryFile (some f.path))) := by
  obtain ⟨path, input, stamp, clock⟩ := f
  unfold draft
  cases input with
  | text content => exact .inl ⟨content, rfl⟩
  | bytes bytes =>
    cases bytes with
    | none => exact .inr (.inl rfl)
    | some bytes =>
      dsimp only
      cases String.fromUTF8? bytes with
      | some content => exact .inl ⟨content, rfl⟩
      | none => exact .inr (.inr rfl)

theorem agrees_draft (f : BatchFile) (c : Chunker) : c.Agrees (f.draft parser budget c).1 := by
  obtain ⟨content, h⟩ | h | h := f.draft_cases parser budget
  · rw [h]
    exact c.agrees_draftAs parser budget _ _ _
  · rw [h]
    exact .refl c
  · rw [h]
    exact ⟨rfl, .refl _, rfl⟩

theorem stats_draft (f : BatchFile) (c : Chunker) :
    (f.draft parser budget c).1.stats.duplicatesDropped = c.stats.duplicatesDropped := by
  obtain ⟨content, h⟩ | h | h := f.draft_cases parser budget
  · rw [h]
    exact c.stats_draftAs parser budget _ _ _
  · rw [h]
  · rw [h]
    rfl

/-- What a file drafts does not depend on what the chunker learnt. -/
theorem outcome_draft_of_agrees (f : BatchFile) {c d : Chunker} (hcd : c.Agrees d) :
    (f.draft parser budget d).2 = (f.draft parser budget c).2 := by
  obtain ⟨content, h⟩ | h | h := f.draft_cases parser budget
  · rw [h]
    dsimp only
    rw [Chunker.outcome_draftAs, Chunker.outcome_draftAs, hcd.run]
  · rw [h]
  · rw [h]

theorem isSome_of_mem_offered (f : BatchFile) (c : Chunker) {x : Chunk}
    (hx : x ∈ f.offered parser budget c) : x.contentHash?.isSome = true := by
  obtain ⟨y, hy, rfl⟩ := List.mem_map.1 hx
  obtain ⟨content, h⟩ | h | h := f.draft_cases parser budget
  · rw [h] at hy
    dsimp only at hy
    rw [Chunker.outcome_draftAs] at hy
    have hdigest := Settings.contentHash?_of_mem_run hy
    exact Option.isSome_iff_exists.2 ⟨_, hdigest⟩
  · rw [h] at hy
    cases hy
  · rw [h] at hy
    cases hy

/-- What is left to do with what was drafted: offer it all, and retain what is kept. -/
def conclude (f : BatchFile) (seen : SeenContents) :
    Chunker × Outcome → Chunker × SeenContents × Outcome
  | (c, .chunks drafted) =>
    let (seen, kept) := Cache.offerAll Chunker.contentKey? (fun _ => f.stamp.batch) seen
      (drafted.map (Chunker.inBatch f.stamp.batch))
    (c.retain f.extension f.stamp.batch drafted.length kept, seen, .chunks kept)
  | (c, o) => (c, seen, o)

theorem chunkAs_eq_conclude (f : BatchFile) (content : String) (c : Chunker)
    (seen : SeenContents) : c.chunkAs seen parser budget (f.source content) f.stamp f.clock =
      f.conclude seen (c.draftAs parser budget (f.source content) f.stamp f.clock) := by
  rw [Chunker.chunkAs_eq]
  unfold Chunker.draftAs
  obtain ⟨outcome, asked⟩ := (c.settings parser budget f.clock).run (f.source content) f.stamp
  cases outcome with
  | chunks drafted =>
    unfold conclude
    dsimp only
    rw [Chunker.offerAll_map_inBatch]
    rfl
  | failed e => rfl
  | crashed => rfl

theorem job_eq_conclude (f : BatchFile) (c : Chunker) (seen : SeenContents) :
    f.job parser budget c seen = f.conclude seen (f.draft parser budget c) := by
  have htext := fun content => f.chunkAs_eq_conclude parser budget content c seen
  obtain ⟨path, input, stamp, clock⟩ := f
  unfold job draft
  cases input with
  | text content => exact htext content
  | bytes bytes =>
    cases bytes with
    | none => rfl
    | some bytes =>
      unfold Chunker.chunkFile
      dsimp only
      cases String.fromUTF8? bytes with
      | some content => exact htext content
      | none => rfl

end BatchFile

/-! ## Files under way -/

namespace Batch

/-- How far a file is. -/
inductive Progress where
  | waiting
  /-- So many chunks were drafted; these are still to be offered, and those were kept. -/
  | offering (total : Nat) (rest kept : List Chunk)
  | ended (o : Outcome)

structure Task where
  file : BatchFile
  progress : Progress := .waiting

/-- The files that share a chunker and the contents seen. -/
structure State where
  chunker : Chunker
  seen : SeenContents
  tasks : List Task

def start (c : Chunker) (seen : SeenContents) (files : List BatchFile) : State :=
  ⟨c, seen, files.map fun f => { file := f }⟩

variable (parser : Parser) (budget : Budget)

/-- The next step of a file. -/
def Task.step (t : Task) (c : Chunker) (seen : SeenContents) : Chunker × SeenContents × Task :=
  match t.progress with
  | .waiting =>
    match t.file.draft parser budget c with
    | (c, .chunks drafted) =>
      let rest := drafted.map (Chunker.inBatch t.file.stamp.batch)
      (c, seen, { t with progress := .offering drafted.length rest [] })
    | (c, o) => (c, seen, { t with progress := .ended o })
  | .offering total [] kept =>
    (c.retain t.file.extension t.file.stamp.batch total kept, seen,
      { t with progress := .ended (.chunks kept) })
  | .offering total (x :: rest) kept =>
    let (seen, isKept) := Cache.offer Chunker.contentKey? (fun _ => t.file.stamp.batch) seen x
    (c, seen, { t with progress := .offering total rest (if isKept then kept ++ [x] else kept) })
  | .ended _ => (c, seen, t)

def Task.outcome? (t : Task) : Option FileOutcome :=
  match t.progress with
  | .ended o => some (t.file.path, o)
  | _ => none

namespace State

def step (s : State) (i : Nat) : State :=
  match s.tasks[i]? with
  | none => s
  | some t =>
    let (c, seen, t) := t.step parser budget s.chunker s.seen
    ⟨c, seen, s.tasks.set i t⟩

def run (s : State) : List Nat → State
  | [] => s
  | i :: schedule => (s.step parser budget i).run schedule

def outcomes (s : State) : List FileOutcome := s.tasks.filterMap Task.outcome?

def IsComplete (s : State) : Prop := ∀ t ∈ s.tasks, ∃ o, t.progress = .ended o

variable {s : State}

theorem run_append (s : State) (m n : List Nat) :
    s.run parser budget (m ++ n) = (s.run parser budget m).run parser budget n := by
  induction m generalizing s with
  | nil => rfl
  | cons i m ih => exact ih _

theorem step_append (c : Chunker) (seen : SeenContents) (before after : List Task) (t : Task) :
    step parser budget ⟨c, seen, before ++ t :: after⟩ before.length =
      ⟨(t.step parser budget c seen).1, (t.step parser budget c seen).2.1,
        before ++ (t.step parser budget c seen).2.2 :: after⟩ := by
  simp [step]

/-- A turn does nothing, or it is that of a file among others. -/
theorem step_cases (s : State) (i : Nat) : s.step parser budget i = s ∨
    ∃ before t after, s.tasks = before ++ t :: after ∧ before.length = i ∧
      s.step parser budget i = ⟨(t.step parser budget s.chunker s.seen).1,
        (t.step parser budget s.chunker s.seen).2.1,
        before ++ (t.step parser budget s.chunker s.seen).2.2 :: after⟩ := by
  cases ht : s.tasks[i]? with
  | none =>
    left
    simp [step, ht]
  | some t =>
    right
    obtain ⟨hi, rfl⟩ := List.getElem?_eq_some_iff.1 ht
    have hsplit : s.tasks = s.tasks.take i ++ s.tasks[i] :: s.tasks.drop (i + 1) := by simp
    have hlength : (s.tasks.take i).length = i := by simp; omega
    refine ⟨_, _, _, hsplit, hlength, ?_⟩
    have hstep := step_append parser budget s.chunker s.seen (s.tasks.take i)
      (s.tasks.drop (i + 1)) s.tasks[i]
    rw [hlength, ← hsplit] at hstep
    exact hstep

/-! ## In order -/

/-- Some schedule leads from one state to another. -/
def Reaches (s s' : State) : Prop := ∃ schedule, s.run parser budget schedule = s'

variable {parser budget}

theorem Reaches.trans {s s' s'' : State} (h : Reaches parser budget s s')
    (k : Reaches parser budget s' s'') : Reaches parser budget s s'' := by
  obtain ⟨m, hm⟩ := h
  obtain ⟨n, hn⟩ := k
  exact ⟨m ++ n, by rw [run_append, hm, hn]⟩

variable (parser budget)

theorem reaches_step (s : State) (i : Nat) : Reaches parser budget s (s.step parser budget i) :=
  ⟨[i], rfl⟩

theorem reaches_offerAll (c : Chunker) (seen : SeenContents) (before after : List Task)
    (f : BatchFile) (total : Nat) (rest kept : List Chunk) :
    Reaches parser budget ⟨c, seen, before ++ ⟨f, .offering total rest kept⟩ :: after⟩
      ⟨c, (Cache.offerAll Chunker.contentKey? (fun _ => f.stamp.batch) seen rest).1,
        before ++ ⟨f, .offering total [] (kept ++
          (Cache.offerAll Chunker.contentKey? (fun _ => f.stamp.batch) seen rest).2)⟩ ::
            after⟩ := by
  induction rest generalizing seen kept with
  | nil => exact ⟨[], by simp [run, Cache.offerAll]⟩
  | cons x rest ih =>
    have hstep := reaches_step parser budget
      ⟨c, seen, before ++ ⟨f, .offering total (x :: rest) kept⟩ :: after⟩ before.length
    rw [step_append] at hstep
    refine hstep.trans ?_
    rw [Cache.offerAll_cons, ← Cache.snd_offer Chunker.contentKey? fun _ => f.stamp.batch]
    have hrest := ih (Cache.offer Chunker.contentKey? (fun _ => f.stamp.batch) seen x).1
      (if (Cache.offer Chunker.contentKey? (fun _ => f.stamp.batch) seen x).2
        then kept ++ [x] else kept)
    cases hkept : (Cache.offer Chunker.contentKey? (fun _ => f.stamp.batch) seen x).2 with
    | false =>
      rw [hkept] at hrest
      simpa [Task.step, hkept] using hrest
    | true =>
      rw [hkept] at hrest
      simpa [Task.step, hkept] using hrest

/-- A file that is done without a break does its job. -/
theorem reaches_job (c : Chunker) (seen : SeenContents) (before after : List Task)
    (f : BatchFile) : Reaches parser budget ⟨c, seen, before ++ ⟨f, .waiting⟩ :: after⟩
      ⟨(f.job parser budget c seen).1, (f.job parser budget c seen).2.1,
        before ++ ⟨f, .ended (f.job parser budget c seen).2.2⟩ :: after⟩ := by
  have hdraft := reaches_step parser budget
    ⟨c, seen, before ++ ⟨f, .waiting⟩ :: after⟩ before.length
  rw [step_append, Task.step] at hdraft
  rw [BatchFile.job_eq_conclude]
  dsimp only at hdraft
  generalize f.draft parser budget c = result at hdraft ⊢
  obtain ⟨d, outcome⟩ := result
  cases outcome with
  | failed e => exact hdraft
  | crashed => exact hdraft
  | chunks drafted =>
    refine hdraft.trans ((reaches_offerAll parser budget d seen before after f drafted.length
      (drafted.map (Chunker.inBatch f.stamp.batch)) []).trans ?_)
    have hretain := reaches_step parser budget ⟨d, (Cache.offerAll Chunker.contentKey?
      (fun _ => f.stamp.batch) seen (drafted.map (Chunker.inBatch f.stamp.batch))).1,
      before ++ ⟨f, .offering drafted.length [] ([] ++ (Cache.offerAll Chunker.contentKey?
        (fun _ => f.stamp.batch) seen (drafted.map (Chunker.inBatch f.stamp.batch))).2)⟩ ::
          after⟩ before.length
    rw [step_append] at hretain
    exact hretain

/-- Doing the files in order is one of the schedules. -/
theorem reaches_drive (c : Chunker) (seen : SeenContents) (before : List Task)
    (files : List BatchFile) : ∃ d seen' ended outcomes,
      drive (isLast true true) c seen (files.map fun f => (f.path, f.job parser budget)) =
        (d, seen', outcomes) ∧
      Reaches parser budget ⟨c, seen, before ++ files.map fun f => { file := f }⟩
        ⟨d, seen', before ++ ended⟩ ∧
      (∀ t ∈ ended, ∃ o, t.progress = .ended o) ∧ ended.filterMap Task.outcome? = outcomes := by
  induction files generalizing c seen before with
  | nil => exact ⟨c, seen, [], [], rfl, ⟨[], rfl⟩, by simp, rfl⟩
  | cons f files ih =>
    have hjob := reaches_job parser budget c seen before (files.map fun f => { file := f }) f
    rw [List.map_cons, List.map_cons, drive]
    generalize f.job parser budget c seen = result at hjob ⊢
    obtain ⟨c', seen', o⟩ := result
    obtain ⟨d, seen'', ended, outcomes, hdrive, hreach, hended, hmap⟩ :=
      ih c' seen' (before ++ [⟨f, .ended o⟩])
    have hgoesOn : isLast true true o = false := by cases o <;> rfl
    dsimp only
    rw [hgoesOn, hdrive]
    refine ⟨d, seen'', ⟨f, .ended o⟩ :: ended, _, rfl, hjob.trans ?_, ?_, ?_⟩
    · simpa using hreach
    · intro t ht
      rcases List.mem_cons.1 ht with rfl | ht
      · exact ⟨o, rfl⟩
      · exact hended t ht
    · rw [← hmap]
      rfl

end State

end Batch

end CodeChunks
