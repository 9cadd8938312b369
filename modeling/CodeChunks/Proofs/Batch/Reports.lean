import CodeChunks.Batch
import CodeChunks.Proofs.Chunking.Repeat
import Mathlib.Data.List.TakeWhile

/-!
# Reports of batches

The chunks of a batch are collected (`collect`), or they are handed on file by file (`handOn`).
Either way the files are taken into a report one after another (`BatchReport.addFiles`), up to the
first one that the batch `stopsAt?`. So both ways end with the same report or at the same file, and
what is handed on are the chunks that are collected, the `chunksOf` the files `beforeStop`.
-/

namespace CodeChunks

def Outcome.failure? : Outcome → Option FileFailure
  | .chunks _ => none
  | .failed e => some (.error e)
  | .crashed => some .crashed

namespace Batch

def failed? (file : FileOutcome) : Option FailedFile :=
  file.2.failure?.map fun failure => ⟨file.1, failure⟩

/-- The file, if a batch stops at it. -/
def stopsAt? (goOn : Bool) (file : FileOutcome) : Option FailedFile :=
  if goOn then none else failed? file

/-- The chunks of some files, in the order of the files. -/
def chunksOf (files : List FileOutcome) : List Chunk := files.flatMap (·.2.chunkList)

/-- The files before the first at which a batch stops. -/
def beforeStop (goOn : Bool) (files : List FileOutcome) : List FileOutcome :=
  files.takeWhile fun file => (stopsAt? goOn file).isNone

end Batch

namespace BatchReport

open Batch

def addFile (r : BatchReport) (file : FileOutcome) : BatchReport :=
  match failed? file with
  | none => r.addChunks file.2.chunkList
  | some f => r.addFailure f

def addFiles (r : BatchReport) (files : List FileOutcome) : BatchReport := files.foldl addFile r

variable (r : BatchReport)

/-! ## One file -/

theorem settle_eq (goOn : Bool) (file : FileOutcome) : r.settle goOn file.1 file.2 =
    match stopsAt? goOn file with
    | some f => .error f
    | none => .ok (r.addFile file, file.2.chunkList) := by
  obtain ⟨path, o⟩ := file
  cases o with
  | chunks cs => cases goOn <;> rfl
  | failed e => cases goOn <;> rfl
  | crashed => cases goOn <;> rfl

theorem totalFiles_addFile (file : FileOutcome) : (r.addFile file).totalFiles = r.totalFiles := by
  unfold addFile
  split <;> rfl

theorem counted_addFile (file : FileOutcome) :
    (r.addFile file).processedFiles + (r.addFile file).failedFiles =
      r.processedFiles + r.failedFiles + 1 := by
  unfold addFile
  split
  · exact Nat.add_right_comm _ _ _
  · exact (Nat.add_assoc _ _ _).symm

theorem totalChunks_addFile (file : FileOutcome) :
    (r.addFile file).totalChunks = r.totalChunks + file.2.chunkList.length := by
  obtain ⟨path, o⟩ := file
  cases o <;> rfl

theorem errors_addFile (file : FileOutcome) :
    (r.addFile file).errors = r.errors ++ (failed? file).toList := by
  unfold addFile
  cases failed? file with
  | none => exact (List.append_nil _).symm
  | some f => rfl

theorem failedFiles_addFile (file : FileOutcome) :
    (r.addFile file).failedFiles = r.failedFiles + (failed? file).toList.length := by
  unfold addFile
  cases failed? file <;> rfl

/-! ## Files in a row -/

variable (files : List FileOutcome)

theorem totalFiles_addFiles : (r.addFiles files).totalFiles = r.totalFiles := by
  induction files generalizing r with
  | nil => rfl
  | cons file files ih => exact (ih (r.addFile file)).trans (r.totalFiles_addFile file)

/-- Every file is either processed or failed. -/
theorem counted_addFiles :
    (r.addFiles files).processedFiles + (r.addFiles files).failedFiles =
      r.processedFiles + r.failedFiles + files.length := by
  induction files generalizing r with
  | nil => rfl
  | cons file files ih =>
    have hrest := ih (r.addFile file)
    rw [counted_addFile] at hrest
    rw [List.length_cons]
    unfold addFiles at hrest ⊢
    rw [List.foldl_cons]
    omega

theorem totalChunks_addFiles :
    (r.addFiles files).totalChunks = r.totalChunks + (chunksOf files).length := by
  induction files generalizing r with
  | nil => rfl
  | cons file files ih =>
    have hrest := ih (r.addFile file)
    rw [totalChunks_addFile, Nat.add_assoc, ← List.length_append] at hrest
    exact hrest

theorem errors_addFiles : (r.addFiles files).errors = r.errors ++ files.filterMap failed? := by
  induction files generalizing r with
  | nil => exact (List.append_nil _).symm
  | cons file files ih =>
    have hrest := ih (r.addFile file)
    rw [errors_addFile, List.append_assoc] at hrest
    refine hrest.trans ?_
    cases hfile : failed? file <;> simp [hfile]

theorem failedFiles_addFiles :
    (r.addFiles files).failedFiles = r.failedFiles + (files.filterMap failed?).length := by
  induction files generalizing r with
  | nil => rfl
  | cons file files ih =>
    have hrest := ih (r.addFile file)
    rw [failedFiles_addFile] at hrest
    refine hrest.trans ?_
    cases hfile : failed? file with
    | none => simp [hfile]
    | some f =>
      rw [List.filterMap_cons_some hfile, List.length_cons]
      exact Nat.add_right_comm _ _ _

end BatchReport

namespace Batch

variable (goOn : Bool) (r : BatchReport) (files : List FileOutcome)

/-- Collecting stops at the first file at which the batch stops, or takes in all files. -/
theorem collect_eq : collect goOn r files =
    match files.findSome? (stopsAt? goOn) with
    | some f => .error f
    | none => .ok (r.addFiles files, chunksOf files) := by
  induction files generalizing r with
  | nil => rfl
  | cons file files ih =>
    rw [collect, r.settle_eq, List.findSome?_cons]
    cases stopsAt? goOn file with
    | some f => rfl
    | none =>
      dsimp only [bind, Except.bind]
      rw [ih]
      cases files.findSome? (stopsAt? goOn) <;> rfl

theorem snd_handOn : (handOn goOn true r files).2 = (collect goOn r files).map (·.1) := by
  induction files generalizing r with
  | nil => rfl
  | cons file files ih =>
    rw [collect_eq, handOn, r.settle_eq, List.findSome?_cons]
    cases stopsAt? goOn file with
    | some f => rfl
    | none =>
      have hrest := ih (r.addFile file)
      rw [collect_eq] at hrest
      -- Whether the file has chunks to hand on does not change how the rest ends.
      refine Eq.trans ?_ (hrest.trans ?_)
      · dsimp only
        split <;> rfl
      · cases files.findSome? (stopsAt? goOn) <;> rfl

theorem fst_handOn : (handOn goOn true r files).1 =
    ((beforeStop goOn files).map (·.2.chunkList)).filter fun chunks => !chunks.isEmpty := by
  induction files generalizing r with
  | nil => rfl
  | cons file files ih =>
    unfold beforeStop at ih ⊢
    rw [handOn, r.settle_eq, List.takeWhile_cons]
    cases stopsAt? goOn file with
    | some f => rfl
    | none =>
      simp only [Option.isNone_none, if_true, List.map_cons, List.filter_cons]
      cases file.2.chunkList.isEmpty with
      | true => exact ih _
      | false => exact congrArg (file.2.chunkList :: ·) (ih _)

/-- What is handed on makes up the chunks of the files before the stop. -/
theorem flatten_handOn :
    (handOn goOn true r files).1.flatten = chunksOf (beforeStop goOn files) := by
  rw [fst_handOn, List.flatten_filter_not_isEmpty, chunksOf, List.flatMap_def]

theorem ne_nil_of_mem_handOn {group : List Chunk} (h : group ∈ (handOn goOn true r files).1) :
    group ≠ [] := by
  rw [fst_handOn] at h
  have hgroup := (List.mem_filter.1 h).2
  rintro rfl
  cases hgroup

/-! ## Both ways -/

theorem stopText_of_failed? {file : FileOutcome} {f : FailedFile} (h : failed? file = some f) :
    f.stopText = "failed to chunk " ++ file.1 := by
  obtain ⟨failure, -, rfl⟩ := Option.map_eq_some_iff.1 h
  rfl

theorem collect_true_eq : collect true r files = .ok (r.addFiles files, chunksOf files) := by
  have hnone : files.findSome? (stopsAt? true) = none :=
    List.findSome?_eq_none_iff.2 fun _ _ => rfl
  rw [collect_eq, hnone]

theorem collect_eq_error_iff {f : FailedFile} :
    collect goOn r files = .error f ↔ files.findSome? (stopsAt? goOn) = some f := by
  rw [collect_eq]
  cases files.findSome? (stopsAt? goOn) <;> simp

theorem flatten_handOn_of_collect {r' : BatchReport} {cs : List Chunk}
    (h : collect goOn r files = .ok (r', cs)) : (handOn goOn true r files).1.flatten = cs := by
  rw [collect_eq] at h
  cases hstop : files.findSome? (stopsAt? goOn) with
  | some f =>
    rw [hstop] at h
    cases h
  | none =>
    rw [hstop] at h
    cases h
    have hall : beforeStop goOn files = files := by
      unfold beforeStop
      refine List.takeWhile_eq_self_iff.2 fun file hfile => ?_
      rw [List.findSome?_eq_none_iff.1 hstop file hfile]
      rfl
    rw [flatten_handOn, hall]

abbrev blank (files : List FileOutcome) : BatchReport := { totalFiles := files.length }

/-- A batch that goes on after failures collects the chunks of all files in their order, counts each
file as processed or failed, counts the chunks, and lists the files that failed in their order. A
batch that does not go on fails exactly if a file failed, and then names the first one; otherwise it
ends like one that goes on. Handing on to a receiver that stays ends in the same report or at the
same file. What it hands on is never empty and makes up the chunks that are collected, or, if it
stops, the chunks of the files before the first that failed. -/
theorem collect_agrees_handOn (files : List FileOutcome) :
    (∃ r, collect true (blank files) files = .ok (r, chunksOf files) ∧
      r.totalFiles = files.length ∧ r.processedFiles + r.failedFiles = r.totalFiles ∧
      r.totalChunks = (chunksOf files).length ∧ r.errors = files.filterMap failed? ∧
      r.errors.length = r.failedFiles) ∧
    ((∃ f, collect false (blank files) files = .error f) ↔
      ∃ file ∈ files, (failed? file).isSome = true) ∧
    (∀ f, collect false (blank files) files = .error f ↔
      ∃ before file after, files = before ++ file :: after ∧
        (∀ earlier ∈ before, failed? earlier = none) ∧ failed? file = some f ∧
        f.stopText = "failed to chunk " ++ file.1) ∧
    ((∀ file ∈ files, failed? file = none) →
      collect false (blank files) files = collect true (blank files) files) ∧
    ∀ goOn, (handOn goOn true (blank files) files).2 =
        (collect goOn (blank files) files).map (·.1) ∧
      (∀ group ∈ (handOn goOn true (blank files) files).1, group ≠ []) ∧
      (∀ r cs, collect goOn (blank files) files = .ok (r, cs) →
        (handOn goOn true (blank files) files).1.flatten = cs) ∧
      ∀ f, collect goOn (blank files) files = .error f →
        (handOn goOn true (blank files) files).1.flatten =
          chunksOf (files.takeWhile fun file => (failed? file).isNone) := by
  have hfailed := (blank files).failedFiles_addFiles files
  have herrors := (blank files).errors_addFiles files
  refine ⟨⟨_, collect_true_eq _ _, (blank files).totalFiles_addFiles files, ?_, ?_, herrors, ?_⟩,
    ?_, fun f => ?_, fun hnone => ?_, fun goOn => ⟨snd_handOn _ _ _,
      fun group hgroup => ne_nil_of_mem_handOn _ _ _ hgroup,
      fun r cs h => flatten_handOn_of_collect _ _ _ h, fun f h => ?_⟩⟩
  · rw [BatchReport.counted_addFiles, BatchReport.totalFiles_addFiles]
    exact Nat.zero_add _
  · rw [BatchReport.totalChunks_addFiles]
    exact Nat.zero_add _
  · rw [herrors, hfailed]
    exact (Nat.zero_add _).symm
  · simp only [collect_eq_error_iff]
    rw [← Option.isSome_iff_exists, List.findSome?_isSome_iff]
    rfl
  · rw [collect_eq_error_iff, List.findSome?_eq_some_iff]
    constructor
    · rintro ⟨before, file, after, hfiles, hfile, hbefore⟩
      exact ⟨before, file, after, hfiles, hbefore, hfile, stopText_of_failed? hfile⟩
    · rintro ⟨before, file, after, hfiles, hbefore, hfile, -⟩
      exact ⟨before, file, after, hfiles, hfile, hbefore⟩
  · have hstop : files.findSome? (stopsAt? false) = none := List.findSome?_eq_none_iff.2 hnone
    rw [collect_true_eq, collect_eq, hstop]
  · rw [flatten_handOn]
    cases goOn with
    | true =>
      rw [collect_true_eq] at h
      cases h
    | false => rfl

/-- A file without chunks hands nothing on, and nothing is taken back when the batch stops. -/
example (c : Chunk) :
    let files := [("a", .chunks [c]), ("b", .chunks []), ("c", .crashed), ("d", .chunks [c])]
    handOn false true (blank files) files = ([[c]], .error ⟨"c", .crashed⟩) := rfl

end Batch

end CodeChunks
