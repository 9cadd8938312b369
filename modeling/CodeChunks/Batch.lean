import CodeChunks.Chunker

/-!
# Chunking many files

The files of a batch go through one chunker in order (`drive`). A file that fails is reported, and
either the batch goes on or it stops there. Chunks are collected (`collect`), or handed on file by
file to a receiver that may have gone away (`handOn`).
-/

namespace CodeChunks

/-- Why a file of a batch failed. -/
inductive FileFailure where
  | error (e : Error)
  | crashed

structure FailedFile where
  path : String
  failure : FileFailure

/-- What is said of the file at which a batch stops. -/
def FailedFile.stopText (f : FailedFile) : String := "failed to chunk " ++ f.path

/-- What became of the files of a batch so far. -/
structure BatchReport where
  totalFiles : Nat
  processedFiles : Nat := 0
  failedFiles : Nat := 0
  totalChunks : Nat := 0
  errors : List FailedFile := []

namespace BatchReport

def addChunks (r : BatchReport) (chunks : List Chunk) : BatchReport :=
  { r with
    processedFiles := r.processedFiles + 1
    totalChunks := r.totalChunks + chunks.length }

def addFailure (r : BatchReport) (f : FailedFile) : BatchReport :=
  { r with failedFiles := r.failedFiles + 1, errors := r.errors ++ [f] }

/-- Takes one file into the report; also its chunks. Stops at a failure unless told to go on. -/
def settle (goOn : Bool) (r : BatchReport) (path : String) (o : Outcome) :
    Except FailedFile (BatchReport × List Chunk) :=
  let fail (failure : FileFailure) : Except FailedFile (BatchReport × List Chunk) :=
    if goOn then .ok (r.addFailure ⟨path, failure⟩, []) else .error ⟨path, failure⟩
  match o with
  | .chunks cs => .ok (r.addChunks cs, cs)
  | .failed e => fail (.error e)
  | .crashed => fail .crashed

end BatchReport

/-- A file of a batch, with what became of it. -/
abbrev FileOutcome := String × Outcome

namespace Batch

/-- Collects the chunks of all files. -/
def collect (goOn : Bool) (r : BatchReport) :
    List FileOutcome → Except FailedFile (BatchReport × List Chunk)
  | [] => .ok (r, [])
  | (path, o) :: rest => do
    let (r, chunks) ← r.settle goOn path o
    let (r, more) ← collect goOn r rest
    pure (r, chunks ++ more)

/-- Hands on the chunks of each file that has some; also how the batch ended. What was handed on
before a failure stays so. A receiver that has gone away ends the batch at the first chunks. -/
def handOn (goOn received : Bool) (r : BatchReport) :
    List FileOutcome → List (List Chunk) × Except FailedFile BatchReport
  | [] => ([], .ok r)
  | (path, o) :: rest =>
    match r.settle goOn path o with
    | .error f => ([], .error f)
    | .ok (r, chunks) =>
      if chunks.isEmpty then handOn goOn received r rest
      else if received then
        let (sent, ending) := handOn goOn received r rest
        (chunks :: sent, ending)
      else ([], .ok r)

/-- The report of a batch whose chunks are handed on, and what was handed on. -/
def stream (goOn received : Bool) (r : BatchReport) (outcomes : List FileOutcome) :
    Except FailedFile (BatchReport × List (List Chunk)) :=
  let (sent, ending) := handOn goOn received r outcomes
  ending.map fun r => (r, sent)

/-- Whether nothing is done after a file. -/
def isLast (goOn received : Bool) : Outcome → Bool
  | .chunks cs => !received && !cs.isEmpty
  | _ => !goOn

/-- A file to be chunked, at a given state of the chunker and of the contents seen. -/
abbrev Job := Chunker → SeenContents → Chunker × SeenContents × Outcome

/-- Does the jobs in order up to the last one that is needed. -/
def drive (isLast : Outcome → Bool) (c : Chunker) (seen : SeenContents) :
    List (String × Job) → Chunker × SeenContents × List FileOutcome
  | [] => (c, seen, [])
  | (path, job) :: rest =>
    let (c, seen, o) := job c seen
    if isLast o then (c, seen, [(path, o)])
    else
      let (c, seen, more) := drive isLast c seen rest
      (c, seen, (path, o) :: more)

end Batch

end CodeChunks
