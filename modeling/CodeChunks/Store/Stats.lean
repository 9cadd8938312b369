import CodeChunks.Table

/-!
# Counts of files and chunks

Files are counted by extension and by how they ended (`FileCounts`). The totals of chunks are 64-bit
counters, which start again from nought when they run over (`tally`).
-/

namespace CodeChunks

/-- How the files of one extension ended. -/
structure FileCounts where
  processed : Nat := 0
  skipped : Nat := 0
  errored : Nat := 0
  deriving DecidableEq, Repr

namespace FileCounts

def add (a b : FileCounts) : FileCounts :=
  ⟨a.processed + b.processed, a.skipped + b.skipped, a.errored + b.errored⟩

def total (a : FileCounts) : Nat := a.processed + a.skipped + a.errored

end FileCounts

structure Stats where
  byExtension : Table String FileCounts := []
  chunksEmitted : Nat := 0
  duplicatesDropped : Nat := 0
  deriving DecidableEq, Repr

namespace Stats

def countsOf (s : Stats) (extension : String) : FileCounts :=
  (s.byExtension.get? extension).getD {}

def count (s : Stats) (extension : String) (more : FileCounts) : Stats :=
  { s with byExtension := s.byExtension.insert extension ((s.countsOf extension).add more) }

/-- A 64-bit counter after so many more. -/
def tally (counter more : Nat) : Nat := (counter + more) % 18446744073709551616

/-- A file was chunked. -/
def processed (s : Stats) (extension : String) (chunks duplicates : Nat) : Stats :=
  { s.count extension { processed := 1 } with
    chunksEmitted := tally s.chunksEmitted chunks
    duplicatesDropped := tally s.duplicatesDropped duplicates }

/-- A file could not be chunked at all. -/
def skipped (s : Stats) (extension : String) : Stats := s.count extension { skipped := 1 }

/-- A file broke a limit. -/
def errored (s : Stats) (extension : String) : Stats := s.count extension { errored := 1 }

/-- The counts of all extensions together. -/
def files (s : Stats) : FileCounts := s.byExtension.values.foldl FileCounts.add {}

end Stats

end CodeChunks
