import CodeChunks.Language.Basic
import CodeChunks.Path
import CodeChunks.Taxonomy.Importance
import CodeChunks.Timestamp
import CodeChunks.Tokens
import CodeChunks.Uuid

/-!
# Chunks

A `Chunk` is a piece of a source file, with the lines it covers, how it came about, and what is
known about the code in it (`ChunkMetadata`).
-/

namespace CodeChunks

/-- The lines from `first` to `last`, counted from one. -/
structure LineRange where
  first : Nat
  last : Nat
  deriving DecidableEq, Repr

namespace LineRange

/-- A range that starts at line one at least and is not empty. -/
def of (first last : Nat) : LineRange := ⟨max first 1, max last (max first 1)⟩

def length (r : LineRange) : Nat := r.last - r.first + 1

def contains (r : LineRange) (line : Nat) : Bool := r.first ≤ line && line ≤ r.last

theorem first_le_last (first last : Nat) : (of first last).first ≤ (of first last).last := by
  simp only [of]
  omega

theorem one_le_first (first last : Nat) : 1 ≤ (of first last).first := by
  simp only [of]
  omega

end LineRange

/-- How a chunk came about. -/
inductive Origin where
  /-- From a node that was classified. -/
  | node
  /-- From text that belongs to no node of its own. -/
  | text
  /-- From a node too large for the budget that could not be taken apart. -/
  | fallback
  deriving DecidableEq, Repr

namespace Origin

def all : List Origin := [.node, .text, .fallback]

def name : Origin → String
  | .node => "ast_node"
  | .text => "text_block"
  | .fallback => "fallback"

def ofName? (n : String) : Option Origin := all.find? (·.name == n)

end Origin

/-- The verdict on the node behind a chunk, in words. -/
structure Classification where
  kind : String
  className : String
  tier : Nat
  confidence : Float
  method : String
  evidence : List String
  alternates : List String
  deriving Repr

/-- What a chunk says about itself. Everything but the name of the chunker may be unknown. -/
structure ChunkContext where
  chunker : String
  contentHash : Option String := none
  className : Option String := none
  kind : Option String := none
  /-- The rank of the class. -/
  rank : Option String := none
  importance : Option Importance := none
  /-- The importance for the task that the chunks are meant for. -/
  taskScore : Option Float := none
  isComposite : Option Bool := none
  nesting : Option Nat := none
  /-- Whether the chunk holds only a part of the node that it is attributed to. -/
  isPartial : Bool := false
  /-- Whether the chunk is larger than the budget because it could not be taken apart. -/
  isOversized : Bool := false
  edgeCase : Option String := none
  tokenCount : Option Nat := none
  tokenizer : Option String := none
  deriving Repr

structure ChunkMetadata where
  id : Uuid
  createdAt : Timestamp
  name : String
  classification : Option Classification := none
  context : ChunkContext
  /-- The batch in which the chunk was emitted. -/
  batch : Option Uuid := none
  deriving Repr

structure Chunk where
  content : String
  lines : LineRange
  path : Option String
  language : Language
  origin : Origin
  tokenEstimate : Nat
  metadata : ChunkMetadata
  deriving Repr

namespace Chunk

/-- A chunk with the token estimate that its content comes to. -/
def of (content : String) (lines : LineRange) (path : Option String) (language : Language)
    (origin : Origin) (metadata : ChunkMetadata) : Chunk :=
  { content, lines, path, language, origin
    tokenEstimate := estimateTokens content.utf8ByteSize
    metadata }

/-- A chunk of some content; without any there is no chunk. -/
def of? (content : String) (lines : LineRange) (path : Option String) (language : Language)
    (origin : Origin) (metadata : ChunkMetadata) : Option Chunk :=
  if content.isEmpty then none else some (of content lines path language origin metadata)

/-- The number of bytes of the content. -/
def byteLength (c : Chunk) : Nat := c.content.utf8ByteSize

def isEmpty (c : Chunk) : Bool := c.content == ""

def contentHash? (c : Chunk) : Option String := c.metadata.context.contentHash

def extension? (c : Chunk) : Option String := c.path.bind Path.extension?

end Chunk

end CodeChunks
