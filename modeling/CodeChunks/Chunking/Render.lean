import CodeChunks.Chunking.View
import CodeChunks.Digest.Content

/-!
# From drafts to chunks

A chunk is attributed to the node of its draft, unless most of it is glue: a token with glue around
it, or a child outweighed by its glue, is a fragment of the parent (`Draft.isFragment`) and is named
and classified as such. Drafts without text make no chunk.
-/

namespace CodeChunks

/-- The name of the chunker in the chunks it makes. -/
def chunkerName : String := "semantic"

def chunkName (language : Language) (what : String) (line : Nat) : String :=
  language.title ++ " - " ++ what ++ " - Line " ++ line.repr

/-- What every chunk says about itself. -/
def ChunkContext.ofContent (counter : TokenCounter) (content : List Char) : ChunkContext :=
  { chunker := chunkerName
    contentHash := some (Digest.ofText content)
    tokenCount := some (counter.count content)
    tokenizer := some counter.name }

/-- A verdict on a kind in words; alternates are in the order of their names. -/
def Classification.ofVerdict (t : Taxonomy) (kind : String) (v : Verdict) : Classification :=
  { kind := kind
    className := t.name v.cls
    tier := (t.rank v.cls).tier
    confidence := Float.ofInt v.percent / 100.0
    method := v.method.name
    evidence := v.evidence.toList.map (·.name)
    alternates := (v.alternates.map fun a => t.name a.1).mergeSort fun a b => !(b < a) }

/-- What a verdict adds to the context of a chunk. -/
def ChunkContext.withVerdict (c : ChunkContext) (t : Taxonomy) (task : Task) (v : Verdict) :
    ChunkContext :=
  { c with
    className := some (t.name v.cls)
    rank := some (t.rank v.cls).name
    importance := some (t.importance v.cls)
    taskScore := some ((t.importance v.cls).weighted task) }

/-- Whether a draft is a fragment of the parent of its node. -/
def Draft.isFragment (d : Draft) (t : SyntaxTree) : Bool :=
  d.kind == .node && 0 < d.glueBytes &&
    (t.isLeaf d.node || (t.node d.node).byteLength ≤ d.glueBytes)

/-- The node that a chunk is attributed to, and whether the chunk is a fragment of it. -/
def Draft.attribution (d : Draft) (t : SyntaxTree) : NodeId × Bool :=
  match t.parent? d.node with
  | some p => if d.isFragment t then (p, true) else (d.node, false)
  | none => (d.node, false)

def DraftKind.origin : DraftKind → Origin
  | .node => .node
  | .fallback => .fallback
  | .glue => .text

namespace View

/-- The chunk of a draft whose text is `content`. -/
def render (v : View) (task : Task) (id : Uuid) (now : Timestamp) (d : Draft)
    (content : List Char) : Chunk :=
  let (anchor, isFragment) := d.attribution v.tree
  let kind := v.tree.kind anchor
  let lines := LineRange.of d.span.firstLine d.span.lastLine
  let taxonomy := v.classifier.taxonomy
  let verdict := if d.kind == .glue then none else v.verdict? anchor
  let context : ChunkContext :=
    { ChunkContext.ofContent v.counter content with
      kind := some kind
      nesting := some (if isFragment then d.depth - 1 else d.depth)
      isComposite := some (!v.tree.isLeaf anchor)
      isPartial := isFragment || d.kind == .fallback
      isOversized := d.kind == .fallback }
  Chunk.of (String.ofList content) lines v.path v.language d.kind.origin
    { id := id
      createdAt := now
      name := chunkName v.language kind lines.first
      classification := verdict.map (Classification.ofVerdict taxonomy kind)
      context := match verdict with
        | some w => context.withVerdict taxonomy task w
        | none => context }

/-- The drafts that have a text, with it. -/
def texts (v : View) (drafts : List Draft) : List (Draft × List Char) :=
  (drafts.map fun d => (d, d.span.text v.tree.source)).filter fun p => !Text.isBlankText p.2

/-- The chunks of a list of drafts. -/
def renderAll (v : View) (task : Task) (ids : Nat → Uuid) (now : Timestamp) (drafts : List Draft) :
    List Chunk :=
  (v.texts drafts).mapIdx fun n (d, content) => v.render task (ids n) now d content

end View

end CodeChunks
