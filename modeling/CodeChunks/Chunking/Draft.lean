import CodeChunks.Chunk.Basic
import CodeChunks.SyntaxTree
import CodeChunks.Text.Blank

/-!
# Drafts of chunks

A `Draft` says which stretch of the source a chunk will hold, and on account of which node. The
drafts that replace one node are stretched so that their lines tile the lines of the node
(`closeGaps`): between the children of a node there is only blank text.
-/

namespace CodeChunks

/-- An estimate of the tokens of the text in a span. -/
def Span.tokens (a : Span) (s : Source) : Nat := estimateTokens (Text.byteLength (a.text s))

inductive DraftKind where
  /-- A node that fits the budget. -/
  | node
  /-- A node too large that could not be taken apart. -/
  | fallback
  /-- Nodes not worth a chunk of their own that found no neighbour to join. -/
  | glue
  deriving DecidableEq, Repr

structure Draft where
  span : Span
  node : NodeId
  depth : Nat
  kind : DraftKind
  /-- How many bytes of nodes not worth a chunk were taken in. -/
  glueBytes : Nat := 0
  deriving DecidableEq, Repr

namespace Draft

/-- Takes in a neighbour that is not worth a chunk. -/
def absorb (d : Draft) (span : Span) : Draft :=
  { d with span := d.span.merge span, glueBytes := d.glueBytes + span.byteLength }

/-- Starts at the first line of the node that the drafts replace. -/
def stretchStart (whole : Span) (d : Draft) : Draft :=
  if whole.firstLine < d.span.firstLine then
    { d with span.firstLine := whole.firstLine, span.start := min d.span.start whole.start }
  else d

/-- Ends on the line before the next draft. -/
def stretchTo (s : Source) (nextLine : Nat) (d : Draft) : Draft :=
  if d.span.lastLine + 1 < nextLine then
    { d with
      span.lastLine := nextLine - 1
      span.stop := match s.lineStart? nextLine with
        | some byte => max d.span.stop byte
        | none => d.span.stop }
  else d

/-- Ends at the last line of the node that the drafts replace. -/
def stretchEnd (whole : Span) (d : Draft) : Draft :=
  if d.span.lastLine < whole.lastLine then
    { d with span.lastLine := whole.lastLine, span.stop := max d.span.stop whole.stop }
  else d

/-- Stretches the ends of drafts up to the end of the node that they replace. -/
def stretchEnds (s : Source) (whole : Span) : List Draft → List Draft
  | [] => []
  | [d] => [d.stretchEnd whole]
  | d :: e :: rest => d.stretchTo s e.span.firstLine :: stretchEnds s whole (e :: rest)

/-- Stretches drafts so that their lines tile the lines of the node that they replace. -/
def closeGaps (s : Source) (whole : Span) : List Draft → List Draft
  | [] => []
  | d :: rest => stretchEnds s whole (d.stretchStart whole :: rest)

end Draft

end CodeChunks
