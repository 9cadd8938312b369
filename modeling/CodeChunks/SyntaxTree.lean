import CodeChunks.Language.Basic
import CodeChunks.Text.Lines

/-!
# Syntax trees

A tree holds its nodes in the order in which they were added; the number of a node (`NodeId`) is its
place in that order. The first node is the root. A node may have a parent that was added before it,
and knows its children in order. Its `Span` lies in the source, and its lines are those of its first
and its last byte.
-/

namespace CodeChunks

/-- A stretch of a source, by bytes and by lines. -/
structure Span where
  start : Nat
  stop : Nat
  firstLine : Nat
  lastLine : Nat
  deriving DecidableEq, Repr, Inhabited

namespace Span

/-- The span of the bytes from `start` to `stop`. Of an empty one the first byte counts. -/
def ofBytes (s : Source) (start stop : Nat) : Span :=
  ⟨start, stop, s.lineOf start, s.lineOf (max (stop - 1) start)⟩

/-- The smallest span that holds both. -/
def merge (a b : Span) : Span :=
  ⟨min a.start b.start, max a.stop b.stop, min a.firstLine b.firstLine, max a.lastLine b.lastLine⟩

def byteLength (a : Span) : Nat := a.stop - a.start

def text (a : Span) (s : Source) : List Char := s.slice a.start a.stop

end Span

/-- The number of a node in its tree. -/
abbrev NodeId := Nat

structure Node where
  kind : String
  /-- Whether the kind is a named rule rather than a literal token. -/
  named : Bool
  span : Span
  parent : Option NodeId
  children : List NodeId := []
  deriving DecidableEq, Repr, Inhabited

namespace Node

def isLeaf (n : Node) : Bool := n.children.isEmpty

def byteLength (n : Node) : Nat := n.span.byteLength

def addChild (n : Node) (child : NodeId) : Node := { n with children := n.children ++ [child] }

end Node

structure SyntaxTree where
  source : Source
  language : Language
  nodes : Array Node := #[]
  /-- Whether the parser recovered from errors. -/
  hasErrors : Bool := false

namespace SyntaxTree

def empty (source : Source) (language : Language) : SyntaxTree :=
  { source := source, language := language }

def size (t : SyntaxTree) : Nat := t.nodes.size

/-- Adds a node. Its end is moved into the source and not before its start; a start beyond the
source is refused. The node keeps whatever parent it is given, and a parent that is there by then
gets it as a child. -/
def append? (t : SyntaxTree) (parent : Option NodeId) (kind : String) (named : Bool)
    (start stop : Nat) : Option SyntaxTree :=
  if start ≤ t.source.size then
    let span := Span.ofBytes t.source start (max start (min stop t.source.size))
    let nodes := t.nodes.push { kind, named, span, parent }
    let nodes := match parent with
      | some p => nodes.modify p (·.addChild t.size)
      | none => nodes
    some { t with nodes }
  else none

/-- Adds a node under a parent that was added before; any other counts as none. -/
def push? (t : SyntaxTree) (parent : Option NodeId) (kind : String) (named : Bool)
    (start stop : Nat) : Option SyntaxTree :=
  t.append? (parent.filter (· < t.size)) kind named start stop

/-- The root, unless the tree is empty. -/
def root? (t : SyntaxTree) : Option NodeId := if t.size = 0 then none else some 0

def node (t : SyntaxTree) (i : NodeId) : Node := t.nodes.getD i default

def kind (t : SyntaxTree) (i : NodeId) : String := (t.node i).kind

def span (t : SyntaxTree) (i : NodeId) : Span := (t.node i).span

def children (t : SyntaxTree) (i : NodeId) : List NodeId := (t.node i).children

def parent? (t : SyntaxTree) (i : NodeId) : Option NodeId := (t.node i).parent

def isLeaf (t : SyntaxTree) (i : NodeId) : Bool := (t.node i).isLeaf

/-- The text of a node, empty if its span cuts a character. -/
def text (t : SyntaxTree) (i : NodeId) : List Char := (t.span i).text t.source

/-- The number of ancestors among the first `fuel`. -/
def depthWithin (t : SyntaxTree) : Nat → NodeId → Nat
  | 0, _ => 0
  | fuel + 1, i =>
    match t.parent? i with
    | some p => t.depthWithin fuel p + 1
    | none => 0

/-- The number of ancestors of a node. Parents have smaller numbers, so there are at most as many
as the number of the node. -/
def depth (t : SyntaxTree) (i : NodeId) : Nat := t.depthWithin i i

end SyntaxTree

/-- A node with all that is below it. -/
inductive Branch where
  | mk (node : NodeId) (children : List Branch)
  deriving Inhabited

namespace Branch

def node : Branch → NodeId
  | .mk node _ => node

def children : Branch → List Branch
  | .mk _ children => children

end Branch

/-- What is below a node, to a given depth. -/
def SyntaxTree.branchWithin (t : SyntaxTree) : Nat → NodeId → Branch
  | 0, i => .mk i []
  | fuel + 1, i => .mk i ((t.children i).map (t.branchWithin fuel))

/-- A node with all that is below it. Children have larger numbers, so the size of the tree bounds
its depth. -/
def SyntaxTree.branch (t : SyntaxTree) (i : NodeId) : Branch := t.branchWithin t.size i

end CodeChunks
