import CodeChunks.Chunking.Draft
import CodeChunks.Classifier

/-!
# The nodes of a file as a classifier sees them
-/

namespace CodeChunks

/-- A tree of a file, seen with a classifier. -/
structure View where
  classifier : Classifier
  tree : SyntaxTree
  language : Language
  path : Option String
  /-- Counts the tokens that chunks report. -/
  counter : TokenCounter := .estimating

namespace View

/-- The surroundings of a node: its parent, its other named siblings, and the file. -/
def context (v : View) (i : NodeId) : Context :=
  let siblings := match v.tree.parent? i with
    | some p => (v.tree.children p).filter fun j => j != i && (v.tree.node j).named
    | none => []
  { parent := (v.tree.parent? i).map v.tree.kind
    siblings := siblings.map v.tree.kind
    path := v.path }

/-- The verdict on a node in its surroundings. -/
def verdict? (v : View) (i : NodeId) : Option Verdict :=
  (v.classifier.answer? (v.tree.kind i) v.language).map fun w =>
    w.inContext v.classifier.taxonomy (v.context i)

/-- Whether a node is worth a chunk: its class is important enough, or it has no class but
children. The surroundings of a node change the confidence in its class, not the class. -/
def isWorthy (v : View) (threshold : Float) (i : NodeId) : Bool :=
  match v.classifier.answer? (v.tree.kind i) v.language with
  | some w => (v.classifier.taxonomy.importance w.cls).reaches threshold
  | none => !v.tree.isLeaf i

end View

end CodeChunks
