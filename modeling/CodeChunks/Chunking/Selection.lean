import CodeChunks.Chunking.Draft

/-!
# Selecting nodes for chunks

A node worth a chunk that fits the budget becomes one draft. A larger node is taken apart: its
children that fit become drafts, larger children are taken apart in turn, and a node without a child
worth a chunk is kept whole as a fallback. Children that are not worth a chunk join the draft before
them, else the draft after them, as long as the result fits; those that find no neighbour become a
draft of their own unless they are blank. `Tail` is what is open between two children.

Selection is a `Plan`: the drafts, and the steps taken to find them in order. Limits are applied to
the steps afterwards, so they can cut a plan short and never change it.
-/

namespace CodeChunks

/-- A step of selection. -/
inductive Step where
  /-- The class of a node is asked for. -/
  | ask (node : NodeId)
  /-- A node at some depth is looked at. -/
  | visit (depth : Nat)
  /-- A draft is made. -/
  | emit
  deriving DecidableEq, Repr

structure Plan where
  steps : List Step := []
  drafts : List Draft := []
  deriving DecidableEq, Repr

namespace Plan

def empty : Plan := {}

def append (p q : Plan) : Plan := ⟨p.steps ++ q.steps, p.drafts ++ q.drafts⟩

instance : Append Plan := ⟨append⟩

/-- Steps that make no draft. -/
def ofSteps (steps : List Step) : Plan := ⟨steps, []⟩

/-- One draft that is made now. -/
def single (d : Draft) : Plan := ⟨[.emit], [d]⟩

/-- Draws up several plans in a row. -/
def join : List Plan → Plan
  | [] => empty
  | p :: ps => p ++ join ps

@[simp] theorem steps_append (p q : Plan) : (p ++ q).steps = p.steps ++ q.steps := rfl

@[simp] theorem drafts_append (p q : Plan) : (p ++ q).drafts = p.drafts ++ q.drafts := rfl

@[simp] theorem steps_empty : empty.steps = [] := rfl

@[simp] theorem drafts_empty : empty.drafts = [] := rfl

@[simp] theorem drafts_ofSteps (steps : List Step) : (ofSteps steps).drafts = [] := rfl

@[simp] theorem drafts_single (d : Draft) : (single d).drafts = [d] := rfl

@[simp] theorem drafts_join (ps : List Plan) : (join ps).drafts = ps.flatMap (·.drafts) := by
  induction ps with
  | nil => rfl
  | cons p ps ih => rw [join, drafts_append, ih, List.flatMap_cons]

end Plan

/-- Neighbouring children that are not worth a chunk. -/
structure Glue where
  span : Span
  first : NodeId
  bytes : Nat
  deriving DecidableEq, Repr

namespace Glue

def ofNode (t : SyntaxTree) (i : NodeId) : Glue := ⟨t.span i, i, (t.span i).byteLength⟩

def add (g : Glue) (span : Span) : Glue :=
  { g with span := g.span.merge span, bytes := g.bytes + span.byteLength }

end Glue

/-- What the children seen so far leave open. -/
inductive Tail where
  | idle
  /-- A draft that was made and may still take in what follows. -/
  | absorbing (d : Draft)
  /-- Children that wait for a neighbour. -/
  | gathering (g : Glue)
  deriving DecidableEq, Repr

/-- What selection depends on: the tree, which nodes are worth a chunk, and the tokens that a chunk
may have. -/
structure Selector where
  tree : SyntaxTree
  isWorthy : NodeId → Bool
  limit : Nat

namespace Selector

def source (s : Selector) : Source := s.tree.source

def fits (s : Selector) (a : Span) : Bool := a.tokens s.source ≤ s.limit

def nodeDraft (s : Selector) (i : NodeId) (depth : Nat) : Draft :=
  { span := s.tree.span i, node := i, depth := depth, kind := .node }

def fallbackDraft (s : Selector) (i : NodeId) (depth : Nat) : Draft :=
  { span := s.tree.span i, node := i, depth := depth, kind := .fallback }

/-- Children that found no neighbour: a draft of their own unless they are blank. -/
def leaveGlue (s : Selector) (depth : Nat) (g : Glue) : Plan :=
  if Text.isBlankText (g.span.text s.source) then .empty
  else .single { span := g.span, node := g.first, depth := depth, kind := .glue }

/-- Closes what is open. A draft that was made is only now complete. -/
def close (s : Selector) (depth : Nat) : Tail → Plan
  | .idle => .empty
  | .absorbing d => ⟨[], [d]⟩
  | .gathering g => s.leaveGlue depth g

/-- A child that is not worth a chunk. -/
def attach (s : Selector) (i : NodeId) : Tail → Plan × Tail
  | .idle => (.empty, .gathering (.ofNode s.tree i))
  | .absorbing d =>
    let joined := d.absorb (s.tree.span i)
    if s.fits joined.span then (.empty, .absorbing joined)
    else (⟨[], [d]⟩, .gathering (.ofNode s.tree i))
  | .gathering g => (.empty, .gathering (g.add (s.tree.span i)))

/-- A child that is worth a chunk and fits. -/
def place (s : Selector) (depth : Nat) (i : NodeId) (tail : Tail) : Plan × Tail :=
  let d := s.nodeDraft i depth
  let apart := (s.close depth tail ++ .ofSteps [.emit], Tail.absorbing d)
  match tail with
  | .gathering g =>
    let span := g.span.merge d.span
    if s.fits span then
      (.ofSteps [.emit], .absorbing { d with span := span, glueBytes := g.bytes })
    else apart
  | _ => apart

mutual

/-- The plan for a node that is worth a chunk. -/
def emit (s : Selector) (depth : Nat) : Branch → Plan
  | .mk i children =>
    if s.fits (s.tree.span i) then .single (s.nodeDraft i depth)
    else
      let asks := Plan.ofSteps (children.map fun b => .ask b.node)
      if children.any fun b => s.isWorthy b.node then
        let inner := s.siblings (depth + 1) .idle children
        asks ++ ⟨inner.steps, Draft.closeGaps s.source (s.tree.span i) inner.drafts⟩
      else asks ++ .single (s.fallbackDraft i depth)

/-- The plan for the children of a node that is taken apart, given what is open before them. -/
def siblings (s : Selector) (depth : Nat) (tail : Tail) : List Branch → Plan
  | [] => s.close depth tail
  | b :: rest =>
    .ofSteps [.visit depth] ++
    (if s.isWorthy b.node then
      if s.fits (s.tree.span b.node) then
        let (p, tail) := s.place depth b.node tail
        p ++ s.siblings depth tail rest
      else s.close depth tail ++ s.emit depth b ++ s.siblings depth .idle rest
    else
      let (p, tail) := s.attach b.node tail
      p ++ s.siblings depth tail rest)

end

/-- The nodes that selection starts from: the children of the root, or the root if it has none. -/
def topNodes (s : Selector) : List NodeId :=
  match s.tree.root? with
  | none => []
  | some root =>
    match s.tree.children root with
    | [] => [root]
    | children => children

/-- The plan for one of the nodes that selection starts from. -/
def selectTop (s : Selector) (i : NodeId) : Plan :=
  let depth := s.tree.depth i
  .ofSteps [.visit depth, .ask i] ++
    if s.isWorthy i then s.emit depth (s.tree.branch i) else .empty

/-- The plan for the whole tree. -/
def plan (s : Selector) : Plan := .join (s.topNodes.map s.selectTop)

end Selector

end CodeChunks
