import CodeChunks.Regex.Basic
import CodeChunks.Text.ByteRange

/-!
# The size of an expression

An expression stands for an automaton over bytes, read forwards or backwards, and the memory that
this automaton takes is limited. Repetitions are written out, so a short text can ask for a large
automaton. Here the states are counted as they would be made, without making them.

A set of characters beyond the seven-bit ones becomes a small automaton over the bytes of their
codes. States with the same edges are made once, as far as they are remembered: the memory for
states made before has a fixed number of slots, and a state displaced by another in its slot is
made anew when it is needed again. Which slot a state has depends on the numbers of the states
that its edges lead to.
-/

namespace CodeChunks.Regex

open Text

/-- The states made so far, and the bytes that they take beyond those that every state takes. -/
structure Footprint where
  states : Nat := 0
  extra : Nat := 0
  deriving Repr

namespace Footprint

def stateBytes : Nat := 32

/-- The bytes of an edge that reads a range of bytes. -/
def edgeBytes : Nat := 8

/-- The bytes of an edge that reads nothing. -/
def forkBytes : Nat := 4

def maxBytes : Nat := 10485760

def bytes (f : Footprint) : Nat := f.states * stateBytes + f.extra

/-- More states and bytes, as long as they fit. -/
def grow? (f : Footprint) (states extra : Nat) : Option Footprint :=
  let g : Footprint := ⟨f.states + states, f.extra + extra⟩
  if g.bytes ≤ maxBytes then some g else none

end Footprint

/-- Which way the automaton reads. -/
inductive Direction where
  | forwards
  | backwards
  deriving DecidableEq, Repr

/-! ## Sets of characters -/

def mixStart : UInt64 := 14695981039346656037

def mix (h : UInt64) (n : Nat) : UInt64 := (h ^^^ n.toUInt64) * 1099511628211

/-- An edge that reads a range of bytes, and the number of the state that it leads to. -/
structure Edge where
  range : ByteRange
  next : Nat
  deriving DecidableEq

/-- The states of a set that are remembered, by slot: their edges, and their numbers. No state
without edges is remembered. -/
structure Remembered where
  footprint : Footprint
  slots : Array (List Edge × Nat)

/-- Nothing is remembered yet. -/
def Remembered.start (f : Footprint) (slots : UInt64) : Remembered :=
  { footprint := f, slots := Array.replicate slots.toNat ([], 0) }

/-- The number of the state with these edges, which is made unless the slot remembers it. -/
def Remembered.state? (m : Remembered) (slot : Nat) (edges : List Edge) (extra : Nat) :
    Option (Nat × Remembered) :=
  let (known, n) := m.slots.getD slot ([], 0)
  if known == edges then some (n, m)
  else
    let ⟨f, slots⟩ := m
    (f.grow? 1 extra).map fun g => (f.states, ⟨g, slots.setIfInBounds slot (edges, f.states)⟩)

/-- The slots for the states of a set read forwards. -/
def forwardSlots : UInt64 := 10000

def forwardSlot (edges : List Edge) : Nat :=
  let h := edges.foldl (fun h e => mix (mix (mix h e.range.first) e.range.last) e.next) mixStart
  (h % forwardSlots).toNat

/-- The slots for the states of a set read backwards. -/
def backwardSlots : UInt64 := 1000

def backwardSlot (e : Edge) : Nat :=
  (mix (mix (mix mixStart e.next) e.range.first) e.range.last % backwardSlots).toNat

/-- The sequences that start with the same range, next to each other, with their rests. -/
def byHead (seqs : List (List ByteRange)) : List (ByteRange × List (List ByteRange)) :=
  seqs.foldr (fun seq heads =>
    match seq, heads with
    | [], heads => heads
    | r :: rest, (q, rests) :: more =>
      if q == r then (q, rest :: rests) :: more else (r, [rest]) :: (q, rests) :: more
    | r :: rest, [] => [(r, [rest])]) []

/-- The state that reads one of the sequences and goes on to `target`. The states that follow it
are made before it. -/
def sequenceState? (target : Nat) : (places : Nat) → List (List ByteRange) → Remembered →
    Option (Nat × Remembered)
  | 0, _, m => some (target, m)
  | places + 1, seqs, m =>
    match byHead seqs with
    | [] => some (target, m)
    | heads =>
      match heads.foldlM (fun (edges, m) (range, rests) =>
          (sequenceState? target places rests m).map fun (n, m) => (⟨range, n⟩ :: edges, m))
          (([] : List Edge), m) with
      | some (edges, m) =>
        let edges := edges.reverse
        m.state? (forwardSlot edges) edges (Footprint.edgeBytes * edges.length)
      | none => none

/-- A code has at most four bytes. -/
def maxPlaces : Nat := 4

/-- The states that read a sequence backwards, the lead byte last. -/
def backwardState? (target : Nat) (seq : List ByteRange) (m : Remembered) :
    Option (Nat × Remembered) :=
  seq.foldlM (fun (next, m) range =>
    let e : Edge := ⟨range, next⟩
    m.state? (backwardSlot e) [e] 0) (target, m)

/-- The states of a set of characters. Seven-bit ones need no more than a single choice. -/
def setFootprint? (d : Direction) (s : CodeSet) (f : Footprint) : Option Footprint :=
  if s.isAscii then f.grow? 2 (Footprint.edgeBytes * s.ranges.length)
  else match d with
    | .forwards =>
      match f.grow? 1 0 with
      | some g =>
        (sequenceState? f.states maxPlaces s.byteRanges (.start g forwardSlots)).map
          fun (_, m) => m.footprint
      | none => none
    | .backwards =>
      let seqs := s.byteRanges
      match f.grow? 2 (Footprint.forkBytes * seqs.length) with
      | some g =>
        (seqs.foldlM (fun m seq => (backwardState? (f.states + 1) seq m).map fun (_, m) => m)
          (Remembered.start g backwardSlots)).map fun m => m.footprint
      | none => none

/-! ## Choices between literals

A choice between literals becomes a tree: literals that start with the same byte share the edge
for it. A literal that ends in the middle of the tree is preferred to those that come after it, so
it closes the edges that were made before it, and later literals share none of them. -/

/-- The edges of a node of the tree: those closed, in chunks, and those that later literals may
still share. Every edge has the rests of the literals that use it, latest first. -/
structure Branches where
  closed : List (List (UInt8 × List (List UInt8))) := []
  opened : List (UInt8 × List (List UInt8)) := []

namespace Branches

/-- Whether there are no edges at all. -/
def isBare (b : Branches) : Bool := b.opened.isEmpty && b.closed.all List.isEmpty

/-- Adds the rest of a literal to the edge for its first byte. -/
def share (byte : UInt8) (rest : List UInt8) :
    List (UInt8 × List (List UInt8)) → List (UInt8 × List (List UInt8))
  | [] => [(byte, [rest])]
  | (b, rests) :: more =>
    if b == byte then (b, rest :: rests) :: more else (b, rests) :: share byte rest more

/-- Adds a literal. Where it ends before any edge, a second one like it changes nothing. -/
def add (b : Branches) : List UInt8 → Branches
  | [] => if b.isBare && !b.closed.isEmpty then b
      else { closed := b.opened :: b.closed, opened := [] }
  | byte :: rest => { b with opened := share byte rest b.opened }

/-- The chunks that have edges. -/
def chunks (b : Branches) : List (List (UInt8 × List (List UInt8))) :=
  (b.opened :: b.closed).filter fun chunk => !chunk.isEmpty

/-- The states of the node itself: one for each chunk, and one that chooses between them and the
ends of literals. -/
def footprint? (b : Branches) (f : Footprint) : Option Footprint :=
  let edges := b.chunks.foldl (fun n chunk => if chunk.length == 1 then n else n + chunk.length) 0
  f.grow? (b.chunks.length + 1)
    (Footprint.edgeBytes * edges + Footprint.forkBytes * (b.chunks.length + b.closed.length))

end Branches

/-- The states of the tree for a list of literals. A node without edges needs none. -/
def literalsFootprint? : (fuel : Nat) → List (List UInt8) → Footprint → Option Footprint
  | 0, _, f => some f
  | fuel + 1, literals, f =>
    let node := literals.foldl Branches.add {}
    if node.isBare then some f
    else match node.footprint? f with
      | some f =>
        node.chunks.flatten.foldlM (fun f (_, rests) => literalsFootprint? fuel rests.reverse f) f
      | none => none

def literal? : Regex → Option (List Char)
  | .literal cs => some cs
  | _ => none

def literalBytes (d : Direction) (cs : List Char) : List UInt8 :=
  let bytes := cs.flatMap String.utf8EncodeChar
  match d with
  | .forwards => bytes
  | .backwards => bytes.reverse

/-- The literals of a choice between nothing else. -/
def literals? (d : Direction) (rs : List Regex) : Option (List (List UInt8)) :=
  (rs.mapM literal?).map fun literals => literals.map (literalBytes d)

/-! ## Expressions -/

/-- `n` times the same, as long as it fits. -/
def timesFootprint? (body : Footprint → Option Footprint) : Nat → Footprint → Option Footprint
  | 0, f => some f
  | n + 1, f =>
    match body f with
    | some f => timesFootprint? body n f
    | none => none

/-- A choice between two ways. -/
def Footprint.fork? (f : Footprint) : Option Footprint := f.grow? 1 (2 * Footprint.forkBytes)

mutual

/-- The states of an expression. -/
def footprint? (d : Direction) : Regex → Footprint → Option Footprint
  | .empty, f => f.grow? 1 0
  | .look _, f => f.grow? 1 0
  | .literal cs, f => f.grow? (cs.foldl (fun n c => n + c.utf8Size) 0) 0
  | .set s, f => setFootprint? d s f
  | .group _ r, f =>
    match d with
    | .forwards => do (← footprint? d r (← f.grow? 1 0)).grow? 1 0
    | .backwards => footprint? d r f
  | .repeat r least most _, f =>
    match least, most with
    | 0, some 1 => do (← footprint? d r (← f.fork?)).grow? 1 0
    | 0, none =>
      if r.takesSome then do footprint? d r (← f.fork?)
      else do (← (← (← footprint? d r f).fork?).fork?).grow? 1 0
    | least, none => do (← timesFootprint? (footprint? d r) least f).fork?
    | least, some most => do
      let f ← if least == 0 then f.grow? 1 0 else timesFootprint? (footprint? d r) least f
      if least == most then pure f
      else timesFootprint? (fun f => do footprint? d r (← f.fork?)) (most - least) (← f.grow? 1 0)
  | .cat rs, f =>
    match d with
    | .forwards => forwardFootprint? rs f
    | .backwards => backwardFootprint? rs f
  | .alt rs, f =>
    match literals? d rs with
    | some literals => do
      literalsFootprint? ((literals.foldl (fun n l => max n l.length) 0) + 1) literals
        (← f.grow? 1 0)
    | none => choiceFootprint? d 0 rs f

def forwardFootprint? : List Regex → Footprint → Option Footprint
  | [], f => some f
  | r :: rs, f => do forwardFootprint? rs (← footprint? .forwards r f)

def backwardFootprint? : List Regex → Footprint → Option Footprint
  | [], f => some f
  | r :: rs, f => do footprint? .backwards r (← backwardFootprint? rs f)

/-- The alternatives after the first `made`. The state that chooses between them, and the one where
they meet again, are made after the second. -/
def choiceFootprint? (d : Direction) (made : Nat) : List Regex → Footprint → Option Footprint
  | [], f => some f
  | r :: rs, f => do
    let f ← (← footprint? d r f).grow? 0 Footprint.forkBytes
    choiceFootprint? d (made + 1) rs (← if made == 1 then f.grow? 2 0 else pure f)

end

/-- The automaton of an expression read in one direction: a loop in front of it, unless it is bound
to the place where the reading starts; states that record where it starts and ends, if it is read
forwards; and a last state. -/
def wholeFootprint? (d : Direction) (r : Regex) : Option Footprint := do
  let bound := match d with
    | .forwards => r.bindsStart
    | .backwards => r.bindsEnd
  let f : Footprint ← if bound then Footprint.grow? {} 1 0
    else Footprint.grow? {} 3 (Footprint.edgeBytes + 2 * Footprint.forkBytes)
  let f ← footprint? d (.group 0 r) f
  f.grow? 1 0

/-- Whether the automata of the expression are small enough. -/
def fits (r : Regex) : Bool :=
  (wholeFootprint? .forwards r).isSome && (wholeFootprint? .backwards r).isSome

end CodeChunks.Regex
