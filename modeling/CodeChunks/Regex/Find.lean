import CodeChunks.Regex.Footprint
import CodeChunks.Regex.Parse
import CodeChunks.Regex.Program

/-!
# Finding a match

All ways through a program are followed at once, one character at a time (`step`). The threads are
kept in the order in which they are preferred, and of several threads at one instruction only the
first is kept, so the work for a character is bounded by the length of the program. The match found
is the leftmost, and of those that start there the preferred.
-/

namespace CodeChunks.Regex

/-- A way through the program: the instruction where it stands, and where in the text it
started. -/
structure Thread where
  instr : Nat
  start : Nat
  deriving Repr

/-- The threads of a place, latest first, and the last place at which each instruction was seen.
Places are counted from one here. -/
structure Front where
  seen : Array Nat
  threads : List Thread := []

/-- A search under way: the number of characters passed, the last of them, the threads that reached
this place, the best match so far, and the places at which instructions were seen. -/
structure Search where
  place : Nat := 0
  before : Option Char := none
  reached : List Thread := []
  found : Option (Nat × Nat) := none
  seen : Array Nat

/-- Whether nothing better can be found. -/
def Search.isOver (s : Search) : Bool := s.reached.isEmpty && s.found.isSome

namespace Program

/-- Follows the instructions that take no character, preferred ways first, from a list of
instructions that are still to be followed. -/
def follow (p : Program) (place start : Nat) (holds : Look → Bool) :
    (fuel : Nat) → List Nat → Front → Front
  | 0, _, f => f
  | _ + 1, [], f => f
  | fuel + 1, i :: rest, f =>
    if f.seen.getD i place == place then p.follow place start holds fuel rest f
    else
      let f := { f with seen := f.seen.setIfInBounds i place }
      match p.code.getD i .done with
      | .fork next other => p.follow place start holds fuel (next :: other :: rest) f
      | .look l next =>
        p.follow place start holds fuel (if holds l then next :: rest else rest) f
      | _ => p.follow place start holds fuel rest { f with threads := ⟨i, start⟩ :: f.threads }

/-- Every instruction is followed once and leads to two others at most. -/
def followFuel (p : Program) : Nat := 2 * p.code.size + 2

/-- The threads of a place from those that reached it. -/
def spread (p : Program) (place : Nat) (before after : Option Char) (reached : List Thread)
    (seen : Array Nat) : Front :=
  reached.foldl (fun f t =>
    p.follow place t.start (fun l => l.holds before after) p.followFuel [t.instr] f)
    { seen := seen }

/-- The threads after the next character, latest first, and where the preferred match that ends
here started. A match ends the threads that are less preferred. -/
def advance (p : Program) (next : Option Char) :
    List Thread → List Thread → List Thread × Option Nat
  | [], out => (out, none)
  | t :: rest, out =>
    match p.code.getD t.instr .done, next with
    | .done, _ => (out, some t.start)
    | .char c n, some d => p.advance next rest (if c == d then ⟨n, t.start⟩ :: out else out)
    | .set s n, some d => p.advance next rest (if s.mem d then ⟨n, t.start⟩ :: out else out)
    | _, _ => p.advance next rest out

/-- Takes the next character, or learns that there is none. While no match is found, a thread
starts at every place. -/
def step (p : Program) (next : Option Char) (s : Search) : Search :=
  let ⟨place, before, reached, found, seen⟩ := s
  let reached := if found.isSome then reached else reached ++ [⟨p.start, place⟩]
  let ⟨seen, threads⟩ := p.spread (place + 1) before next reached seen
  let (out, ended) := p.advance next threads.reverse []
  { place := place + 1, before := next, reached := out.reverse, seen := seen,
    found := match ended with
      | some start => some (start, place)
      | none => found }

/-- Goes on through the text. -/
def findFrom (p : Program) (s : Search) : List Char → Search
  | [] => p.step none s
  | c :: cs => if s.isOver then s else p.findFrom (p.step (some c) s) cs

/-- The first match in a text, as the numbers of characters before its ends. -/
def find? (p : Program) (text : String) : Option (Nat × Nat) :=
  (p.findFrom { seen := Array.replicate p.code.size 0 } text.toList).found

def isMatch (p : Program) (text : String) : Bool := (p.find? text).isSome

end Program

/-- The program that a text stands for, unless the text is no expression or one that is too
large. -/
def compile? (source : String) (ignoreCase : Bool) : Option Program :=
  match parse? source ignoreCase with
  | some r => if r.fits then some r.toProgram else none
  | none => none

end CodeChunks.Regex
