import CodeChunks.Regex.Basic

/-!
# Programs

An expression as a list of instructions, each `Instr` with the numbers of those that may follow it.
Where there are two, the first is preferred. The instructions are written from the end of the
expression to its start, so that what follows is known; only a loop goes back to a place that is
filled later.
-/

namespace CodeChunks.Regex

open Text

inductive Instr where
  /-- Takes this character. -/
  | char (c : Char) (next : Nat)
  /-- Takes a character of the set. -/
  | set (s : CodeSet) (next : Nat)
  /-- Goes on if the condition holds. -/
  | look (l : Look) (next : Nat)
  /-- Goes on in two ways, the preferred first. -/
  | fork (next other : Nat)
  /-- A match ends. -/
  | done
  deriving Repr

/-- The instructions, and where to start. -/
structure Program where
  code : Array Instr
  start : Nat
  deriving Repr

namespace Program

/-- Adds an instruction and starts there. -/
def push (p : Program) (i : Instr) : Program :=
  let n := p.code.size
  ⟨p.code.push i, n⟩

/-- A choice between going on at `more` and at `stop`, in the order that greed prefers. -/
def choose (greedy : Bool) (more stop : Nat) : Instr :=
  if greedy then .fork more stop else .fork stop more

/-- The program with `body` in front of it, `n` times. -/
def times (body : Program → Program) : Nat → Program → Program
  | 0, p => p
  | n + 1, p => times body n (body p)

/-- The program with `body` in front of it, at most `n` times. -/
def upTo (body : Program → Program) (greedy : Bool) (n : Nat) (p : Program) : Program :=
  let stop := p.start
  times (fun p => let q := body p; q.push (choose greedy q.start stop)) n p

/-- The program with `body` in front of it, once or more. -/
def loop (body : Program → Program) (greedy : Bool) (p : Program) : Program :=
  let stop := p.start
  let again := p.code.size
  let ⟨code, start⟩ := body (p.push .done)
  ⟨code.setIfInBounds again (choose greedy start stop), start⟩

/-- The program with `body` in front of it, any number of times. If `body` can be empty, a first
round is tried before the choice to stop is met. -/
def anyNumber (body : Program → Program) (takesSome greedy : Bool) (p : Program) : Program :=
  let stop := p.start
  let again := p.code.size
  let q := loop body greedy p
  if takesSome then { q with start := again } else q.push (choose greedy q.start stop)

end Program

open Program in
mutual

/-- The program that goes through the expression and then on. -/
def before : Regex → Program → Program
  | .empty, p => p
  | .literal cs, p => cs.reverse.foldl (fun p c => p.push (.char c p.start)) p
  | .set s, p => p.push (.set s p.start)
  | .look l, p => p.push (.look l p.start)
  | .group _ r, p => before r p
  | .repeat r 0 none greedy, p => anyNumber (before r) r.takesSome greedy p
  | .repeat r (least + 1) none greedy, p => times (before r) least (loop (before r) greedy p)
  | .repeat r least (some most) greedy, p =>
    times (before r) least (upTo (before r) greedy (most - least) p)
  | .cat rs, p => beforeAll rs p
  | .alt rs, p => beforeEach rs p.start p

def beforeAll : List Regex → Program → Program
  | [], p => p
  | r :: rs, p => before r (beforeAll rs p)

/-- The alternatives, each of which goes on at `next`. -/
def beforeEach : List Regex → Nat → Program → Program
  | [], _, p => p
  | [r], next, p => before r { p with start := next }
  | r :: rs, next, p =>
    let ⟨code, other⟩ := beforeEach rs next p
    let q := before r ⟨code, next⟩
    q.push (.fork q.start other)

end

/-- The program of an expression. -/
def toProgram (r : Regex) : Program := before r ⟨#[.done], 0⟩

end CodeChunks.Regex
