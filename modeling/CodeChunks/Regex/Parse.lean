import CodeChunks.Regex.Read.Bracket
import CodeChunks.Regex.Read.Group

/-!
# Reading expressions

The text of an expression is read from left to right. The groups that are open around the place
where the reader stands are kept from the innermost outwards, so no nesting of the text nests the
reader. How deep an expression nests is counted as it is written, before it is brought to its
normal form, and is limited.
-/

namespace CodeChunks.Regex

/-- Expressions nest at most this deep. -/
def maxDepth : Nat := 250

/-- An expression read from the text, how deep it nests as it is written, and whether it can be
repeated: flags leave a part that cannot. -/
structure Part where
  expr : Regex
  depth : Nat := 0
  repeatable : Bool := true

def deepest (ps : List Part) : Nat := ps.foldl (fun n p => max n p.depth) 0

/-- A group that is being read: its number if it has one, the flags in force, the parts of the
current alternative and the alternatives before it, both latest first. -/
structure Level where
  index : Option Nat := none
  flags : Flags
  parts : List Part := []
  done : List Part := []

namespace Level

def push (l : Level) (p : Part) : Level := { l with parts := p :: l.parts }

/-- The current alternative. -/
def current (l : Level) : Part :=
  match l.parts with
  | [] => { expr := .empty }
  | [p] => p
  | ps => { expr := ofParts (ps.reverse.map (·.expr)), depth := deepest ps + 1 }

/-- All alternatives. -/
def whole (l : Level) : Part :=
  match l.done with
  | [] => l.current
  | done =>
    let ps := l.current :: done
    { expr := ofChoices (ps.reverse.map (·.expr)), depth := deepest ps + 1 }

/-- What the group is when it is closed. -/
def close (l : Level) : Part :=
  let inside := l.whole
  { expr := match l.index with
      | some i => .group i inside.expr
      | none => inside.expr,
    depth := inside.depth + 1 }

def nextChoice (l : Level) : Level := { l with parts := [], done := l.current :: l.done }

/-- The last part repeated. -/
def repeatLast? (l : Level) (t : Times) : Option Level :=
  match l.parts with
  | [] => none
  | p :: rest =>
    if p.repeatable && p.depth < maxDepth then
      some { l with parts :=
        { expr := ofRepeat p.expr t.least t.most (t.lazy == l.flags.swapGreed),
          depth := p.depth + 1 } :: rest }
    else none

end Level

/-- Where the reader of an expression stands: in which group, in which groups around it, and with
which names and how many numbers of groups used. -/
structure Reader where
  level : Level
  outer : List Level := []
  names : List String := []
  groups : Nat := 0

namespace Reader

def push (s : Reader) (expr : Regex) : Reader := { s with level := s.level.push { expr := expr } }

def pushSet (s : Reader) (p : SetPart) : Reader :=
  { s with level := s.level.push { expr := ofSet p.set, depth := p.depth } }

def repeatLast? (s : Reader) (t : Times) : Option Reader :=
  (s.level.repeatLast? t).map fun l => { s with level := l }

/-- A group opens. -/
def enter (s : Reader) (l : Level) : Reader :=
  { s with level := l, outer := s.level :: s.outer }

/-- The group closes; the flags around it are in force again. -/
def leave? (s : Reader) : Option Reader :=
  match s.outer with
  | [] => none
  | o :: outer =>
    let p := s.level.close
    if p.depth ≤ maxDepth then some { s with level := o.push p, outer := outer } else none

def openParenthesis? (s : Reader) (head : GroupHead) : Option Reader :=
  let f := s.level.flags
  match head with
  | .plain g => some (s.enter { flags := g })
  | .flags g =>
    let mark : Part := { expr := .empty, repeatable := false }
    some { s with level := { s.level.push mark with flags := g } }
  | .numbered none =>
    some { s.enter { index := some s.groups, flags := f } with groups := s.groups + 1 }
  | .numbered (some name) =>
    if s.names.contains name then none
    else some { s.enter { index := some s.groups, flags := f } with
      groups := s.groups + 1, names := name :: s.names }

def escape (s : Reader) (e : Escape) : Reader :=
  match e with
  | .char c => s.push (s.level.flags.literal c)
  | .set m => s.push (ofSet m)
  | .look l => s.push (.look l)

/-- Reads what a character starts; the rest of the text is given. -/
def step? (s : Reader) (c : Char) (rest : List Char) : Option (Reader × List Char) :=
  let f := s.level.flags
  let repeated (least : Nat) (most : Option Nat) : Option (Reader × List Char) :=
    let (isLazy, after) := readLazy rest
    (s.repeatLast? ⟨least, most, isLazy⟩).map fun s => (s, after)
  match c with
  | '(' => do
    let (head, after) ← readGroupHead f rest
    pure (← s.openParenthesis? head, after)
  | ')' => s.leave?.map fun s => (s, rest)
  | '|' => some ({ s with level := s.level.nextChoice }, rest)
  | '[' => (readClass f rest).map fun (p, after) => (s.pushSet p, after)
  | '*' => repeated 0 none
  | '+' => repeated 1 none
  | '?' => repeated 0 (some 1)
  | '\x7b' => do
    let (times, after) ← readTimes f rest
    pure (← s.repeatLast? times, after)
  | '\\' => (readEscape f rest).map fun (e, after) => (s.escape e, after)
  | '.' => f.dot?.map fun r => (s.push r, rest)
  | '^' => some (s.push (.look f.startLook), rest)
  | '$' => some (s.push (.look f.endLook), rest)
  | c => some (s.push (f.literal c), rest)

/-- Reads on to the end of the text. -/
def run? : Nat → Reader → List Char → Option Reader
  | 0, _, _ => none
  | fuel + 1, s, cs =>
    match s.level.flags.skip cs with
    | [] => some s
    | c :: rest =>
      match s.step? c rest with
      | some (s, after) => run? fuel s after
      | none => none

end Reader

/-- The expression that a text stands for. Every step takes a character, so the length is fuel
enough. -/
def parse? (source : String) (ignoreCase : Bool) : Option Regex :=
  let cs := source.toList
  match Reader.run? (cs.length + 1) { level := { flags := { ignoreCase := ignoreCase } } } cs with
  | some s =>
    let p := s.level.whole
    if s.outer.isEmpty && p.depth ≤ maxDepth then some p.expr else none
  | none => none

end CodeChunks.Regex
