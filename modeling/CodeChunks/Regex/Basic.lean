import CodeChunks.Regex.Look

/-!
# Regular expressions

Expressions over characters, in a normal form: the parts of a sequence are no sequences, and no two
literals stand side by side; the alternatives of a choice are no choices. The functions named for
the forms keep to it. A repetition is greedy or lazy: it matters which of several matches at one
place is found, since earlier alternatives and more (or fewer) repetitions are preferred.
-/

namespace CodeChunks

open Text

inductive Regex where
  | empty
  | literal (cs : List Char)
  /-- One character of the set; no text matches the empty set. -/
  | set (s : CodeSet)
  | look (l : Regex.Look)
  /-- A group with a number of its own. -/
  | group (index : Nat) (r : Regex)
  /-- At least `least` and, if bounded, at most `most` times; greedy prefers more. -/
  | repeat (r : Regex) (least : Nat) (most : Option Nat) (greedy : Bool)
  | cat (rs : List Regex)
  /-- Earlier alternatives are preferred. -/
  | alt (rs : List Regex)
  deriving Repr

namespace Regex

/-! ## Comparing and measuring -/

mutual

/-- Whether two expressions are the same. -/
def same : Regex → Regex → Bool
  | .empty, .empty => true
  | .literal cs, .literal ds => cs == ds
  | .set s, .set t => s == t
  | .look l, .look m => l == m
  | .group i r, .group j s => i == j && same r s
  | .repeat r least most greedy, .repeat s least' most' greedy' =>
    least == least' && most == most' && greedy == greedy' && same r s
  | .cat rs, .cat ss => sameAll rs ss
  | .alt rs, .alt ss => sameAll rs ss
  | _, _ => false

def sameAll : List Regex → List Regex → Bool
  | [], [] => true
  | r :: rs, s :: ss => same r s && sameAll rs ss
  | _, _ => false

end

mutual

/-- The number of expressions in it, itself among them. -/
def size : Regex → Nat
  | .empty | .literal _ | .set _ | .look _ => 1
  | .group _ r => r.size + 1
  | .repeat r _ _ _ => r.size + 1
  | .cat rs => sizes rs + 1
  | .alt rs => sizes rs + 1

def sizes : List Regex → Nat
  | [] => 0
  | r :: rs => r.size + sizes rs

end

mutual

/-- Whether the form of the expression shows that every match of it is empty. -/
def takesNothing : Regex → Bool
  | .empty | .look _ => true
  | .literal _ | .set _ => false
  | .group _ r => r.takesNothing
  | .repeat r _ most _ => most.isSome && r.takesNothing
  | .cat rs => allTakeNothing rs
  | .alt rs => allTakeNothing rs

def allTakeNothing : List Regex → Bool
  | [] => true
  | r :: rs => r.takesNothing && allTakeNothing rs

end

mutual

/-- The length of the shortest text that can match, by the form of the expression; none if part of
it matches no text. -/
def minLength : Regex → Option Nat
  | .empty | .look _ => some 0
  | .literal cs => some cs.length
  | .set s => if s.isEmpty then none else some 1
  | .group _ r => r.minLength
  | .repeat r least _ _ => r.minLength.map (least * ·)
  | .cat rs => sumOfLengths rs
  | .alt rs => leastOfLengths rs

def sumOfLengths : List Regex → Option Nat
  | [] => some 0
  | r :: rs =>
    match r.minLength, sumOfLengths rs with
    | some m, some n => some (m + n)
    | _, _ => none

def leastOfLengths : List Regex → Option Nat
  | [] => none
  | [r] => r.minLength
  | r :: rs =>
    match r.minLength, leastOfLengths rs with
    | some m, some n => some (if m ≤ n then m else n)
    | _, _ => none

end

/-- Whether the form of the expression shows that no match of it is empty. -/
def takesSome (r : Regex) : Bool :=
  match r.minLength with
  | some n => 0 < n
  | none => false

mutual

/-- Whether the form of the expression shows that it matches at the start of the text only. -/
def bindsStart : Regex → Bool
  | .look .textStart => true
  | .empty | .look _ | .literal _ | .set _ => false
  | .group _ r => r.bindsStart
  | .repeat r least _ _ => 0 < least && r.bindsStart
  | .cat rs => firstBindsStart rs
  | .alt rs => allBindStart rs

/-- One of the leading parts does, before any that takes characters. -/
def firstBindsStart : List Regex → Bool
  | [] => false
  | r :: rs => r.bindsStart || (r.takesNothing && firstBindsStart rs)

def allBindStart : List Regex → Bool
  | [] => true
  | r :: rs => r.bindsStart && allBindStart rs

end

mutual

/-- Whether the form of the expression shows that it matches at the end of the text only. -/
def bindsEnd : Regex → Bool
  | .look .textEnd => true
  | .empty | .look _ | .literal _ | .set _ => false
  | .group _ r => r.bindsEnd
  | .repeat r least _ _ => 0 < least && r.bindsEnd
  | .cat rs => lastBindsEnd rs
  | .alt rs => allBindEnd rs

/-- One of the trailing parts does, after all that take characters. -/
def lastBindsEnd : List Regex → Bool
  | [] => false
  | r :: rs => lastBindsEnd rs || (allTakeNothing rs && r.bindsEnd)

def allBindEnd : List Regex → Bool
  | [] => true
  | r :: rs => r.bindsEnd && allBindEnd rs

end

/-! ## Building -/

/-- The expression that no text matches. -/
def fail : Regex := .set .empty

def ofChar (c : Char) : Regex := .literal [c]

/-- One character of the set. -/
def ofSet (s : CodeSet) : Regex :=
  let s := s.diff .surrogates
  match s.single? with
  | some c => ofChar c
  | none => .set s

/-- What matches only the empty text is repeated once at most. -/
def ofRepeat (r : Regex) (least : Nat) (most : Option Nat) (greedy : Bool) : Regex :=
  let (least, most) :=
    if r.takesNothing then (min least 1, some (min (most.getD 1) 1)) else (least, most)
  match least, most with
  | 0, some 0 => .empty
  | 1, some 1 => r
  | least, most => .repeat r least most greedy

/-- The parts of a sequence. -/
def parts : Regex → List Regex
  | .cat rs => rs
  | .empty => []
  | r => [r]

/-- A part put in front of the others; two literals become one. -/
def pushPart (rs : List Regex) (r : Regex) : List Regex :=
  match r, rs with
  | .literal cs, .literal ds :: rest => .literal (cs ++ ds) :: rest
  | r, rs => r :: rs

/-- The expressions one after the other. -/
def ofParts (rs : List Regex) : Regex :=
  match (rs.flatMap parts).reverse.foldl pushPart [] with
  | [] => .empty
  | [r] => r
  | rs => .cat rs

/-- The alternatives of a choice. -/
def choices : Regex → List Regex
  | .alt rs => rs
  | r => [r]

def char? : Regex → Option Char
  | .literal [c] => some c
  | _ => none

def set? : Regex → Option CodeSet
  | .set s => some s
  | _ => none

def sequence? : Regex → Option (List Regex)
  | .cat rs => some rs
  | _ => none

/-- How many of the leading parts of two sequences are the same. -/
def agreement : List Regex → List Regex → Nat
  | r :: rs, s :: ss => if r.same s then agreement rs ss + 1 else 0
  | _, _ => 0

/-- How many leading parts all sequences share. -/
def commonParts : List (List Regex) → Nat
  | [] => 0
  | rs :: rest => rest.foldl (fun n ss => min n (agreement rs ss)) rs.length

/-- A choice between characters, or between sets, is a set. Sequences that start with the same
parts are a sequence that starts with them and goes on with a choice. -/
def ofChoicesWithin : Nat → List Regex → Regex
  | fuel, rs =>
    match rs.flatMap choices with
    | [] => fail
    | [r] => r
    | rs =>
      match rs.mapM char?, rs.mapM set?, rs.mapM sequence? with
      | some cs, _, _ => ofSet (.ofPoints (cs.map Char.toNat))
      | none, some ss, _ => ofSet (.unions ss)
      | none, none, none => .alt rs
      | none, none, some seqs =>
        match fuel, commonParts seqs with
        | 0, _ => .alt rs
        | _, 0 => .alt rs
        | fuel + 1, n =>
          ofParts ((seqs.headD []).take n ++
            [ofChoicesWithin fuel (seqs.map fun s => ofParts (s.drop n))])

/-- The alternatives, the preferred first. Every shared part leaves smaller sequences, so the size
is fuel enough. -/
def ofChoices (rs : List Regex) : Regex := ofChoicesWithin (sizes rs) rs

end Regex

end CodeChunks
