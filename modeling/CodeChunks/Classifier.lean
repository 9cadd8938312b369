import CodeChunks.Grammar.Registry
import CodeChunks.Overrides.Context
import CodeChunks.Signal

/-!
# Classification with a memory

The first answer for a kind of a language is kept, also if it is that there is none, and every later
answer repeats it (`answer?`, where `fresh?` is what would be computed). Surroundings are applied to
the answer and never kept.
-/

namespace CodeChunks

structure Classifier where
  taxonomy : Taxonomy
  overrides : Overrides
  grammars : Grammar.Registry
  memo : Table (String × Language) (Option Verdict) := []

namespace Classifier

def subject (c : Classifier) (kind : String) (l : Language) : Subject :=
  ⟨kind, l, c.grammars.kind? kind l⟩

/-- The verdict that the grammar alone gives. -/
def fromGrammar? (c : Classifier) (kind : String) (l : Language) : Option Verdict :=
  (c.subject kind l).classify? c.taxonomy

/-- The verdict computed anew: overrides first, then the grammar, then overrides that refine. -/
def fresh? (c : Classifier) (kind : String) (l : Language) : Option Verdict :=
  match c.overrides.first? kind l with
  | some v => some v
  | none => (c.fromGrammar? kind l).map fun v => c.overrides.refine v kind l

/-- The verdict that asking would give now. -/
def answer? (c : Classifier) (kind : String) (l : Language) : Option Verdict :=
  match c.memo.get? (kind, l) with
  | some kept => kept
  | none => c.fresh? kind l

/-- Keeps the answer for a kind. -/
def ask (c : Classifier) (kind : String) (l : Language) : Classifier :=
  match c.memo.get? (kind, l) with
  | some _ => c
  | none => { c with memo := c.memo.insert (kind, l) (c.fresh? kind l) }

/-- Classifies a kind and keeps the answer. -/
def classify (c : Classifier) (kind : String) (l : Language) : Classifier × Option Verdict :=
  (c.ask kind l, c.answer? kind l)

/-- Classifies a node in its surroundings. Only the answer without them is kept. -/
def classifyIn (c : Classifier) (kind : String) (l : Language) (x : Context) :
    Classifier × Option Verdict :=
  (c.ask kind l, (c.answer? kind l).map fun v => v.inContext c.taxonomy x)

/-- How many answers are kept. -/
def kept (c : Classifier) : Nat := c.memo.length

/-- Registers a grammar; kept answers stay. -/
def register (c : Classifier) (l : Language) (g : Except Error Grammar) :
    Except Error (Classifier × Grammar) :=
  (c.grammars.register l g).map fun (grammars, g) => ({ c with grammars := grammars }, g)

end Classifier

end CodeChunks
