import CodeChunks.Grammar.Load

/-!
# Registered grammars

A `Registry` answers for a language from the grammar registered last, and from the bundled grammar
if none was registered. Bundled grammars are loaded when they are first asked for; loading shows
only in the list of loaded languages.
-/

namespace CodeChunks.Grammar

structure Registry where
  /-- The grammars that can be loaded on demand. -/
  bundled : Language → Option Grammar
  loaded : Table Language Grammar := []

namespace Registry

/-- The grammar that answers for a language. -/
def grammar? (r : Registry) (l : Language) : Option Grammar := r.loaded.get? l <|> r.bundled l

/-- Asks for a grammar, loading a bundled one. -/
def load (r : Registry) (l : Language) : Registry × Option Grammar :=
  match r.loaded.get? l, r.bundled l with
  | some g, _ => (r, some g)
  | none, some g => ({ r with loaded := r.loaded.insert l g }, some g)
  | none, none => (r, none)

def set (r : Registry) (l : Language) (g : Grammar) : Registry :=
  { r with loaded := r.loaded.insert l g }

/-- Registers a document; one that is refused changes nothing. -/
def register (r : Registry) (l : Language) (g : Except Error Grammar) :
    Except Error (Registry × Grammar) :=
  match g with
  | .ok g => .ok (r.set l g, g)
  | .error e => .error e

def kind? (r : Registry) (name : String) (l : Language) : Option Kind :=
  (r.grammar? l).bind (·.kind? name)

/-- The languages loaded so far, in order. -/
def languages (r : Registry) : List Language :=
  Language.all.filter fun l => r.loaded.contains l

@[simp] theorem snd_load (r : Registry) (l : Language) : (r.load l).2 = r.grammar? l := by
  simp only [load, grammar?]
  cases r.loaded.get? l <;> cases r.bundled l <;> rfl

/-- Loading changes no answer. -/
@[simp] theorem grammar?_load (r : Registry) (l x : Language) :
    (r.load l).1.grammar? x = r.grammar? x := by
  simp only [load, grammar?]
  cases h : r.loaded.get? l <;> cases hb : r.bundled l <;> simp only []
  simp only [Table.get?_insert]
  by_cases hx : l = x
  · subst hx
    simp [h, hb]
  · simp [hx]

theorem grammar?_set (r : Registry) (l x : Language) (g : Grammar) :
    (r.set l g).grammar? x = if l = x then some g else r.grammar? x := by
  simp only [set, grammar?, Table.get?_insert]
  by_cases hx : l = x <;> simp [hx]

end Registry

end CodeChunks.Grammar
