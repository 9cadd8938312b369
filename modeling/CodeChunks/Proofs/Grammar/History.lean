import CodeChunks.Grammar.Registry
import Mathlib.Data.List.Basic

/-!
# Histories of a registry

A registry is asked for grammars and for kinds, and documents are registered with it in between;
`Action` is one of these. For a language it answers from the last document that could be read,
`lastParsed?`, or from the bundled grammar if there was none. A bundled grammar is kept where
registered ones are, but from what was answered nobody can tell whether it was: asking changes no
other answer, so actions `Marked` to be left out are not missed. The languages that are loaded are
those for which a document was read, and the bundled ones that were asked for.
-/

namespace CodeChunks.Grammar.Registry

inductive Action where
  | register (l : Language) (text : String)
  | grammar (l : Language)
  | kind (name : String) (l : Language)

inductive Reply where
  | registered (g : Except Error Grammar)
  | grammar (g : Option Grammar)
  | kind (k : Option Kind)

def act (r : Registry) : Action → Registry × Reply
  | .register l text =>
    match r.register l (ofText l text) with
    | .ok (r, g) => (r, .registered (.ok g))
    | .error e => (r, .registered (.error e))
  | .grammar l => ((r.load l).1, .grammar (r.load l).2)
  | .kind name l => ((r.load l).1, .kind ((r.load l).2.bind (·.kind? name)))

def afterAll (r : Registry) : List Action → Registry
  | [] => r
  | a :: as => (r.act a).1.afterAll as

def replies (r : Registry) : List Action → List Reply
  | [] => []
  | a :: as => (r.act a).2 :: (r.act a).1.replies as

namespace Action

def asked : Action → Option Language
  | .register _ _ => none
  | .grammar l => some l
  | .kind _ l => some l

/-- The grammar that is registered for a language, if the document can be read. -/
def parsed? (l : Language) : Action → Option Grammar
  | .register m text => if m = l then (ofText l text).toOption else none
  | .grammar _ => none
  | .kind _ _ => none

/-- The grammar of the last document for a language that can be read. -/
def lastParsed? (as : List Action) (l : Language) : Option Grammar :=
  as.reverse.findSome? (parsed? l)

theorem parsed?_of_asked {a : Action} (h : a.asked.isSome = true) (l : Language) :
    a.parsed? l = none := by
  cases a with
  | register m text => cases h
  | grammar m => rfl
  | kind name m => rfl

theorem parsed?_of_error {m : Language} {text : String} {e : Error}
    (h : ofText m text = .error e) (l : Language) : (register m text).parsed? l = none := by
  rw [parsed?]
  split
  · rename_i hl
    rw [← hl, h]
    rfl
  · rfl

theorem lastParsed?_cons (a : Action) (as : List Action) (l : Language) :
    lastParsed? (a :: as) l = (lastParsed? as l).or (a.parsed? l) := by
  unfold lastParsed?
  rw [List.reverse_cons, List.findSome?_append, List.findSome?_singleton]

end Action

/-! ## One action -/

variable (r : Registry) (a : Action)

theorem act_of_ok {l : Language} {text : String} {g : Grammar} (h : ofText l text = .ok g) :
    r.act (.register l text) = (r.set l g, .registered (.ok g)) := by
  rw [act, h]
  rfl

theorem act_of_error {l : Language} {text : String} {e : Error} (h : ofText l text = .error e) :
    r.act (.register l text) = (r, .registered (.error e)) := by
  rw [act, h]
  rfl

/-- What an action does: a document that can be read is set, a bundled grammar that is asked for is
loaded, and nothing else changes. -/
theorem act_cases :
    (∃ l text g, a = .register l text ∧ ofText l text = .ok g ∧ (r.act a).1 = r.set l g) ∨
    (∃ l text e, a = .register l text ∧ ofText l text = .error e ∧ (r.act a).1 = r) ∨
    ∃ l, a.asked = some l ∧ (r.act a).1 = (r.load l).1 := by
  cases a with
  | register l text =>
    cases h : ofText l text with
    | ok g => exact .inl ⟨l, text, g, rfl, h, by rw [r.act_of_ok h]⟩
    | error e => exact .inr (.inl ⟨l, text, e, rfl, h, by rw [r.act_of_error h]⟩)
  | grammar l => exact .inr (.inr ⟨l, rfl, rfl⟩)
  | kind name l => exact .inr (.inr ⟨l, rfl, rfl⟩)

theorem reply_congr {r s : Registry} (h : ∀ l, r.grammar? l = s.grammar? l) (a : Action) :
    (r.act a).2 = (s.act a).2 := by
  cases a with
  | register l text =>
    cases htext : ofText l text with
    | ok g => rw [r.act_of_ok htext, s.act_of_ok htext]
    | error e => rw [r.act_of_error htext, s.act_of_error htext]
  | grammar l => simp only [act, snd_load, h]
  | kind name l => simp only [act, snd_load, h]

/-- Only a document that can be read changes what is answered, and for its language alone. -/
theorem grammar?_act (l : Language) :
    (r.act a).1.grammar? l = (a.parsed? l).or (r.grammar? l) := by
  rcases r.act_cases a with ⟨m, text, g, rfl, hg, h⟩ | ⟨m, text, e, rfl, he, h⟩ | ⟨m, hm, h⟩
  · rw [h, grammar?_set, Action.parsed?]
    by_cases hl : m = l
    · subst hl
      simp [hg, Except.toOption]
    · simp [hl]
  · rw [h, Action.parsed?_of_error he, Option.none_or]
  · rw [h, grammar?_load, Action.parsed?_of_asked (by rw [hm]; rfl), Option.none_or]

theorem bundled_load (l : Language) : (r.load l).1.bundled = r.bundled := by
  unfold load
  split <;> rfl

theorem bundled_act : (r.act a).1.bundled = r.bundled := by
  rcases r.act_cases a with ⟨m, text, g, -, -, h⟩ | ⟨m, text, e, -, -, h⟩ | ⟨m, -, h⟩
  · rw [h]
    rfl
  · rw [h]
  · rw [h, bundled_load]

theorem mem_languages {l : Language} : l ∈ r.languages ↔ (r.loaded.get? l).isSome = true := by
  unfold languages Table.contains
  rw [List.mem_filter, and_iff_right (Language.mem_all l)]

theorem mem_languages_set {m l : Language} {g : Grammar} :
    l ∈ (r.set m g).languages ↔ m = l ∨ l ∈ r.languages := by
  rw [mem_languages, mem_languages, set, Table.get?_insert]
  split <;> simp [*]

theorem mem_languages_load {m l : Language} : l ∈ (r.load m).1.languages ↔
    l ∈ r.languages ∨ m = l ∧ (r.bundled l).isSome = true := by
  unfold load
  cases hget : r.loaded.get? m with
  | some g =>
    refine ⟨.inl, ?_⟩
    rintro (h | ⟨rfl, -⟩)
    · exact h
    · rw [mem_languages, hget]
      rfl
  | none =>
    cases hbundled : r.bundled m with
    | none =>
      refine ⟨.inl, ?_⟩
      rintro (h | ⟨rfl, h⟩)
      · exact h
      · rw [hbundled] at h
        cases h
    | some g =>
      have hset : l ∈ ({ r with loaded := r.loaded.insert m g } : Registry).languages ↔
          m = l ∨ l ∈ r.languages := r.mem_languages_set
      rw [hset, or_comm]
      refine or_congr_right ⟨fun h => ⟨h, ?_⟩, fun h => h.1⟩
      rw [← h, hbundled]
      rfl

theorem mem_languages_act {l : Language} : l ∈ (r.act a).1.languages ↔
    l ∈ r.languages ∨ (a.parsed? l).isSome = true ∨
      a.asked = some l ∧ (r.bundled l).isSome = true := by
  rcases r.act_cases a with ⟨m, text, g, rfl, hg, h⟩ | ⟨m, text, e, rfl, he, h⟩ | ⟨m, hm, h⟩
  · rw [h, mem_languages_set, Action.parsed?, Action.asked, or_comm]
    refine or_congr_right ?_
    by_cases hl : m = l
    · subst hl
      simp [hg, Except.toOption]
    · simp [hl]
  · rw [h, Action.parsed?_of_error he, Action.asked]
    simp
  · rw [h, mem_languages_load, Action.parsed?_of_asked (by rw [hm]; rfl), hm]
    simp

theorem languages_pairwise : r.languages.Pairwise fun l m => l.ordinal < m.ordinal := by
  have hall : Language.all.Pairwise fun l m => l.ordinal < m.ordinal := by decide
  exact hall.filter _

/-! ## Many actions -/

variable (as : List Action)

theorem afterAll_append (bs : List Action) :
    r.afterAll (as ++ bs) = (r.afterAll as).afterAll bs := by
  induction as generalizing r with
  | nil => rfl
  | cons a as ih => exact ih (r.act a).1

theorem replies_append (bs : List Action) :
    r.replies (as ++ bs) = r.replies as ++ (r.afterAll as).replies bs := by
  induction as generalizing r with
  | nil => rfl
  | cons a as ih => exact congrArg _ (ih (r.act a).1)

theorem grammar?_afterAll (l : Language) :
    (r.afterAll as).grammar? l = (Action.lastParsed? as l).or (r.grammar? l) := by
  induction as generalizing r with
  | nil => rfl
  | cons a as ih => rw [afterAll, ih, grammar?_act, Action.lastParsed?_cons, Option.or_assoc]

theorem mem_languages_afterAll {l : Language} : l ∈ (r.afterAll as).languages ↔
    l ∈ r.languages ∨ (∃ a ∈ as, (a.parsed? l).isSome = true) ∨
      (∃ a ∈ as, a.asked = some l) ∧ (r.bundled l).isSome = true := by
  induction as generalizing r with
  | nil => simp [afterAll]
  | cons a as ih =>
    rw [afterAll, ih, mem_languages_act, bundled_act]
    simp only [List.exists_mem_cons_iff, or_and_right]
    grind

/-- Actions of which some are left out. -/
abbrev Marked := List (Action × Bool)

def Marked.kept (ms : Marked) : List Action := (ms.filter (·.2)).map (·.1)

/-- The replies to the actions that are not left out, when none of them is. -/
def repliesKept (ms : Marked) : List Reply :=
  ((ms.zip (r.replies (ms.map (·.1)))).filter (·.1.2)).map (·.2)

variable {r}

/-- Registries that answer alike go on doing so when one of them is asked more often. -/
theorem replies_kept {s : Registry} (h : ∀ l, s.grammar? l = r.grammar? l) (ms : Marked)
    (hasked : ∀ a, (a, false) ∈ ms → a.asked.isSome = true) :
    s.replies ms.kept = r.repliesKept ms := by
  induction ms generalizing r s with
  | nil => rfl
  | cons m ms ih =>
    obtain ⟨a, stays⟩ := m
    have hrest : ∀ b, (b, false) ∈ ms → b.asked.isSome = true :=
      fun b hb => hasked b (List.mem_cons_of_mem _ hb)
    cases stays with
    | true =>
      have hnext : ∀ l, (s.act a).1.grammar? l = (r.act a).1.grammar? l := by
        intro l
        rw [grammar?_act, grammar?_act, h]
      exact congrArg₂ List.cons (reply_congr h a) (ih hnext hrest)
    | false =>
      have hnext : ∀ l, s.grammar? l = (r.act a).1.grammar? l := by
        intro l
        rw [grammar?_act, Action.parsed?_of_asked (hasked a List.mem_cons_self), h, Option.none_or]
      exact ih hnext hrest

/-- After any actions on a registry in which nothing was registered yet, a language is answered for
from the last document that could be read, or else from its bundled grammar. A document that cannot
be read changes no later reply and no list of loaded languages. Asking for grammars and kinds,
anywhere and any number of times, changes no reply to anything else. The languages loaded are
listed in order, and they are those of the documents that could be read and the bundled ones that
were asked for. -/
theorem replies_from_last_document (bundled : Language → Option Grammar)
    (actions : List Action) :
    let start : Registry := { bundled := bundled }
    (∀ l, ((start.afterAll actions).act (.grammar l)).2 =
      .grammar ((Action.lastParsed? actions l).or (bundled l))) ∧
    (∀ name l, ((start.afterAll actions).act (.kind name l)).2 =
      .kind (((Action.lastParsed? actions l).or (bundled l)).bind (·.kind? name))) ∧
    (∀ l text e, ofText l text = .error e → ∀ later,
      start.replies (actions ++ .register l text :: later) =
        start.replies actions ++
          .registered (.error e) :: (start.afterAll actions).replies later ∧
      start.replies (actions ++ later) =
        start.replies actions ++ (start.afterAll actions).replies later ∧
      (start.afterAll (actions ++ .register l text :: later)).languages =
        (start.afterAll (actions ++ later)).languages) ∧
    (∀ marked : Marked, (∀ a, (a, false) ∈ marked → a.asked.isSome = true) →
      start.replies marked.kept = start.repliesKept marked) ∧
    (start.afterAll actions).languages.Pairwise (fun l m => l.ordinal < m.ordinal) ∧
    ∀ l, l ∈ (start.afterAll actions).languages ↔
      (∃ a ∈ actions, (a.parsed? l).isSome = true) ∨
        (∃ a ∈ actions, a.asked = some l) ∧ (bundled l).isSome = true := by
  intro start
  have hstart : ∀ l, start.grammar? l = bundled l := fun l => Option.none_or
  have hempty : start.languages = [] := rfl
  refine ⟨fun l => ?_, fun name l => ?_, fun l text e he later => ⟨?_, ?_, ?_⟩,
    replies_kept fun _ => rfl, languages_pairwise _, fun l => ?_⟩
  · rw [act, snd_load, grammar?_afterAll, hstart]
  · rw [act, snd_load, grammar?_afterAll, hstart]
  · rw [replies_append, replies, act_of_error _ he]
  · rw [replies_append]
  · rw [afterAll_append, afterAll_append, afterAll, act_of_error _ he]
  · rw [mem_languages_afterAll, hempty]
    simp [start]

end CodeChunks.Grammar.Registry

namespace CodeChunks

namespace Sample

def interpolation : String := "[\x7b\"type\":\"text_interpolation\",\"named\":true\x7d]"

def interpolationEntries : List Grammar.Entry :=
  [⟨"text_interpolation", true, none, [], none, false⟩]

/-- Only one language has a grammar of its own, and that is empty. -/
def onlyPython (l : Language) : Option Grammar :=
  if l = .python then some { language := .python } else none

/-- A document is registered, and two languages are asked for; one of them before that. -/
def registryActions : List Grammar.Registry.Action :=
  [.kind "text_interpolation" .php, .register .php interpolation, .grammar .python]

end Sample

namespace Grammar.Registry

/-- The kind of the document is found, though it was asked for in vain before. What follows a
document that cannot be read is as without it, and the reply to the registration is as if nobody had
asked for anything. -/
theorem kind_found_after_registration :
    let start : Registry := { bundled := Sample.onlyPython }
    (∃ k, ((start.afterAll Sample.registryActions).act (.kind "text_interpolation" .php)).2 =
      .kind (some k) ∧ k.anywhere = true) ∧
    (start.afterAll (Sample.registryActions ++ [.register .php "["])).languages =
      [.python, .php] ∧
    start.replies [.register .php Sample.interpolation] =
      [.registered (.ok (ofEntries .php Sample.interpolationEntries))] := by
  have hentries : entriesOfText? Sample.interpolation = some Sample.interpolationEntries := by
    decide +kernel
  have hload : ofText .php Sample.interpolation =
      .ok (ofEntries .php Sample.interpolationEntries) := by
    rw [ofText, hentries]
  have hbad : ofText .php "[" = .error (.grammar "malformed grammar document") := by
    rw [ofText, show entriesOfText? "[" = none by decide +kernel]
  have hlast : Action.lastParsed? Sample.registryActions .php =
      some (ofEntries .php Sample.interpolationEntries) := by
    simp only [Sample.registryActions, Action.lastParsed?_cons, Action.parsed?, hload]
    rfl
  obtain ⟨-, hkind, hrefused, hkept, -, -⟩ :=
    replies_from_last_document Sample.onlyPython Sample.registryActions
  refine ⟨?_, ?_, ?_⟩
  · rw [hkind, hlast]
    exact ⟨_, rfl, by decide⟩
  · obtain ⟨-, -, hlanguages⟩ := hrefused .php "[" _ hbad []
    rw [hlanguages]
    decide +kernel
  · have hreplies := hkept [(.kind "text_interpolation" .php, false),
      (.register .php Sample.interpolation, true), (.grammar .python, false)]
      (by simp [Action.asked])
    refine hreplies.trans ?_
    simp [repliesKept, replies, act_of_ok _ hload]

end Grammar.Registry

end CodeChunks
