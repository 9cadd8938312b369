import CodeChunks.Classifier
import Mathlib.Data.List.Basic

/-!
# What is registered for one language stays there

Mappings, patterns and grammars are registered for single languages; `Registration` is one of these.
The verdict on a kind depends on those of its own language alone, whatever else was registered
before, after or in between: classifiers that agree on a language (`AgreesOn`) go on doing so.
Within a language, mappings of different kinds do not touch each other, and a pattern is asked only
where no mapping and no earlier pattern answers.
-/

namespace CodeChunks

/-! ## Mappings and patterns -/

namespace Overrides

variable (o : Overrides) (l m : Language) (kind other : String) (cls : CodeClass) (p : KindPattern)

/-- The verdict of a pattern that matches at the start of a name. -/
def atStart? (p : KindPattern) (kind : String) : Option Verdict :=
  if p.atStart.isMatch kind then some (p.verdict kind) else none

theorem patternsFor_append : (o.append m p).patternsFor l =
    o.patternsFor l ++ if m = l then [p] else [] := by
  unfold append patternsFor
  rw [List.filterMap_append]
  by_cases h : m = l <;> simp [h]

theorem mapped?_map : (o.map m other cls).mapped? kind l =
    if (m, other) = (l, kind) then
      some (.ofTarget cls .registryMapping mappingEvidence mappingPercent)
    else o.mapped? kind l := by
  unfold map mapped?
  rw [Table.get?_insert]
  split <;> rfl

theorem first?_map : (o.map m other cls).first? kind l =
    if (m, other) = (l, kind) then
      some (.ofTarget cls .registryMapping mappingEvidence mappingPercent)
    else o.first? kind l := by
  have hmatched : (o.map m other cls).matched? kind l = o.matched? kind l := rfl
  unfold first?
  rw [hmatched, mapped?_map]
  split <;> rfl

theorem first?_append : (o.append l p).first? kind l =
    (o.first? kind l).or (atStart? p kind) := by
  have hmapped : (o.append l p).mapped? kind l = o.mapped? kind l := rfl
  have hmatched : (o.append l p).matched? kind l = (o.matched? kind l).or (atStart? p kind) := by
    unfold matched? atStart?
    rw [patternsFor_append, if_pos rfl, List.find?_append]
    cases (o.patternsFor l).find? fun q => q.atStart.isMatch kind with
    | some q => rfl
    | none =>
      rw [Option.none_or, List.find?_singleton]
      split <;> rfl
  have hor : ∀ o : Overrides, o.first? kind l = (o.mapped? kind l).or (o.matched? kind l) :=
    fun _ => Option.orElse_eq_or
  rw [hor, hor, hmapped, hmatched, Option.or_assoc]

/-- Overrides with the same mappings and patterns of a language. -/
structure AgreesOn (l : Language) (o q : Overrides) : Prop where
  mappings : ∀ kind, q.mappings.get? (l, kind) = o.mappings.get? (l, kind)
  patterns : q.patternsFor l = o.patternsFor l

namespace AgreesOn

variable {o l m} {q : Overrides}

theorem map_right (h : AgreesOn l o q) (hm : m ≠ l) : AgreesOn l o (q.map m other cls) where
  mappings kind := by
    unfold Overrides.map
    rw [Table.get?_insert, if_neg fun e => hm (Prod.ext_iff.1 e).1, h.mappings]
  patterns := h.patterns

theorem append_right (h : AgreesOn l o q) (hm : m ≠ l) : AgreesOn l o (q.append m p) where
  mappings := h.mappings
  patterns := by rw [patternsFor_append, if_neg hm, List.append_nil, h.patterns]

theorem map (h : AgreesOn l o q) (m : Language) :
    AgreesOn l (o.map m other cls) (q.map m other cls) where
  mappings kind := by
    unfold Overrides.map
    rw [Table.get?_insert, Table.get?_insert, h.mappings]
  patterns := h.patterns

theorem append (h : AgreesOn l o q) (m : Language) :
    AgreesOn l (o.append m p) (q.append m p) where
  mappings := h.mappings
  patterns := by rw [patternsFor_append, patternsFor_append, h.patterns]

theorem first? (h : AgreesOn l o q) : q.first? kind l = o.first? kind l := by
  unfold Overrides.first? mapped? matched?
  rw [h.mappings, h.patterns]

theorem refine (h : AgreesOn l o q) (base : Verdict) :
    q.refine base kind l = o.refine base kind l := by
  unfold Overrides.refine rival?
  rw [h.patterns]

end AgreesOn

end Overrides

/-! ## Registrations -/

/-- What can be registered for a language. -/
inductive Registration where
  | mapping (l : Language) (kind : String) (cls : CodeClass)
  | pattern (l : Language) (source : String) (cls : CodeClass) (label : String)
      (caseSensitive : Bool)
  | grammar (l : Language) (text : String)

def Registration.language : Registration → Language
  | .mapping l _ _ => l
  | .pattern l _ _ _ _ => l
  | .grammar l _ => l

namespace Classifier

/-- The classifier after a registration. A pattern or a grammar that is refused changes nothing. -/
def extend (c : Classifier) : Registration → Classifier
  | .mapping l kind cls => { c with overrides := c.overrides.map l kind cls }
  | .pattern l source cls label caseSensitive =>
    { c with
      overrides :=
        (c.overrides.register l source cls label caseSensitive).toOption.getD c.overrides }
  | .grammar l text => ((c.register l (Grammar.ofText l text)).toOption.map (·.1)).getD c

def extendAll (c : Classifier) (rs : List Registration) : Classifier := rs.foldl extend c

/-- Classifiers to which the same is known of a language. -/
structure AgreesOn (l : Language) (c d : Classifier) : Prop where
  taxonomy : d.taxonomy = c.taxonomy
  overrides : Overrides.AgreesOn l c.overrides d.overrides
  grammar : d.grammars.grammar? l = c.grammars.grammar? l

/-- What a registration does to every classifier: it adds a mapping, a pattern or a grammar of its
language, or it is refused and nothing happens. -/
theorem extend_cases (r : Registration) :
    (∃ kind cls, ∀ c : Classifier, c.extend r =
      { c with overrides := c.overrides.map r.language kind cls }) ∨
    (∃ p, ∀ c : Classifier, c.extend r =
      { c with overrides := c.overrides.append r.language p }) ∨
    (∃ g, ∀ c : Classifier, c.extend r = { c with grammars := c.grammars.set r.language g }) ∨
    ∀ c : Classifier, c.extend r = c := by
  cases r with
  | mapping l kind cls => exact .inl ⟨kind, cls, fun _ => rfl⟩
  | pattern l source cls label caseSensitive =>
    cases h : KindPattern.ofSource source cls label caseSensitive with
    | ok p => exact .inr (.inl ⟨p, fun c => by rw [extend, Overrides.register, h]; rfl⟩)
    | error e =>
      exact .inr (.inr (.inr fun c => by rw [extend, Overrides.register, h]; rfl))
  | grammar l text =>
    cases h : Grammar.ofText l text with
    | ok g => exact .inr (.inr (.inl ⟨g, fun c => by rw [extend, h]; rfl⟩))
    | error e => exact .inr (.inr (.inr fun c => by rw [extend, h]; rfl))

namespace AgreesOn

variable {l : Language} {c d e : Classifier}

theorem refl (c : Classifier) : AgreesOn l c c := ⟨rfl, ⟨fun _ => rfl, rfl⟩, rfl⟩

/-- What is known of a language decides on its kinds. -/
theorem fresh? (h : AgreesOn l c d) (kind : String) : d.fresh? kind l = c.fresh? kind l := by
  have hsubject : d.subject kind l = c.subject kind l := by
    unfold subject Grammar.Registry.kind?
    rw [h.grammar]
  unfold Classifier.fresh? fromGrammar?
  rw [h.overrides.first?, hsubject, h.taxonomy]
  simp only [h.overrides.refine]

theorem extend_right (h : AgreesOn l c d) {r : Registration} (hl : r.language ≠ l) :
    AgreesOn l c (d.extend r) := by
  rcases extend_cases r with ⟨kind, cls, hr⟩ | ⟨p, hr⟩ | ⟨g, hr⟩ | hr
  · rw [hr]
    exact ⟨h.taxonomy, h.overrides.map_right kind cls hl, h.grammar⟩
  · rw [hr]
    exact ⟨h.taxonomy, h.overrides.append_right p hl, h.grammar⟩
  · rw [hr]
    refine ⟨h.taxonomy, h.overrides, ?_⟩
    dsimp only
    rw [Grammar.Registry.grammar?_set, if_neg hl, h.grammar]
  · rw [hr]
    exact h

theorem extend (h : AgreesOn l c d) (r : Registration) :
    AgreesOn l (c.extend r) (d.extend r) := by
  rcases extend_cases r with ⟨kind, cls, hr⟩ | ⟨p, hr⟩ | ⟨g, hr⟩ | hr
  · rw [hr, hr]
    exact ⟨h.taxonomy, h.overrides.map kind cls r.language, h.grammar⟩
  · rw [hr, hr]
    exact ⟨h.taxonomy, h.overrides.append p r.language, h.grammar⟩
  · rw [hr, hr]
    refine ⟨h.taxonomy, h.overrides, ?_⟩
    dsimp only
    rw [Grammar.Registry.grammar?_set, Grammar.Registry.grammar?_set, h.grammar]
  · rw [hr, hr]
    exact h

/-- Leaving out what is registered for other languages changes nothing for this one. -/
theorem extendAll_filter (h : AgreesOn l c d) (rs : List Registration) :
    AgreesOn l (c.extendAll (rs.filter fun r => r.language = l)) (d.extendAll rs) := by
  induction rs generalizing c d with
  | nil => exact h
  | cons r rs ih =>
    by_cases hl : r.language = l
    · rw [List.filter_cons_of_pos (by simpa using hl)]
      exact ih (h.extend r)
    · rw [List.filter_cons_of_neg (by simpa using hl)]
      exact ih (h.extend_right hl)

end AgreesOn

theorem taxonomy_extendAll (c : Classifier) (rs : List Registration) :
    (c.extendAll rs).taxonomy = c.taxonomy := by
  induction rs generalizing c with
  | nil => rfl
  | cons r rs ih =>
    refine (ih (c.extend r)).trans ?_
    rcases extend_cases r with ⟨kind, cls, hr⟩ | ⟨p, hr⟩ | ⟨g, hr⟩ | hr <;> rw [hr]

/-- The verdict on a kind is decided by what was registered for its language, so nothing that is
registered for other languages changes it, with surroundings or without. A mapping of another kind
of the language leaves the overrides of this one as they were, and so does a pattern where they gave
a verdict. A pattern that is refused changes nothing at all. -/
theorem verdict_of_own_language (c : Classifier) (kind : String) (l : Language) :
    (∀ rs, (c.extendAll rs).fresh? kind l =
      (c.extendAll (rs.filter fun r => r.language = l)).fresh? kind l) ∧
    (∀ rs, (∀ r ∈ rs, r.language ≠ l) →
      (c.extendAll rs).fresh? kind l = c.fresh? kind l ∧
      ∀ x, ((c.extendAll rs).fresh? kind l).map (·.inContext (c.extendAll rs).taxonomy x) =
        (c.fresh? kind l).map (·.inContext c.taxonomy x)) ∧
    (∀ other cls, other ≠ kind →
      (c.overrides.map l other cls).first? kind l = c.overrides.first? kind l) ∧
    (∀ source cls label caseSensitive o v,
      c.overrides.register l source cls label caseSensitive = .ok o →
      c.overrides.first? kind l = some v → o.first? kind l = some v) ∧
    ∀ m source cls label caseSensitive e,
      c.overrides.register m source cls label caseSensitive = .error e →
      c.extend (.pattern m source cls label caseSensitive) = c := by
  have hfilter : ∀ rs, AgreesOn l (c.extendAll (rs.filter fun r => r.language = l))
      (c.extendAll rs) := (AgreesOn.refl c).extendAll_filter
  refine ⟨fun rs => (hfilter rs).fresh? kind, fun rs hrs => ?_, fun other cls hother => ?_,
    fun source cls label caseSensitive o v ho hv => ?_,
    fun m source cls label caseSensitive e he => ?_⟩
  · have hnone : rs.filter (fun r => r.language = l) = [] := by
      simpa [List.filter_eq_nil_iff] using hrs
    have hagrees := hfilter rs
    rw [hnone] at hagrees
    have hfresh : (c.extendAll rs).fresh? kind l = c.fresh? kind l := hagrees.fresh? kind
    refine ⟨hfresh, fun x => ?_⟩
    rw [hfresh, taxonomy_extendAll]
  · rw [Overrides.first?_map, if_neg fun e => hother (Prod.ext_iff.1 e).2]
  · unfold Overrides.register at ho
    cases hp : KindPattern.ofSource source cls label caseSensitive with
    | error e =>
      rw [hp] at ho
      cases ho
    | ok p =>
      rw [hp] at ho
      cases ho
      rw [Overrides.first?_append, hv]
      rfl
  · rw [extend, he]
    rfl

end Classifier

namespace Sample

def mappedClassifier : Classifier where
  taxonomy := .builtin
  overrides := Overrides.empty.map .python "name" (.core .syntaxIdentifier)
  grammars := { bundled := fun _ => none }

/-- The same name mapped and matched in other languages, and a grammar that cannot be read. -/
def foreignRegistrations : List Registration :=
  [.mapping .go "name" (.core .definitionType), .pattern .rust "n" (.core .flowAsync) "n" true,
   .grammar .php "["]

end Sample

namespace Classifier

/-- A name that is mapped keeps its class when the name is registered for other languages, when
another name is mapped, and when a pattern of its language matches it too. A pattern that is no
expression is refused. -/
theorem mapped_name_keeps_class :
    ∃ v o, Sample.mappedClassifier.overrides.first? "name" .python = some v ∧
      (Sample.mappedClassifier.extendAll Sample.foreignRegistrations).fresh? "name" .python =
        some v ∧
      (Sample.mappedClassifier.overrides.map .python "call" (.core .flowAsync)).first?
        "name" .python = some v ∧
      Sample.mappedClassifier.overrides.register .python "n" (.core .flowAsync) "n" true = .ok o ∧
      o.first? "name" .python = some v ∧
      Sample.mappedClassifier.extend (.pattern .python "(" (.core .flowAsync) "open" true) =
        Sample.mappedClassifier := by
  obtain ⟨-, hforeign, hmapping, hpattern, hrefused⟩ :=
    verdict_of_own_language Sample.mappedClassifier "name" .python
  have hfirst : Sample.mappedClassifier.overrides.first? "name" .python =
      some (.ofTarget (.core .syntaxIdentifier) .registryMapping Overrides.mappingEvidence
        Overrides.mappingPercent) := rfl
  obtain ⟨o, ho⟩ : ∃ o, Sample.mappedClassifier.overrides.register .python "n" (.core .flowAsync)
      "n" true = .ok o := by
    have haccepted : (KindPattern.ofSource "n" (.core .flowAsync) "n" true).isOk = true := by
      decide +kernel
    unfold Overrides.register
    cases h : KindPattern.ofSource "n" (.core .flowAsync) "n" true with
    | ok p => exact ⟨_, rfl⟩
    | error e =>
      rw [h] at haccepted
      cases haccepted
  obtain ⟨e, he⟩ : ∃ e, Sample.mappedClassifier.overrides.register .python "(" (.core .flowAsync)
      "open" true = .error e := by
    have hrejected : (KindPattern.ofSource "(" (.core .flowAsync) "open" true).isOk = false := by
      decide +kernel
    unfold Overrides.register
    cases h : KindPattern.ofSource "(" (.core .flowAsync) "open" true with
    | ok p =>
      rw [h] at hrejected
      cases hrejected
    | error e => exact ⟨e, rfl⟩
  refine ⟨_, o, hfirst, ?_, ?_, ho, hpattern _ _ _ _ _ _ ho hfirst, hrefused _ _ _ _ _ _ he⟩
  · rw [(hforeign Sample.foreignRegistrations (by decide)).1]
    rfl
  · rw [hmapping "call" _ (by decide)]
    exact hfirst

end Classifier

end CodeChunks
