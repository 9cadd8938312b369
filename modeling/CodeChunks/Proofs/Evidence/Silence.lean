import CodeChunks.Classifier
import CodeChunks.Proofs.Evidence.Shortcut

/-!
# Kinds without a verdict

A kind is left without a verdict if every signal is silent about it. That never happens to a token,
since a token has a purpose. So what is left are kinds that the grammar does not describe, and
composites whose categories have no class, whose roles are not `Telling` and that take no children
by position.
-/

namespace CodeChunks

namespace Signal

variable {s : Subject} {k : Kind}

/-! ## Signals one by one -/

theorem exception_eq_nil_iff : exception s = [] ↔ exceptionClass? s.kind s.language = none := by
  unfold exception
  cases exceptionClass? s.kind s.language <;> simp

theorem floating_eq_nil_iff (hk : s.described = some k) :
    floating s = [] ↔ isFloatingComment k = false := by
  simp only [floating, hk]
  cases isFloatingComment k <;> simp

theorem purpose_eq_nil_iff (hk : s.described = some k) :
    purpose s = [] ↔ k.isComposite = true := by
  simp only [purpose, hk, Kind.isComposite, Kind.isToken]
  cases k.shape <;> simp

theorem roles_eq_nil_iff (hk : s.described = some k) (hcomposite : k.isComposite = true) :
    roles s = [] ↔ rolesClass? k.roles = none := by
  simp only [roles, hk, hcomposite]
  cases rolesClass? k.roles <;> simp

theorem position_eq_nil_iff (hk : s.described = some k) (hcomposite : k.isComposite = true) :
    position s = [] ↔ k.positional = [] := by
  simp only [position, hk, hcomposite, Bool.true_and]
  cases k.positional with
  | nil => simp
  | cons c cs => cases k.direct.isEmpty <;> simp

theorem candidates_of_not_described (h : s.described = none) :
    candidates s = [exception s, [], [], [], [], []] := by
  simp only [candidates, floating, purpose, category, roles, position, h]

/-! ## What they look for -/

theorem isFloatingComment_iff : isFloatingComment k = true ↔
    k.anywhere = true ∧ ∃ pre post, k.name.toList = pre ++ "comment".toList ++ post := by
  rw [isFloatingComment, Bool.and_eq_true, Text.contains, Text.containsList_iff]

theorem categoryClasses_eq_nil_iff : categoryClasses k = [] ↔
    ∀ name ∈ k.categories, categoryClass? (bareCategory name) = none :=
  List.filterMap_eq_nil_iff

/-- Roles that tell a class. -/
def Telling (roles : Names) : Prop :=
  ("name" ∈ roles ∧ "body" ∈ roles) ∨
  ("condition" ∈ roles ∧ "consequence" ∈ roles) ∨
  ("condition" ∈ roles ∧ "body" ∈ roles) ∨
  ("left" ∈ roles ∧ "right" ∈ roles ∧ "operator" ∈ roles) ∨
  ("type" ∈ roles ∧ ("declarator" ∈ roles ∨ "value" ∈ roles ∨ "default" ∈ roles))

theorem isSome_rolesClass?_iff {roles : Names} :
    (rolesClass? roles).isSome = true ↔ Telling roles := by
  simp only [rolesClass?, dataRoles, List.contains_iff_mem, Bool.and_eq_true, Bool.or_eq_true,
    List.any_cons, List.any_nil, Bool.or_false]
  split
  · rename_i hnamed
    exact iff_of_true rfl (.inl hnamed)
  rename_i hnamed
  split
  · rename_i hbranch
    obtain ⟨hcondition, hconsequence | hbody⟩ := hbranch
    · exact iff_of_true rfl (.inr (.inl ⟨hcondition, hconsequence⟩))
    · exact iff_of_true rfl (.inr (.inr (.inl ⟨hcondition, hbody⟩)))
  rename_i hbranch
  split
  · rename_i hoperation
    obtain ⟨⟨hleft, hright⟩, hoperator⟩ := hoperation
    exact iff_of_true rfl (.inr (.inr (.inr (.inl ⟨hleft, hright, hoperator⟩))))
  rename_i hoperation
  split
  · rename_i hdata
    exact iff_of_true rfl (.inr (.inr (.inr (.inr hdata))))
  rename_i hdata
  refine iff_of_false nofun ?_
  rintro (h | ⟨hcondition, h⟩ | ⟨hcondition, h⟩ | ⟨hleft, hright, h⟩ | h)
  · exact hnamed h
  · exact hbranch ⟨hcondition, .inl h⟩
  · exact hbranch ⟨hcondition, .inr h⟩
  · exact hoperation ⟨⟨hleft, hright⟩, h⟩
  · exact hdata h

theorem rolesClass?_eq_none_iff {roles : Names} : rolesClass? roles = none ↔ ¬ Telling roles := by
  rw [← isSome_rolesClass?_iff, Option.not_isSome_iff_eq_none]

end Signal

namespace Subject

open Signal

theorem classify?_eq_none_iff_flatten (s : Subject) (t : Taxonomy) :
    s.classify? t = none ↔ (candidates s).flatten = [] :=
  (settle_eq_none_iff t _).trans Verdict.aggregate_eq_none_iff

theorem flatten_eq_nil_of_described {s : Subject} {k : Kind} (hk : s.described = some k) :
    (candidates s).flatten = [] ↔ exceptionClass? s.kind s.language = none ∧
      k.isComposite = true ∧ isFloatingComment k = false ∧ categoryClasses k = [] ∧
      rolesClass? k.roles = none ∧ k.positional = [] := by
  simp only [candidates, List.flatten_cons, List.flatten_nil, List.append_eq_nil_iff, and_true,
    exception_eq_nil_iff, floating_eq_nil_iff hk, purpose_eq_nil_iff hk, category_eq_nil_iff hk]
  -- the last two signals are read off composites only
  constructor
  · rintro ⟨hexception, hfloating, hcomposite, hcategory, hroles, hposition⟩
    rw [roles_eq_nil_iff hk hcomposite] at hroles
    rw [position_eq_nil_iff hk hcomposite] at hposition
    exact ⟨hexception, hcomposite, hfloating, hcategory, hroles, hposition⟩
  · rintro ⟨hexception, hcomposite, hfloating, hcategory, hroles, hposition⟩
    rw [← roles_eq_nil_iff hk hcomposite] at hroles
    rw [← position_eq_nil_iff hk hcomposite] at hposition
    exact ⟨hexception, hfloating, hcomposite, hcategory, hroles, hposition⟩

theorem isSome_classify?_of_token {s : Subject} {k : Kind} (t : Taxonomy)
    (hk : s.described = some k) (htoken : k.isToken = true) : (s.classify? t).isSome = true := by
  rw [Option.isSome_iff_ne_none, ne_eq, classify?_eq_none_iff_flatten,
    flatten_eq_nil_of_described hk]
  rintro ⟨-, hcomposite, -⟩
  rw [Kind.isComposite, htoken] at hcomposite
  cases hcomposite

/-- A kind has no verdict exactly if it is not an exception and either the grammar does not describe
it, or it is a composite that is not a comment that may stand anywhere, none of whose categories
has a class, whose roles tell none, and that takes no children by position. So every token that a
grammar of a classifier describes has a verdict. -/
theorem classify?_eq_none_iff :
    (∀ (s : Subject) (t : Taxonomy), s.classify? t = none ↔
      exceptionClass? s.kind s.language = none ∧ (s.described = none ∨
        ∃ k, s.described = some k ∧ k.isComposite = true ∧
          ¬ (k.anywhere = true ∧ ∃ pre post, k.name.toList = pre ++ "comment".toList ++ post) ∧
          (∀ name ∈ k.categories, categoryClass? (bareCategory name) = none) ∧
          ¬ Telling k.roles ∧ k.positional = [])) ∧
    ∀ (c : Classifier) (kind : String) (l : Language) (k : Kind),
      c.grammars.kind? kind l = some k → k.isToken = true →
        (c.fromGrammar? kind l).isSome = true := by
  refine ⟨fun s t => ?_, fun c kind l k hk htoken => ?_⟩
  · rw [classify?_eq_none_iff_flatten]
    cases hk : s.described with
    | none =>
      rw [candidates_of_not_described hk]
      simp [exception_eq_nil_iff]
    | some k =>
      simp only [flatten_eq_nil_of_described hk, ← categoryClasses_eq_nil_iff,
        ← rolesClass?_eq_none_iff, ← isFloatingComment_iff, Bool.not_eq_true, reduceCtorEq,
        false_or, Option.some.injEq, exists_eq_left']
  · exact isSome_classify?_of_token c.taxonomy hk htoken

end Subject

namespace Sample

/-- A list that may stand anywhere, with items in a role that tells nothing, and a comma. -/
def listGrammar : Grammar where
  language := .go
  kinds :=
    [("pair_list", ⟨"pair_list", .go, ["__list"],
      .composite [⟨some "item", ["pair"], .requiredMultiple⟩] [], true, true⟩),
     (",", ⟨",", .go, [], .token .trivial, false, false⟩)]

def listClassifier : Classifier :=
  { taxonomy := .builtin, overrides := .empty
    grammars := { bundled := fun _ => some listGrammar } }

end Sample

namespace Subject

open Signal

/-- The list has no verdict, though the grammar describes it, and the comma has one. -/
theorem pairList_silent : Sample.listClassifier.fromGrammar? "pair_list" .go = none ∧
    (Sample.listClassifier.fromGrammar? "," .go).isSome = true := by
  constructor
  · apply (classify?_eq_none_iff.1 (Sample.listClassifier.subject "pair_list" .go) _).2
    refine ⟨rfl, .inr ⟨_, rfl, rfl, mt isFloatingComment_iff.2 (by decide), by decide, ?_, rfl⟩⟩
    exact rolesClass?_eq_none_iff.1 (by decide)
  · exact classify?_eq_none_iff.2 Sample.listClassifier "," .go _ rfl rfl

end Subject

end CodeChunks
