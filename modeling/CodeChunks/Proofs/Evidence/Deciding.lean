import CodeChunks.Proofs.Evidence.Combined
import CodeChunks.Proofs.Evidence.Silence

/-!
# The signal that decides

The class of a kind is that of the candidate with the highest score, unless a signal decided alone
before it was reached. The roles of the children have a higher score than categories that disagree,
than a single category and than the guess from positions. So a name and a body make a callable,
unless two categories agree before the roles are asked, being `Unanimous`. The guess has a fixed
score, but categories lose ten hundredths with every further class: from three classes on the guess
wins over them.
-/

namespace CodeChunks

namespace Verdict

variable {first v w : Verdict} {before after rest vs : List Verdict}

theorem winner_mem (first : Verdict) (vs : List Verdict) : winner first vs ∈ first :: vs := by
  rw [← fst_pick first [] vs]
  exact (firstBest_pick first vs).mem_iff.2 List.mem_cons_self

theorem score_le_winner (h : v ∈ first :: vs) : v.score ≤ (winner first vs).score := by
  rw [← fst_pick first [] vs]
  exact (firstBest_pick first vs).score_le h

theorem percent_lt_of_score (h : v.score ≤ w.score)
    (hstrongest : w.evidence.strongest < v.evidence.strongest) : v.percent < w.percent := by
  rcases Prod.Lex.toLex_le_toLex.1 h with h | ⟨-, h⟩
  · exact h
  · exact absurd h (not_le.2 hstrongest)

/-- A candidate wins if it beats those before it and is beaten by none after it. -/
theorem winner_of_leads (hsplit : first :: rest = before ++ w :: after)
    (hbefore : ∀ v ∈ before, w.beats v = true) (hafter : ∀ v ∈ after, v.beats w = false) :
    winner first rest = w := by
  cases before with
  | nil =>
    obtain ⟨rfl, rfl⟩ := List.cons.inj hsplit
    exact winner_of_not_beats hafter
  | cons u before =>
    obtain ⟨rfl, rfl⟩ := List.cons.inj hsplit
    show winner first (before ++ w :: after) = w
    rw [winner_append, winner_cons, if_pos (hbefore _ (winner_mem first before))]
    exact winner_of_not_beats hafter

theorem exists_aggregate (t : Taxonomy) (first : Verdict) (rest : List Verdict) :
    ∃ r, aggregate t (first :: rest) = some r ∧ r.cls = (winner first rest).cls ∧
      r.method = (winner first rest).method := by
  rw [← fst_pick first [] rest]
  exact ⟨_, aggregate_eq t first rest, rfl, rfl⟩

end Verdict

namespace Signal

variable {t : Taxonomy} {signals : List (List Verdict)} {v w r : Verdict}
  {before after skipped : List Verdict}

/-! ## What a list of signals comes to -/

theorem confident_of_shortcut? (h : shortcut? signals = some (v, skipped)) :
    confident ≤ v.percent := by
  fun_induction shortcut? signals with
  | case1 rest ih => exact ih h
  | case2 w rest hw =>
    cases h
    exact hw
  | case3 => cases h
  | case4 => cases h

theorem exists_of_settle (h : settle t [] signals = some r) : ∃ v ∈ signals.flatten,
    r.method = v.method ∧ (confident ≤ v.percent ∨ ∀ u ∈ signals.flatten, u.score ≤ v.score) := by
  rw [settle_nil] at h
  cases hshort : shortcut? signals with
  | some found =>
    obtain ⟨v, skipped⟩ := found
    rw [hshort] at h
    cases h
    rw [flatten_of_shortcut? hshort]
    exact ⟨r, List.mem_cons_self, rfl, .inl (confident_of_shortcut? hshort)⟩
  | none =>
    rw [hshort] at h
    dsimp only at h
    cases hflatten : signals.flatten with
    | nil =>
      rw [hflatten] at h
      cases h
    | cons first rest =>
      obtain ⟨r', hr', -, hmethod⟩ := Verdict.exists_aggregate t first rest
      rw [hflatten, hr'] at h
      cases h
      exact ⟨_, Verdict.winner_mem first rest, hmethod, .inr fun u => Verdict.score_le_winner⟩

/-- The verdict is that of a candidate that beats those before it and is beaten by none after it,
if no candidate before it is confident. -/
theorem settle_of_leads (t : Taxonomy) (hsplit : signals.flatten = before ++ w :: after)
    (hbefore : ∀ v ∈ before, w.beats v = true) (hunsure : ∀ v ∈ before, v.percent < confident)
    (hafter : ∀ v ∈ after, v.beats w = false) :
    ∃ r, settle t [] signals = some r ∧ r.cls = w.cls ∧ r.method = w.method := by
  rw [settle_nil]
  cases hshort : shortcut? signals with
  | some found =>
    obtain ⟨v, skipped⟩ := found
    have hv := confident_of_shortcut? hshort
    have hflatten := hsplit.symm.trans (flatten_of_shortcut? hshort)
    cases before with
    | nil =>
      obtain ⟨rfl, -⟩ := List.cons.inj hflatten
      exact ⟨w, rfl, rfl, rfl⟩
    | cons u before =>
      -- what decides alone is confident, and the first candidate is not
      obtain ⟨rfl, -⟩ := List.cons.inj hflatten
      have hu := hunsure u List.mem_cons_self
      omega
  | none =>
    obtain ⟨first, rest, hflatten⟩ : ∃ first rest, signals.flatten = first :: rest :=
      List.exists_cons_of_ne_nil (by simp [hsplit])
    have hwinner := Verdict.winner_of_leads (hflatten.symm.trans hsplit) hbefore hafter
    obtain ⟨r, hr, hcls, hmethod⟩ := Verdict.exists_aggregate t first rest
    rw [hwinner] at hcls hmethod
    dsimp only
    rw [hflatten]
    exact ⟨r, hr, hcls, hmethod⟩

/-! ## Scores against each other -/

variable {s : Subject} {k : Kind} {g : Verdict}

/-- Categories of three classes fall behind the guess, and those of fewer do not. -/
theorem percent_of_mem_category (hk : s.described = some k) (hv : v ∈ category s) :
    (3 ≤ (distinctClasses k).length ∧ v.percent ≤ 60) ∨
      ((distinctClasses k).length ≤ 2 ∧ 70 ≤ v.percent) := by
  rw [category_eq hk] at hv
  obtain ⟨c, hc, rfl⟩ := List.mem_map.1 hv
  have hagreeing : 0 < ((categoryClasses k).filter (· == c)).length :=
    List.length_pos_of_mem (List.mem_filter.2 ⟨mem_distinctClasses.1 hc, beq_self_eq_true c⟩)
  rw [Verdict.percent_eq, EvidenceSet.weight_single]
  simp only [Evidence.weight, categoryAdjustment]
  -- eighty, less ten for each class beyond the first; or, with one class, at least eighty
  split
  all_goals omega

theorem guess_of_mem_position (h : g ∈ position s) :
    65 ≤ g.percent ∧ g.evidence.strongest = 10 ∧ g.method = .positional := by
  unfold position at h
  split at h
  · split at h
    · split at h
      all_goals
        obtain rfl := List.mem_singleton.1 h
        rw [Verdict.percent_eq, EvidenceSet.weight_single, EvidenceSet.strongest_single]
        decide
    · cases h
  · cases h

theorem exists_position (hk : s.described = some k) (hcomposite : k.isComposite = true)
    (hpositional : k.positional ≠ []) : ∃ g, position s = [g] := by
  have hsome : (true && !k.positional.isEmpty) = true := by simpa using hpositional
  simp only [position, hk, hcomposite, hsome, if_true]
  split
  · exact ⟨_, rfl⟩
  · exact ⟨_, rfl⟩

theorem mem_position_of_method (hv : v ∈ (candidates s).flatten)
    (hmethod : v.method = .positional) : v ∈ position s := by
  simp only [candidates, List.flatten_cons, List.flatten_nil, List.mem_append,
    List.not_mem_nil, or_false] at hv
  rcases hv with hv | hv | hv | hv | hv | hv
  · unfold exception at hv
    split at hv <;> simp_all
  · unfold floating at hv
    repeat' split at hv
    all_goals simp_all
  · unfold purpose at hv
    repeat' split at hv
    all_goals simp_all
  · unfold category at hv
    split at hv
    · obtain ⟨c, -, rfl⟩ := List.mem_map.1 hv
      cases hmethod
    · cases hv
  · unfold roles at hv
    repeat' split at hv
    all_goals simp_all
  · exact hv

/-- What is left to be asked about a composite that is neither an exception nor a comment that may
stand anywhere. -/
theorem candidates_of_composite (hk : s.described = some k) (hcomposite : k.isComposite = true)
    (hexception : exceptionClass? s.kind s.language = none)
    (hfloating : isFloatingComment k = false) :
    candidates s = [[], [], [], category s, roles s, position s] := by
  rw [candidates, exception_eq_nil_iff.2 hexception, (floating_eq_nil_iff hk).2 hfloating,
    (purpose_eq_nil_iff hk).2 hcomposite]

/-! ## A name and a body -/

/-- Two or more categories have a class, and all of them the same. -/
def Unanimous (k : Kind) (c : CoreClass) : Prop :=
  2 ≤ (categoryClasses k).length ∧ ∀ x ∈ categoryClasses k, x = c

theorem percent_lt_of_not_unanimous (hk : s.described = some k) (h : ∀ c, ¬ Unanimous k c)
    (hv : v ∈ category s) : v.percent < confident := by
  rw [confident]
  rcases categoryClasses_cases k with hnil | ⟨hne, ⟨c, hc⟩ | hdisagree⟩
  · rw [(category_eq_nil_iff hk).2 hnil] at hv
    cases hv
  · have hone : ¬ 2 ≤ (categoryClasses k).length := fun htwo => h c ⟨htwo, hc⟩
    obtain ⟨u, hu, -, hpercent⟩ := category_of_agreeing hk hne hc
    rw [hu, List.mem_singleton] at hv
    subst hv
    omega
  · have := (category_of_disagreeing hk hne hdisagree).2 v hv
    omega

theorem rolesClass?_of_name_and_body {roles : Names}
    (h : ∀ role, role ∈ roles ↔ role = "name" ∨ role = "body") :
    rolesClass? roles = some .definitionCallable := by
  have hcontains : ∀ role, roles.contains role = (role == "name" || role == "body") := by
    intro role
    rw [Bool.eq_iff_iff, List.contains_iff_mem, h]
    simp
  simp only [rolesClass?, hcontains]
  decide

/-! ## The guess -/

theorem exists_of_mem_position (h : g ∈ position s) :
    ∃ k, s.described = some k ∧ k.isComposite = true ∧ k.positional ≠ [] := by
  unfold position at h
  split at h
  · rename_i k hk
    split at h
    · rename_i hpositional
      simp only [Bool.and_eq_true, Bool.not_eq_true', List.isEmpty_eq_false_iff] at hpositional
      exact ⟨k, hk, hpositional⟩
    · cases h
  · cases h

theorem rivals_of_guess (hg : g ∈ position s)
    (hhighest : ∀ u ∈ (candidates s).flatten, u.score ≤ g.score) :
    exception s = [] ∧ floating s = [] ∧ roles s = [] ∧
      ∀ u ∈ category s, u.percent < g.percent := by
  have hlow := percent_of_mem_position hg
  have hweak := (guess_of_mem_position hg).2.1
  simp only [candidates, List.flatten_cons, List.mem_append] at hhighest
  simp only [List.eq_nil_iff_forall_not_mem]
  refine ⟨fun u hu => ?_, fun u hu => ?_, fun u hu => ?_, fun u hu => ?_⟩
  · have hle := Verdict.percent_le_of_score (hhighest u (.inl hu))
    have hscore := score_of_mem_exception hu
    omega
  · have hle := Verdict.percent_le_of_score (hhighest u (.inr (.inl hu)))
    have hscore := score_of_mem_floating hu
    omega
  · have hle := Verdict.percent_le_of_score (hhighest u (.inr (.inr (.inr (.inr (.inl hu))))))
    have hscore := score_of_mem_roles hu
    omega
  · -- at the same percentage a category would be ahead by its evidence
    have hstrongest := strongest_of_mem_category hu
    exact Verdict.percent_lt_of_score (hhighest u (.inr (.inr (.inr (.inl hu))))) (by omega)

end Signal

namespace Sample

/-- A function with a name, a body and modifiers, and with categories of three classes. -/
def localFunction : Kind :=
  { name := "local_function", language := .kotlin
    categories := ["_declaration", "_expression", "_local", "_statement", "declaration"]
    shape := .composite
      [⟨some "body", ["block"], .requiredSingle⟩, ⟨some "name", ["identifier"], .requiredSingle⟩]
      [⟨none, ["modifier"], .optionalMultiple⟩]
    anywhere := false, explicit := true }

/-- A function with a name and a body, which is an expression in two ways. -/
def functionExpression : Kind :=
  { name := "function_expression", language := .javaScript
    categories := ["expression", "primary_expression"]
    shape := .composite
      [⟨some "body", ["statement_block"], .requiredSingle⟩,
       ⟨some "name", ["identifier"], .optionalSingle⟩] []
    anywhere := false, explicit := true }

/-- A macro call, which may stand for an expression, a pattern or a type. -/
def macroInvocation : Kind :=
  { name := "macro_invocation", language := .rust
    categories := ["_expression", "_pattern", "_type"]
    shape := .composite [⟨some "macro", ["identifier"], .requiredSingle⟩]
      [⟨none, ["token_tree"], .requiredSingle⟩]
    anywhere := false, explicit := true }

end Sample

namespace Subject

open Signal

def ofKind (k : Kind) : Subject := ⟨k.name, k.language, some k⟩

/-- A composite whose roles are a name and a body is a callable, if it is neither an exception nor
a comment that may stand anywhere, and unless two or more of its categories have a class and all of
them the same. Then it is of that class. -/
theorem cls_of_name_and_body (t : Taxonomy) {s : Subject} {k : Kind} (hk : s.described = some k)
    (hcomposite : k.isComposite = true)
    (hroles : ∀ role, role ∈ k.roles ↔ role = "name" ∨ role = "body")
    (hexception : exceptionClass? s.kind s.language = none)
    (hfloating : isFloatingComment k = false) :
    (∀ c, Unanimous k c → ∃ r, s.classify? t = some r ∧ r.cls = .core c) ∧
    ((∀ c, ¬ Unanimous k c) →
      ∃ r, s.classify? t = some r ∧ r.cls = .core .definitionCallable) := by
  have hcandidates := candidates_of_composite hk hcomposite hexception hfloating
  refine ⟨fun c hunanimous => ?_, fun hnone => ?_⟩
  · obtain ⟨htwo, hall⟩ := hunanimous
    have hne : categoryClasses k ≠ [] := List.ne_nil_of_length_pos (by omega)
    obtain ⟨v, hv, hcls, hpercent⟩ := category_of_agreeing hk hne hall
    have hconfident : confident ≤ v.percent := by
      rw [confident]
      omega
    refine ⟨v, ?_, hcls⟩
    show settle t [] (candidates s) = some v
    rw [hcandidates, hv]
    exact if_pos hconfident
  · have hclass := rolesClass?_of_name_and_body hroles
    rcases roles_of_composite hk hcomposite with ⟨hsilent, -⟩ | ⟨d, w, hd, hw, hcls⟩
    · rw [hclass] at hsilent
      cases hsilent
    obtain rfl : .definitionCallable = d := Option.some.inj (hclass.symm.trans hd)
    have hscore := score_of_mem_roles (s := s) (v := w) (by simp [hw])
    have hsplit : (candidates s).flatten = category s ++ w :: position s := by
      simp [hcandidates, hw]
    have hunsure : ∀ v ∈ category s, v.percent < confident := by
      intro v hv
      exact percent_lt_of_not_unanimous hk hnone hv
    have hbefore : ∀ v ∈ category s, w.beats v = true := by
      intro v hv
      have hv := hunsure v hv
      rw [confident] at hv
      exact Verdict.beats_iff.2 (.inl (by omega))
    have hafter : ∀ v ∈ position s, v.beats w = false := by
      intro v hv
      have hv := percent_of_mem_position hv
      exact Verdict.not_beats_of_percent_lt (by omega)
    obtain ⟨r, hr, hrcls, -⟩ := settle_of_leads t hsplit hbefore hunsure hafter
    exact ⟨r, hr, hrcls.trans hcls⟩

/-- The function with modifiers is a callable. -/
theorem localFunction_callable : ∃ r, (ofKind Sample.localFunction).classify? .builtin = some r ∧
    r.cls = .core .definitionCallable := by
  refine (cls_of_name_and_body .builtin rfl rfl (fun role => ?_) rfl (by decide)).2 ?_
  · show role ∈ ["body", "name"] ↔ _
    simp [or_comm]
  · rintro c ⟨-, hall⟩
    have hdata : .definitionData = c := hall _ (by decide)
    have hoperator : .operationOperator = c := hall _ (by decide)
    cases hdata.trans hoperator.symm

/-- The function that is an expression in two ways is an operation and not a callable. -/
theorem functionExpression_not_callable :
    Sample.functionExpression.isComposite = true ∧
    (∀ role, role ∈ Sample.functionExpression.roles ↔ role = "name" ∨ role = "body") ∧
    exceptionClass? Sample.functionExpression.name Sample.functionExpression.language = none ∧
    isFloatingComment Sample.functionExpression = false ∧
    ∃ r, (ofKind Sample.functionExpression).classify? .builtin = some r ∧
      r.cls = .core .operationOperator ∧ r.cls ≠ .core .definitionCallable := by
  refine ⟨rfl, fun role => ?_, rfl, by decide, _, rfl, rfl, by decide⟩
  show role ∈ ["body", "name"] ↔ _
  simp [or_comm]

theorem classify?_of_three_classes (t : Taxonomy) {s : Subject} {k : Kind}
    (hk : s.described = some k) (hcomposite : k.isComposite = true)
    (hexception : exceptionClass? s.kind s.language = none)
    (hfloating : isFloatingComment k = false) (hroles : rolesClass? k.roles = none)
    (hpositional : k.positional ≠ []) (hthree : 3 ≤ (distinctClasses k).length) :
    ∃ r, s.classify? t = some r ∧ r.method = .positional := by
  obtain ⟨g, hg⟩ := exists_position hk hcomposite hpositional
  obtain ⟨hhigh, -, hmethod⟩ := guess_of_mem_position (s := s) (g := g) (by simp [hg])
  have hsplit : (candidates s).flatten = category s ++ g :: [] := by
    simp [candidates_of_composite hk hcomposite hexception hfloating,
      (roles_eq_nil_iff hk hcomposite).2 hroles, hg]
  have hbehind : ∀ v ∈ category s, v.percent ≤ 60 := by
    intro v hv
    have hv := percent_of_mem_category hk hv
    omega
  have hbefore : ∀ v ∈ category s, g.beats v = true := by
    intro v hv
    have hv := hbehind v hv
    exact Verdict.beats_iff.2 (.inl (by omega))
  have hunsure : ∀ v ∈ category s, v.percent < confident := by
    intro v hv
    have hv := hbehind v hv
    rw [confident]
    omega
  obtain ⟨r, hr, -, hrmethod⟩ := settle_of_leads t hsplit hbefore hunsure (List.forall_mem_nil _)
  exact ⟨r, hr, hrmethod.trans hmethod⟩

/-- If categories or roles give a candidate, there is a verdict, and it is the guess from positions
exactly for a composite that is neither an exception nor a comment that may stand anywhere, whose
roles tell no class, which takes children by position and whose categories are of three or more
classes. -/
theorem guess_decides_iff (t : Taxonomy) {s : Subject} (hrival : category s ≠ [] ∨ roles s ≠ []) :
    ∃ r, s.classify? t = some r ∧ (r.method = .positional ↔
      exceptionClass? s.kind s.language = none ∧ ∃ k, s.described = some k ∧
        k.isComposite = true ∧ isFloatingComment k = false ∧ rolesClass? k.roles = none ∧
        k.positional ≠ [] ∧ 3 ≤ (distinctClasses k).length) := by
  obtain ⟨r, hr⟩ : ∃ r, s.classify? t = some r := by
    apply Option.ne_none_iff_exists'.1
    rw [ne_eq, classify?_eq_none_iff_flatten]
    rcases hrival with h | h <;> simp [candidates, h]
  refine ⟨r, hr, fun hmethod => ?_, ?_⟩
  · obtain ⟨g, hmem, hgmethod, hleads⟩ := exists_of_settle hr
    have hg : g ∈ position s := mem_position_of_method hmem (hgmethod.symm.trans hmethod)
    have hlow := percent_of_mem_position hg
    have hhighest : ∀ u ∈ (candidates s).flatten, u.score ≤ g.score :=
      hleads.resolve_left (by rw [confident]; omega)
    obtain ⟨hexception, hfloating, hroles, hcategory⟩ := rivals_of_guess hg hhighest
    obtain ⟨k, hk, hcomposite, hpositional⟩ := exists_of_mem_position hg
    refine ⟨exception_eq_nil_iff.1 hexception, k, hk, hcomposite,
      (floating_eq_nil_iff hk).1 hfloating, (roles_eq_nil_iff hk hcomposite).1 hroles,
      hpositional, ?_⟩
    obtain ⟨u, hu⟩ := List.exists_mem_of_ne_nil _ (hrival.resolve_right (not_not_intro hroles))
    have hbehind := hcategory u hu
    have hu := percent_of_mem_category hk hu
    omega
  · rintro ⟨hexception, k, hk, hcomposite, hfloating, hroles, hpositional, hthree⟩
    obtain ⟨r', hr', hmethod⟩ :=
      classify?_of_three_classes t hk hcomposite hexception hfloating hroles hpositional hthree
    obtain rfl : r = r' := Option.some.inj (hr.symm.trans hr')
    exact hmethod

/-- Three categories speak for a macro call, and yet the guess decides. -/
theorem macroInvocation_guessed : category (ofKind Sample.macroInvocation) ≠ [] ∧
    ∃ r, (ofKind Sample.macroInvocation).classify? .builtin = some r ∧ r.method = .positional := by
  have hcategory : category (ofKind Sample.macroInvocation) ≠ [] := by decide
  obtain ⟨r, hr, hguessed⟩ := guess_decides_iff .builtin (.inl hcategory)
  exact ⟨hcategory, r, hr,
    hguessed.2 ⟨rfl, _, rfl, rfl, by decide, by decide, by decide, by decide⟩⟩

end Subject

end CodeChunks
