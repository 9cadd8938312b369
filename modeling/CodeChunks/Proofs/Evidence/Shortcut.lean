import CodeChunks.Proofs.Evidence.Winner
import CodeChunks.Signal

/-!
# Signals that decide alone

A signal that gives a single confident verdict while nothing was found before decides alone
(`shortcut?`), and the signals after it are not asked. Mostly they would not have changed the class:
exceptions and floating comments have the highest score there is. The verdict is `Overruled` in two
cases only. Two categories of one class are as confident as the roles of the children, which have
the stronger evidence; and five categories of one class are more confident than the purpose of a
token.
-/

namespace CodeChunks

namespace Signal

/-! ## Deciding alone -/

/-- The verdict that decides alone, with the candidates of the signals after it. -/
def shortcut? : List (List Verdict) → Option (Verdict × List Verdict)
  | [] :: rest => shortcut? rest
  | [v] :: rest => if confident ≤ v.percent then some (v, rest.flatten) else none
  | _ => none

theorem settle_of_ne_nil (t : Taxonomy) {found : List Verdict} (h : found ≠ [])
    (signals : List (List Verdict)) :
    settle t found signals = Verdict.aggregate t (found ++ signals.flatten) := by
  induction signals generalizing found with
  | nil => rw [settle, List.flatten_nil, List.append_nil]
  | cons produced rest ih =>
    obtain ⟨v, vs, rfl⟩ := List.exists_cons_of_ne_nil h
    have hmore : v :: vs ++ produced ≠ [] := List.cons_ne_nil _ _
    have hstep : settle t (v :: vs) (produced :: rest) = settle t (v :: vs ++ produced) rest := rfl
    rw [hstep, ih hmore, List.flatten_cons, List.append_assoc]

theorem flatten_of_shortcut? {signals : List (List Verdict)} {v : Verdict} {skipped : List Verdict}
    (h : shortcut? signals = some (v, skipped)) : signals.flatten = v :: skipped := by
  fun_induction shortcut? signals with
  | case1 rest ih => exact ih h
  | case2 w rest hw =>
    cases h
    rfl
  | case3 => cases h
  | case4 => cases h

theorem settle_nil (t : Taxonomy) (signals : List (List Verdict)) : settle t [] signals =
    match shortcut? signals with
    | some (v, _) => some v
    | none => Verdict.aggregate t signals.flatten := by
  fun_induction shortcut? signals with
  | case1 rest ih => exact ih
  | case2 v rest hv => rw [settle, if_pos hv]
  | case3 v rest hv =>
    rw [settle, if_neg hv]
    exact settle_of_ne_nil t (List.cons_ne_nil v []) rest
  | case4 signals hempty hsingle =>
    match signals with
    | [] => rfl
    | [] :: rest => exact (hempty rest rfl).elim
    | [v] :: rest => exact (hsingle v rest rfl).elim
    | (v :: w :: vs) :: rest => exact settle_of_ne_nil t (List.cons_ne_nil v _) rest

theorem settle_eq_none_iff (t : Taxonomy) (signals : List (List Verdict)) :
    settle t [] signals = none ↔ Verdict.aggregate t signals.flatten = none := by
  rw [settle_nil]
  cases h : shortcut? signals with
  | none => rfl
  | some found =>
    rw [flatten_of_shortcut? h, Verdict.aggregate_eq_none_iff]
    simp

/-- A signal decides alone, but one that was not asked has a winner of another class. -/
def Overruled (signals : List (List Verdict)) : Prop :=
  ∃ v skipped, shortcut? signals = some (v, skipped) ∧ (Verdict.winner v skipped).cls ≠ v.cls

theorem cls_settle_ne_iff (t : Taxonomy) (signals : List (List Verdict)) :
    (settle t [] signals).map (·.cls) ≠
      (Verdict.aggregate t signals.flatten).map (·.cls) ↔ Overruled signals := by
  unfold Overruled
  rw [settle_nil]
  cases h : shortcut? signals with
  | none => simp
  | some found =>
    obtain ⟨v, skipped⟩ := found
    rw [flatten_of_shortcut? h, Verdict.cls_aggregate]
    constructor
    · intro hne
      exact ⟨v, skipped, rfl, fun heq => hne (congrArg some heq.symm)⟩
    · rintro ⟨v', skipped', heq, hne⟩ hcls
      cases heq
      exact hne (Option.some.inj hcls).symm

theorem overruled_cons_nil (rest : List (List Verdict)) : Overruled ([] :: rest) ↔ Overruled rest :=
  Iff.rfl

theorem overruled_cons_singleton (v : Verdict) (rest : List (List Verdict)) :
    Overruled ([v] :: rest) ↔
      confident ≤ v.percent ∧ (Verdict.winner v rest.flatten).cls ≠ v.cls := by
  unfold Overruled
  rw [shortcut?]
  constructor
  · rintro ⟨w, skipped, h, hne⟩
    split at h
    · cases h
      exact ⟨‹_›, hne⟩
    · cases h
  · rintro ⟨hv, hne⟩
    exact ⟨v, rest.flatten, if_pos hv, hne⟩

theorem not_overruled_many (v w : Verdict) (vs : List Verdict) (rest : List (List Verdict)) :
    ¬ Overruled ((v :: w :: vs) :: rest) := by
  rintro ⟨u, skipped, h, -⟩
  cases h

theorem not_overruled_last (vs : List Verdict) : ¬ Overruled [vs] := by
  match vs with
  | [] =>
    rintro ⟨v, skipped, h, -⟩
    cases h
  | [v] =>
    rw [overruled_cons_singleton]
    exact fun h => h.2 rfl
  | v :: w :: vs => exact not_overruled_many v w vs []

/-! ## Scores of candidates -/

theorem weight_certain : certain.weight = 130 := by decide

theorem strongest_certain : certain.strongest = 90 := by decide

theorem score_of_mem_exception {s : Subject} {v : Verdict} (h : v ∈ exception s) :
    v.percent = 100 ∧ v.evidence.strongest = 90 := by
  unfold exception at h
  split at h
  · obtain rfl := List.mem_singleton.1 h
    rw [Verdict.percent_eq, weight_certain]
    exact ⟨rfl, strongest_certain⟩
  · cases h

theorem score_of_mem_floating {s : Subject} {v : Verdict} (h : v ∈ floating s) :
    v.percent = 100 ∧ v.evidence.strongest = 90 := by
  unfold floating at h
  split at h
  · split at h
    · obtain rfl := List.mem_singleton.1 h
      rw [Verdict.percent_eq, weight_certain]
      exact ⟨rfl, strongest_certain⟩
    · cases h
  · cases h

/-- What a token is for counts for more than categories, unless it is a comment. -/
theorem purpose_of_token {s : Subject} {k : Kind} {g : Significance} (hk : s.described = some k)
    (hg : k.shape = .token g) : ∃ v, purpose s = [v] ∧ v.cls = .core (tokenClass k.name g) ∧
      v.percent = (if g = .comment then 75 else 95) ∧ v.evidence.strongest = 95 := by
  have hweight : (EvidenceSet.ofList [.purpose, .specificThing]).weight = 185 := by decide
  have hstrongest : (EvidenceSet.ofList [.purpose, .specificThing]).strongest = 95 := by decide
  unfold purpose
  rw [hk]
  dsimp only
  rw [hg]
  refine ⟨_, rfl, rfl, ?_, hstrongest⟩
  rw [Verdict.percent_eq, hweight]
  cases g <;> rfl

theorem percent_of_mem_purpose {s : Subject} {v : Verdict} (h : v ∈ purpose s) :
    v.percent ≤ 95 := by
  cases hk : s.described with
  | none =>
    rw [purpose, hk] at h
    cases h
  | some k =>
    cases hg : k.shape with
    | token g =>
      obtain ⟨w, hw, -, hpercent, -⟩ := purpose_of_token hk hg
      rw [hw] at h
      rw [List.mem_singleton.1 h, hpercent]
      split <;> decide
    | composite direct positional =>
      simp only [purpose, hk, hg] at h
      cases h

theorem roles_of_composite {s : Subject} {k : Kind} (hk : s.described = some k)
    (hc : k.isComposite = true) :
    rolesClass? k.roles = none ∧ roles s = [] ∨
      ∃ d v, rolesClass? k.roles = some d ∧ roles s = [v] ∧ v.cls = .core d := by
  unfold roles
  rw [hk]
  dsimp only
  rw [hc]
  cases rolesClass? k.roles with
  | none => exact .inl ⟨rfl, rfl⟩
  | some d => exact .inr ⟨d, _, rfl, rfl, rfl⟩

theorem score_of_mem_roles {s : Subject} {v : Verdict} (h : v ∈ roles s) :
    v.percent = 85 ∧ v.evidence.strongest = 85 := by
  have hweight : (EvidenceSet.ofList [.roles, .connections]).weight = 150 := by decide
  have hstrongest : (EvidenceSet.ofList [.roles, .connections]).strongest = 85 := by decide
  unfold roles at h
  split at h
  · split at h
    · obtain rfl := List.mem_singleton.1 h
      rw [Verdict.percent_eq, hweight]
      exact ⟨rfl, hstrongest⟩
    · cases h
  · cases h

theorem percent_of_mem_position {s : Subject} {v : Verdict} (h : v ∈ position s) :
    v.percent ≤ 70 := by
  unfold position at h
  split at h
  · split at h
    · split at h
      all_goals
        obtain rfl := List.mem_singleton.1 h
        rw [Verdict.percent_eq, EvidenceSet.weight_single]
        decide
    · cases h
  · cases h

/-! ### Categories -/

theorem mem_coreClasses (c : CoreClass) : c ∈ CoreClass.all := by
  cases c <;> decide

def distinctClasses (k : Kind) : List CoreClass :=
  CoreClass.all.filter (categoryClasses k).contains

theorem mem_distinctClasses {k : Kind} {c : CoreClass} :
    c ∈ distinctClasses k ↔ c ∈ categoryClasses k := by
  simp [distinctClasses, mem_coreClasses]

theorem distinctClasses_eq_singleton_iff {k : Kind} {c : CoreClass} : distinctClasses k = [c] ↔
    categoryClasses k ≠ [] ∧ ∀ x ∈ categoryClasses k, x = c := by
  constructor
  · intro h
    refine ⟨fun hnil => ?_, fun x hx => ?_⟩
    · have hc : c ∈ categoryClasses k := mem_distinctClasses.1 (h ▸ List.mem_singleton_self c)
      rw [hnil] at hc
      cases hc
    · have hx : x ∈ distinctClasses k := mem_distinctClasses.2 hx
      rw [h] at hx
      exact List.mem_singleton.1 hx
  · rintro ⟨hne, hall⟩
    have hcontains : ∀ x, (categoryClasses k).contains x = (x == c) := by
      intro x
      rw [Bool.eq_iff_iff, List.contains_iff_mem, beq_iff_eq]
      refine ⟨hall x, ?_⟩
      rintro rfl
      obtain ⟨y, hy⟩ := List.exists_mem_of_ne_nil _ hne
      exact hall y hy ▸ hy
    unfold distinctClasses
    rw [List.filter_congr fun x _ => hcontains x]
    cases c <;> decide

theorem category_eq {s : Subject} {k : Kind} (hk : s.described = some k) : category s =
    (distinctClasses k).map fun c => ⟨.core c, .category, .single .categories,
      categoryAdjustment (distinctClasses k).length
        ((categoryClasses k).filter (· == c)).length, []⟩ := by
  unfold category
  rw [hk]
  rfl

theorem category_eq_nil_iff {s : Subject} {k : Kind} (hk : s.described = some k) :
    category s = [] ↔ categoryClasses k = [] := by
  rw [category_eq hk, List.map_eq_nil_iff, List.eq_nil_iff_forall_not_mem,
    List.eq_nil_iff_forall_not_mem]
  simp only [mem_distinctClasses]

theorem strongest_of_mem_category {s : Subject} {v : Verdict} (h : v ∈ category s) :
    v.evidence.strongest = 80 := by
  unfold category at h
  split at h
  · obtain ⟨c, -, rfl⟩ := List.mem_map.1 h
    exact EvidenceSet.strongest_single .categories
  · cases h

theorem category_of_agreeing {s : Subject} {k : Kind} {c : CoreClass} (hk : s.described = some k)
    (hne : categoryClasses k ≠ []) (hall : ∀ x ∈ categoryClasses k, x = c) :
    ∃ v, category s = [v] ∧ v.cls = .core c ∧
      v.percent = min 100 (75 + 5 * ((categoryClasses k).length : Int)) := by
  have hclasses := distinctClasses_eq_singleton_iff.2 ⟨hne, hall⟩
  have hfilter : (categoryClasses k).filter (· == c) = categoryClasses k :=
    List.filter_eq_self.2 fun x hx => beq_iff_eq.2 (hall x hx)
  have hlength := List.length_pos_iff.2 hne
  rw [category_eq hk, hclasses, List.map_singleton, hfilter]
  refine ⟨_, rfl, rfl, ?_⟩
  rw [Verdict.percent_eq, EvidenceSet.weight_single]
  simp only [categoryAdjustment, Evidence.weight, List.length_singleton, Nat.lt_irrefl, if_false]
  omega

theorem category_of_disagreeing {s : Subject} {k : Kind} (hk : s.described = some k)
    (hne : categoryClasses k ≠ []) (h : ∀ c, ¬ ∀ x ∈ categoryClasses k, x = c) :
    (∃ v w vs, category s = v :: w :: vs) ∧ ∀ v ∈ category s, v.percent ≤ 70 := by
  rw [category_eq hk]
  match hclasses : distinctClasses k with
  | [] =>
    have hnil := (category_eq_nil_iff hk).1 (by rw [category_eq hk, hclasses]; rfl)
    exact absurd hnil hne
  | [c] => exact absurd (distinctClasses_eq_singleton_iff.1 hclasses).2 (h c)
  | c :: d :: cs =>
    refine ⟨⟨_, _, _, rfl⟩, fun v hv => ?_⟩
    obtain ⟨x, -, rfl⟩ := List.mem_map.1 hv
    have hmany : 1 < (c :: d :: cs).length := by simp
    rw [Verdict.percent_eq, EvidenceSet.weight_single]
    simp only [categoryAdjustment, Evidence.weight, if_pos hmany]
    omega

theorem categoryClasses_cases (k : Kind) : categoryClasses k = [] ∨
    categoryClasses k ≠ [] ∧ ((∃ c, ∀ x ∈ categoryClasses k, x = c) ∨
      ∀ c, ¬ ∀ x ∈ categoryClasses k, x = c) := by
  by_cases hne : categoryClasses k = []
  · exact .inl hne
  · refine .inr ⟨hne, ?_⟩
    rw [← not_exists]
    exact Classical.em _

/-! ## Which signals decide alone -/

theorem not_beats_certain {s : Subject} {v w : Verdict} (hv : v ∈ (candidates s).flatten)
    (hw : w.percent = 100 ∧ w.evidence.strongest = 90) : v.beats w = false := by
  simp only [candidates, List.flatten_cons, List.flatten_nil, List.mem_append,
    List.not_mem_nil, or_false] at hv
  have hle := v.percent_le
  rcases hv with hv | hv | hv | hv | hv | hv
  · have := score_of_mem_exception hv
    exact Verdict.not_beats_of_le (by omega) (by omega)
  · have := score_of_mem_floating hv
    exact Verdict.not_beats_of_le (by omega) (by omega)
  · have := percent_of_mem_purpose hv
    exact Verdict.not_beats_of_percent_lt (by omega)
  · have := strongest_of_mem_category hv
    exact Verdict.not_beats_of_le (by omega) (by omega)
  · have := score_of_mem_roles hv
    exact Verdict.not_beats_of_percent_lt (by omega)
  · have := percent_of_mem_position hv
    exact Verdict.not_beats_of_percent_lt (by omega)

/-- Exceptions and floating comments are never overruled. -/
theorem not_overruled_certain {s : Subject} (h : exception s ≠ [] ∨ floating s ≠ []) :
    ¬ Overruled (candidates s) := by
  rintro ⟨v, skipped, hv, hne⟩
  have hflatten := flatten_of_shortcut? hv
  have hcertain : v.percent = 100 ∧ v.evidence.strongest = 90 := by
    simp only [candidates, List.flatten_cons] at hflatten
    cases he : exception s with
    | cons w ws =>
      rw [he, List.cons_append] at hflatten
      have hw : w ∈ exception s := he ▸ List.mem_cons_self
      exact (List.cons.inj hflatten).1 ▸ score_of_mem_exception hw
    | nil =>
      have hf := h.resolve_left (absurd he)
      obtain ⟨w, ws, hws⟩ := List.exists_cons_of_ne_nil hf
      rw [he, hws, List.nil_append, List.cons_append] at hflatten
      have hw : w ∈ floating s := hws ▸ List.mem_cons_self
      exact (List.cons.inj hflatten).1 ▸ score_of_mem_floating hw
  have hkeeps : Verdict.winner v skipped = v := by
    apply Verdict.winner_of_not_beats
    intro w hw
    exact not_beats_certain (hflatten ▸ List.mem_cons_of_mem v hw) hcertain
  exact hne (congrArg Verdict.cls hkeeps)

theorem overruled_candidates {s : Subject} (he : exception s = []) (hf : floating s = []) :
    Overruled (candidates s) ↔ Overruled [purpose s, category s, roles s, position s] := by
  rw [candidates, he, hf, overruled_cons_nil, overruled_cons_nil]

/-- Five categories of one class win over the purpose of a token, which wins over four: they are as
confident, but on weaker evidence. -/
theorem cls_winner_category_ne_iff {s : Subject} {k : Kind} {p : Verdict} {a : CoreClass}
    (hk : s.described = some k) (hcls : p.cls = .core a) (hpercent : p.percent = 95)
    (hstrongest : p.evidence.strongest = 95) :
    (Verdict.winner p (category s)).cls ≠ p.cls ↔ 5 ≤ (categoryClasses k).length ∧
      ∃ c, (∀ x ∈ categoryClasses k, x = c) ∧ c ≠ a := by
  rcases categoryClasses_cases k with hnil | ⟨hne, ⟨c, hc⟩ | hdisagree⟩
  · rw [(category_eq_nil_iff hk).2 hnil, Verdict.winner_nil, hnil]
    simp
  · obtain ⟨v, hv, hvcls, hvpercent⟩ := category_of_agreeing hk hne hc
    have hvstrongest := strongest_of_mem_category (s := s) (v := v) (by simp [hv])
    rw [hv, Verdict.cls_winner_singleton_ne_iff, Verdict.beats_iff, hvcls, hcls]
    constructor
    · rintro ⟨hbeats, hdiffers⟩
      exact ⟨by omega, c, hc, fun heq => hdiffers (congrArg _ heq)⟩
    · rintro ⟨hfive, d, hd, hdiffers⟩
      obtain ⟨x, hx⟩ := List.exists_mem_of_ne_nil _ hne
      obtain rfl : d = c := (hd x hx).symm.trans (hc x hx)
      exact ⟨by omega, fun heq => hdiffers (CodeClass.core.inj heq)⟩
  · have hkeeps : Verdict.winner p (category s) = p := by
      apply Verdict.winner_of_not_beats
      intro v hv
      have := (category_of_disagreeing hk hne hdisagree).2 v hv
      exact Verdict.not_beats_of_percent_lt (by omega)
    rw [hkeeps]
    constructor
    · exact fun h => absurd rfl h
    · rintro ⟨-, c, hc, -⟩
      exact absurd hc (hdisagree c)

theorem overruled_token_iff {s : Subject} {k : Kind} {g : Significance}
    (hk : s.described = some k) (hg : k.shape = .token g) :
    Overruled [purpose s, category s, roles s, position s] ↔
      g ≠ .comment ∧ 5 ≤ (categoryClasses k).length ∧
        ∃ c, (∀ x ∈ categoryClasses k, x = c) ∧ c ≠ tokenClass k.name g := by
  have hcomposite : k.isComposite = false := by simp [Kind.isComposite, Kind.isToken, hg]
  have hroles : roles s = [] := by simp [roles, hk, hcomposite]
  have hposition : position s = [] := by simp [position, hk, hcomposite]
  obtain ⟨p, hp, hcls, hpercent, hstrongest⟩ := purpose_of_token hk hg
  have hskipped : [category s, roles s, position s].flatten = category s := by
    simp [hroles, hposition]
  rw [hp, overruled_cons_singleton, hskipped, confident]
  by_cases hcomment : g = .comment
  · rw [if_pos hcomment] at hpercent
    constructor
    · intro h
      omega
    · exact fun h => absurd hcomment h.1
  · rw [if_neg hcomment] at hpercent
    rw [cls_winner_category_ne_iff hk hcls hpercent hstrongest]
    exact and_congr_left fun _ => iff_of_true (by omega) hcomment

/-- Positions are never confident enough to change a winner. -/
theorem winner_append_position {s : Subject} {v : Verdict} (h : 70 < v.percent)
    (vs : List Verdict) : Verdict.winner v (vs ++ position s) = Verdict.winner v vs := by
  have hle := v.percent_le_winner vs
  rw [Verdict.winner_append]
  apply Verdict.winner_of_not_beats
  intro w hw
  have := percent_of_mem_position hw
  exact Verdict.not_beats_of_percent_lt (by omega)

theorem not_overruled_roles {s : Subject} {k : Kind} (hk : s.described = some k)
    (hcomposite : k.isComposite = true) : ¬ Overruled [roles s, position s] := by
  rcases roles_of_composite hk hcomposite with ⟨-, hroles⟩ | ⟨d, w, -, hroles, -⟩
  · rw [hroles, overruled_cons_nil]
    exact not_overruled_last _
  · have hw := score_of_mem_roles (s := s) (v := w) (by simp [hroles])
    have hkeeps : Verdict.winner w (position s) = w := winner_append_position (by omega) []
    rw [hroles, overruled_cons_singleton, List.flatten_singleton, hkeeps]
    exact fun h => h.2 rfl

theorem overruled_category_iff {s : Subject} {k : Kind} {v : Verdict} {c : CoreClass}
    (hk : s.described = some k) (hcomposite : k.isComposite = true) (hcls : v.cls = .core c)
    (hstrongest : v.evidence.strongest = 80) :
    Overruled [[v], roles s, position s] ↔
      v.percent = 85 ∧ ∃ d, rolesClass? k.roles = some d ∧ d ≠ c := by
  have hskipped : [roles s, position s].flatten = roles s ++ position s := by simp
  rw [overruled_cons_singleton, hskipped, confident]
  by_cases hv : 85 ≤ v.percent
  · rw [winner_append_position (by omega)]
    rcases roles_of_composite hk hcomposite with ⟨hnone, hroles⟩ | ⟨d, w, hd, hroles, hwcls⟩
    · rw [hnone, hroles, Verdict.winner_nil]
      simp
    · have hw := score_of_mem_roles (s := s) (v := w) (by simp [hroles])
      rw [hd, hroles, Verdict.cls_winner_singleton_ne_iff, Verdict.beats_iff, hwcls, hcls]
      constructor
      · rintro ⟨-, hbeats, hdiffers⟩
        exact ⟨by omega, d, rfl, fun heq => hdiffers (congrArg _ heq)⟩
      · rintro ⟨hpercent, d', heq, hdiffers⟩
        cases heq
        exact ⟨hv, by omega, fun heq => hdiffers (CodeClass.core.inj heq)⟩
  · constructor
    · exact fun h => absurd h.1 hv
    · rintro ⟨hpercent, -⟩
      omega

theorem overruled_composite_iff {s : Subject} {k : Kind} (hk : s.described = some k)
    (hcomposite : k.isComposite = true) :
    Overruled [purpose s, category s, roles s, position s] ↔
      ∃ c d, categoryClasses k = [c, c] ∧ rolesClass? k.roles = some d ∧ d ≠ c := by
  have hpurpose : purpose s = [] := by
    cases hshape : k.shape with
    | token g => simp [Kind.isComposite, Kind.isToken, hshape] at hcomposite
    | composite direct positional => simp [purpose, hk, hshape]
  rw [hpurpose, overruled_cons_nil]
  rcases categoryClasses_cases k with hnil | ⟨hne, ⟨c, hc⟩ | hdisagree⟩
  · rw [(category_eq_nil_iff hk).2 hnil, overruled_cons_nil, hnil]
    constructor
    · exact fun h => absurd h (not_overruled_roles hk hcomposite)
    · rintro ⟨c, d, h, -⟩
      cases h
  · obtain ⟨v, hv, hvcls, hvpercent⟩ := category_of_agreeing hk hne hc
    have hvstrongest := strongest_of_mem_category (s := s) (v := v) (by simp [hv])
    rw [hv, overruled_category_iff hk hcomposite hvcls hvstrongest]
    constructor
    · rintro ⟨hv, d, hd, hdiffers⟩
      have htwo : (categoryClasses k).length = 2 := by omega
      exact ⟨c, d, List.eq_replicate_iff.2 ⟨htwo, hc⟩, hd, hdiffers⟩
    · rintro ⟨c', d, htwo, hd, hdiffers⟩
      obtain rfl : c' = c := hc c' (by simp [htwo])
      rw [htwo] at hvpercent
      exact ⟨hvpercent, d, hd, hdiffers⟩
  · obtain ⟨⟨v, w, vs, hmany⟩, -⟩ := category_of_disagreeing hk hne hdisagree
    rw [hmany]
    constructor
    · exact fun h => absurd h (not_overruled_many v w vs _)
    · rintro ⟨c, d, h, -⟩
      exact absurd (by simp [h]) (hdisagree c)

end Signal

namespace Subject

open Signal

/-- Asking the signals one by one gives a verdict exactly if combining all their candidates does.
Its class is the same, except for a kind that is neither an exception nor a floating comment and is
one of two things. It is a composite with two categories that have a class, both of the same one,
and roles that suggest another; or it is a token other than a comment with five or more categories
that have a class, all of the same one, which is not its own. -/
theorem cls_classify?_ne_iff (s : Subject) (t : Taxonomy) :
    (s.classify? t = none ↔ Verdict.aggregate t (candidates s).flatten = none) ∧
    ((s.classify? t).map (·.cls) ≠
        (Verdict.aggregate t (candidates s).flatten).map (·.cls) ↔
      exception s = [] ∧ floating s = [] ∧ ∃ k, s.described = some k ∧
        ((k.isComposite = true ∧ ∃ c d, categoryClasses k = [c, c] ∧
            rolesClass? k.roles = some d ∧ d ≠ c) ∨
          ∃ g, k.shape = .token g ∧ g ≠ .comment ∧ 5 ≤ (categoryClasses k).length ∧
            ∃ c, (∀ x ∈ categoryClasses k, x = c) ∧ c ≠ tokenClass k.name g)) := by
  refine ⟨settle_eq_none_iff t _, (cls_settle_ne_iff t _).trans ?_⟩
  by_cases hcertain : exception s ≠ [] ∨ floating s ≠ []
  · constructor
    · exact fun h => absurd h (not_overruled_certain hcertain)
    · rintro ⟨he, hf, -⟩
      exact hcertain.elim (absurd he) (absurd hf)
  obtain ⟨he, hf⟩ : exception s = [] ∧ floating s = [] := by
    simpa [not_or] using hcertain
  rw [overruled_candidates he hf]
  simp only [he, hf, true_and]
  cases hk : s.described with
  | none =>
    have hsilent : [purpose s, category s, roles s, position s] = [[], [], [], []] := by
      simp [purpose, category, roles, position, hk]
    rw [hsilent]
    constructor
    · exact fun h => absurd h (not_overruled_last [])
    · rintro ⟨k, h, -⟩
      cases h
  | some k =>
    cases hshape : k.shape with
    | token g =>
      have htoken : k.isComposite = false := by simp [Kind.isComposite, Kind.isToken, hshape]
      rw [overruled_token_iff hk hshape]
      constructor
      · exact fun h => ⟨k, rfl, .inr ⟨g, hshape, h⟩⟩
      · rintro ⟨k', heq, ⟨hcomposite, -⟩ | ⟨g', hg, h⟩⟩
        · cases heq
          rw [htoken] at hcomposite
          cases hcomposite
        · cases heq
          cases hshape.symm.trans hg
          exact h
    | composite direct positional =>
      have hcomposite : k.isComposite = true := by simp [Kind.isComposite, Kind.isToken, hshape]
      rw [overruled_composite_iff hk hcomposite]
      constructor
      · exact fun h => ⟨k, rfl, .inl ⟨hcomposite, h⟩⟩
      · rintro ⟨k', heq, ⟨-, h⟩ | ⟨g, hg, -⟩⟩
        · cases heq
          exact h
        · cases heq
          cases hshape.symm.trans hg

end Subject

namespace Sample

/-- A typed value that is an expression in two ways. -/
def typedValue : Subject := ⟨"typed_value", .python, some
  { name := "typed_value", language := .python
    categories := ["_expression", "primary_expression"]
    shape := .composite
      [⟨some "type", ["type"], .requiredSingle⟩, ⟨some "value", ["literal"], .requiredSingle⟩] []
    anywhere := false, explicit := true }⟩

/-- A name that may be declared in five ways. -/
def declaredName : Subject := ⟨"declared_name", .c, some
  { name := "declared_name", language := .c
    categories :=
      ["abstract_declarator", "declarator", "field_declarator", "parameter", "type_declarator"]
    shape := .token .identifier
    anywhere := false, explicit := true }⟩

end Sample

namespace Subject

/-- A typed value is an operation, though by its roles it would be data; a name that may be declared
in five ways is an identifier, though by its categories it would be data. -/
theorem cls_typedValue_declaredName :
    ((Sample.typedValue.classify? .builtin).map (·.cls) = some (.core .operationOperator) ∧
      (Sample.typedValue.classify? .builtin).map (·.cls) ≠
        (Verdict.aggregate .builtin (Signal.candidates Sample.typedValue).flatten).map (·.cls)) ∧
    ((Sample.declaredName.classify? .builtin).map (·.cls) = some (.core .syntaxIdentifier) ∧
      (Sample.declaredName.classify? .builtin).map (·.cls) ≠
        (Verdict.aggregate .builtin (Signal.candidates Sample.declaredName).flatten).map
          (·.cls)) := by
  refine ⟨⟨by decide, (cls_classify?_ne_iff _ _).2.2 ⟨rfl, rfl, _, rfl, .inl ?_⟩⟩,
    ⟨by decide, (cls_classify?_ne_iff _ _).2.2 ⟨rfl, rfl, _, rfl, .inr ?_⟩⟩⟩
  · exact ⟨rfl, .operationOperator, .definitionData, by decide, by decide, by decide⟩
  · exact ⟨.identifier, rfl, by decide, by decide, .definitionData, by decide, by decide⟩

end Subject

end CodeChunks
