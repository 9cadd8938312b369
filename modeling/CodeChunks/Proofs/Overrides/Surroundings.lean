import CodeChunks.Overrides.Context
import CodeChunks.Proofs.Overrides.Refinement

/-!
# What surroundings do to a confidence

Each hint raises a confidence towards a cap of its own, and all hints together raise it (`raiseAll`)
by a tenth at most. The result is put at the nearest hundredth. So surroundings never lower a
confidence, never bring one past ninety-eight hundredths, and touch nothing else in a verdict. They
count for at least as much as any one of their hints.

The tenth holds before the result is rounded, for the confidence `inView`. Rounding can go past it,
by half a hundredth at most: `Verdict.past_tenth_iff` says when it does.
-/

namespace CodeChunks

/-! ## One hint -/

namespace Hint

/-- A hint that lowers nothing and brings nothing past ninety-eight hundredths. -/
structure Proper (h : Hint) : Prop where
  one_le_factor : 1 ≤ h.factor
  cap_le : h.cap ≤ 98 / 100

theorem proper_strong : strong.Proper where
  one_le_factor := by
    show (1 : Rat) ≤ 11 / 10
    grind
  cap_le := Rat.le_refl

theorem proper_mild : mild.Proper where
  one_le_factor := by
    show (1 : Rat) ≤ 105 / 100
    grind
  cap_le := by
    show (95 : Rat) / 100 ≤ 98 / 100
    grind

theorem proper_siblings (n : Nat) : (siblings n).Proper where
  one_le_factor := by
    have hn : (0 : Rat) ≤ n := Rat.natCast_nonneg
    show 1 ≤ 1 + (n : Rat) / 50
    grind
  cap_le := proper_mild.cap_le

variable {h : Hint} {c d m : Rat}

theorem raise_le (hc : c ≤ m) (hcap : h.cap ≤ m) : h.raise c ≤ m := by
  simp only [raise]
  split <;> split <;> grind

theorem raise_mono (hfactor : 0 ≤ h.factor) (hcd : c ≤ d) : h.raise c ≤ h.raise d := by
  have hmul : h.factor * c ≤ h.factor * d := Rat.mul_le_mul_of_nonneg_left hcd hfactor
  simp only [raise]
  grind

theorem le_raise_of_le (hcap : h.factor * c ≤ h.cap) : h.factor * c ≤ h.raise c := by
  simp only [raise]
  grind

/-! ## Several hints -/

def raiseAll (hs : List Hint) (c : Rat) : Rat := hs.foldl (fun c h => h.raise c) c

variable {hs : List Hint}

theorem raiseAll_cons (h : Hint) (hs : List Hint) (c : Rat) :
    raiseAll (h :: hs) c = raiseAll hs (h.raise c) := rfl

theorem le_raiseAll (hs : List Hint) (c : Rat) : c ≤ raiseAll hs c := by
  induction hs generalizing c with
  | nil => exact Rat.le_refl
  | cons h hs ih => exact Rat.le_trans (h.le_raise c) (ih (h.raise c))

theorem raiseAll_le (hc : c ≤ m) (hcap : ∀ h ∈ hs, h.cap ≤ m) : raiseAll hs c ≤ m := by
  induction hs generalizing c with
  | nil => exact hc
  | cons h hs ih =>
    obtain ⟨hh, hrest⟩ := List.forall_mem_cons.1 hcap
    exact ih (raise_le hc hh) hrest

theorem raiseAll_mono (hproper : ∀ h ∈ hs, h.Proper) (hcd : c ≤ d) :
    raiseAll hs c ≤ raiseAll hs d := by
  induction hs generalizing c d with
  | nil => exact hcd
  | cons h hs ih =>
    obtain ⟨hh, hrest⟩ := List.forall_mem_cons.1 hproper
    have hfactor : 0 ≤ h.factor := Rat.le_trans (by decide) hh.one_le_factor
    exact ih hrest (raise_mono hfactor hcd)

theorem raise_le_raiseAll (hproper : ∀ h ∈ hs, h.Proper) (hh : h ∈ hs) :
    h.raise c ≤ raiseAll hs c := by
  induction hs generalizing c with
  | nil => cases hh
  | cons g hs ih =>
    obtain ⟨hg, hrest⟩ := List.forall_mem_cons.1 hproper
    rw [raiseAll_cons]
    rcases List.mem_cons.1 hh with rfl | hh
    · exact le_raiseAll hs (h.raise c)
    · -- the hints before it only raise what it starts from
      exact Rat.le_trans (ih hrest hh) (raiseAll_mono hrest (g.le_raise c))

end Hint

/-! ## The bound of a tenth -/

section Raised

variable {base : Rat} {hs : List Hint} {h : Hint}

theorem raised_eq (base : Rat) (hs : List Hint) : raised base hs =
    if 11 / 10 * base < Hint.raiseAll hs base then 11 / 10 * base
    else Hint.raiseAll hs base := rfl

theorem le_raised (hbase : 0 ≤ base) (hs : List Hint) : base ≤ raised base hs := by
  have hle := Hint.le_raiseAll hs base
  rw [raised_eq]
  split <;> grind

theorem raised_le_tenth (base : Rat) (hs : List Hint) : raised base hs ≤ 11 / 10 * base := by
  rw [raised_eq]
  split <;> grind

theorem raised_le_raiseAll (base : Rat) (hs : List Hint) :
    raised base hs ≤ Hint.raiseAll hs base := by
  rw [raised_eq]
  split <;> grind

theorem raised_singleton_le (hproper : ∀ h ∈ hs, h.Proper) (hh : h ∈ hs) :
    raised base [h] ≤ raised base hs := by
  have hle : Hint.raiseAll [h] base ≤ Hint.raiseAll hs base :=
    Hint.raise_le_raiseAll hproper hh
  rw [raised_eq, raised_eq]
  split <;> split <;> grind

end Raised

/-! ## The nearest hundredth -/

theorem le_nearestPercent_iff {n : Int} {c : Rat} :
    n ≤ nearestPercent c ↔ (n : Rat) ≤ 100 * c + 1 / 2 :=
  Rat.le_floor_iff

theorem nearestPercent_le (c : Rat) : (nearestPercent c : Rat) ≤ 100 * c + 1 / 2 :=
  le_nearestPercent_iff.1 (Int.le_refl _)

theorem nearestPercent_mono {c d : Rat} (h : c ≤ d) : nearestPercent c ≤ nearestPercent d := by
  have hc := nearestPercent_le c
  apply le_nearestPercent_iff.2
  grind

theorem nearestPercent_hundredths (n : Int) : nearestPercent ((n : Rat) / 100) = n := by
  have hdiv : 100 * ((n : Rat) / 100) = n := by grind
  apply Int.le_antisymm
  · apply Int.le_of_lt_add_one
    apply Int.lt_of_not_ge
    intro hge
    have hnext := le_nearestPercent_iff.1 hge
    rw [hdiv, Rat.intCast_add] at hnext
    grind
  · apply le_nearestPercent_iff.2
    rw [hdiv]
    grind

/-! ## Hints of surroundings -/

namespace Context

variable {x : Context} {name : String}

theorem proper_of_mem_hints {h : Hint} (hh : h ∈ x.hints name) : h.Proper := by
  have hwhen : ∀ {b : Bool} {g : Hint}, h ∈ (if b then [g] else []) → h = g := by
    intro b g hmem
    split at hmem
    · exact List.mem_singleton.1 hmem
    · cases hmem
  unfold hints at hh
  simp only [List.mem_append] at hh
  rcases hh with ((((hh | hh) | hh) | hh) | hh) | hh <;> rw [hwhen hh]
  · exact Hint.proper_strong
  · exact Hint.proper_strong
  · exact Hint.proper_mild
  · exact Hint.proper_strong
  · exact Hint.proper_mild
  · exact Hint.proper_siblings _

theorem strong_mem_hints (h : Text.endsWith ".jsx" (Text.toLower (x.path.getD "")) = true ∨
    Text.endsWith ".tsx" (Text.toLower (x.path.getD "")) = true) (name : String) :
    Hint.strong ∈ x.hints name := by
  have hfile : (Text.endsWith ".jsx" (Text.toLower (x.path.getD "")) ||
      Text.endsWith ".tsx" (Text.toLower (x.path.getD ""))) = true := by simpa using h
  unfold hints
  simp only [List.mem_append, hfile]
  exact .inl (.inl (.inl (.inl (.inr List.mem_cons_self))))

end Context

/-! ## Verdicts -/

namespace Verdict

variable (t : Taxonomy) (v : Verdict) (x : Context)

theorem percent_rescored (target : Int) :
    (v.rescored target).percent = max 0 (min 100 target) :=
  percent_ofTarget v.cls v.method v.evidence target

def fraction : Rat := (v.percent : Rat) / 100

theorem fraction_nonneg : 0 ≤ v.fraction := by
  have hp : (0 : Rat) ≤ v.percent := Rat.intCast_nonneg.2 v.percent_nonneg
  unfold fraction
  grind

/-- The confidence of an override in view of its surroundings, before it is rounded. -/
def inView : Rat := raised v.fraction (x.hints (t.name v.cls))

theorem le_inView : v.fraction ≤ v.inView t x := le_raised v.fraction_nonneg _

theorem inContext_of_not_override (hv : v.method.isOverride = false) : v.inContext t x = v := by
  rw [inContext, hv]
  rfl

theorem inContext_of_override (hv : v.method.isOverride = true) : v.inContext t x =
    if v.fraction < v.inView t x then v.rescored (nearestPercent (v.inView t x)) else v := by
  rw [inContext, hv]
  rfl

theorem inContext_cases : v.inContext t x = v ∨
    v.inContext t x = v.rescored (nearestPercent (v.inView t x)) := by
  cases hv : v.method.isOverride with
  | false => exact .inl (v.inContext_of_not_override t x hv)
  | true =>
    rw [v.inContext_of_override t x hv]
    split
    · exact .inr rfl
    · exact .inl rfl

theorem percent_le_nearestPercent_inView : v.percent ≤ nearestPercent (v.inView t x) := by
  have hmono := nearestPercent_mono (v.le_inView t x)
  rwa [fraction, nearestPercent_hundredths] at hmono

theorem raiseAll_le_max : Hint.raiseAll (x.hints (t.name v.cls)) v.fraction ≤
    ((max v.percent 98 : Int) : Rat) / 100 := by
  have hp : (v.percent : Rat) ≤ (max v.percent 98 : Int) :=
    Rat.intCast_le_intCast.2 (Int.le_max_left _ _)
  have hmax : ((98 : Int) : Rat) ≤ (max v.percent 98 : Int) :=
    Rat.intCast_le_intCast.2 (Int.le_max_right _ _)
  apply Hint.raiseAll_le
  · unfold fraction
    grind
  · intro h hh
    have hcap := (Context.proper_of_mem_hints hh).cap_le
    grind

theorem nearestPercent_inView_le : nearestPercent (v.inView t x) ≤ max v.percent 98 := by
  have hle : v.inView t x ≤ ((max v.percent 98 : Int) : Rat) / 100 :=
    Rat.le_trans (raised_le_raiseAll _ _) (v.raiseAll_le_max t x)
  have hmono := nearestPercent_mono hle
  rwa [nearestPercent_hundredths] at hmono

/-- An override is put at the hundredth nearest to its confidence in view of its surroundings. -/
theorem percent_inContext (hv : v.method.isOverride = true) :
    (v.inContext t x).percent = nearestPercent (v.inView t x) := by
  have hle := v.percent_le_nearestPercent_inView t x
  have hmax := v.nearestPercent_inView_le t x
  have hnonneg := v.percent_nonneg
  have hhundred := v.percent_le
  rw [v.inContext_of_override t x hv]
  split
  · rw [percent_rescored]
    omega
  · rename_i hlt
    have hsame : v.inView t x = v.fraction :=
      Rat.le_antisymm (Rat.not_lt.1 hlt) (v.le_inView t x)
    rw [hsame, fraction, nearestPercent_hundredths]

theorem inContext_of_confident (hp : 98 ≤ v.percent) : v.inContext t x = v := by
  cases hv : v.method.isOverride with
  | false => exact v.inContext_of_not_override t x hv
  | true =>
    have hle : v.inView t x ≤ v.fraction := by
      have hmax : max v.percent 98 = v.percent := by omega
      have hall := v.raiseAll_le_max t x
      rw [hmax] at hall
      exact Rat.le_trans (raised_le_raiseAll _ _) hall
    rw [v.inContext_of_override t x hv, if_neg (Rat.not_lt.2 hle)]

theorem inRange_inContext (hv : v.inRange = true) : (v.inContext t x).inRange = true := by
  rcases v.inContext_cases t x with h | h
  · rwa [h]
  · have hle := v.percent_le_nearestPercent_inView t x
    have hmax := v.nearestPercent_inView_le t x
    have hnonneg := v.percent_nonneg
    have hhundred := v.percent_le
    have hweight := v.evidence.zero_le_weight
    have hfull := v.evidence.weight_le_full
    rw [h, inRange, Bool.and_eq_true, fits32_iff, fits32_iff]
    simp only [rescored, weight, adjustmentFor]
    omega

/-- Surroundings touch nothing but the confidence of a verdict. They never lower it, and never bring
it past ninety-eight hundredths. A verdict of the grammar stays as it is, and so does one that is
there already. An override gains at least what any one of the hints is worth. A verdict that is in
range stays in range. -/
theorem inContext_only_raises (t : Taxonomy) (v : Verdict) (x : Context) :
    (v.inContext t x).cls = v.cls ∧ (v.inContext t x).method = v.method ∧
    (v.inContext t x).evidence = v.evidence ∧ (v.inContext t x).alternates = v.alternates ∧
    v.percent ≤ (v.inContext t x).percent ∧ (v.inContext t x).percent ≤ max v.percent 98 ∧
    (v.method.isOverride = false ∨ 98 ≤ v.percent → v.inContext t x = v) ∧
    (v.method.isOverride = true → ∀ h ∈ x.hints (t.name v.cls),
      nearestPercent (raised v.fraction [h]) ≤ (v.inContext t x).percent) ∧
    (v.inRange = true → (v.inContext t x).inRange = true) := by
  have hfields : (v.inContext t x).cls = v.cls ∧ (v.inContext t x).method = v.method ∧
      (v.inContext t x).evidence = v.evidence ∧ (v.inContext t x).alternates = v.alternates := by
    rcases v.inContext_cases t x with h | h <;> rw [h] <;> exact ⟨rfl, rfl, rfl, rfl⟩
  have hbounds : v.percent ≤ (v.inContext t x).percent ∧
      (v.inContext t x).percent ≤ max v.percent 98 := by
    cases hv : v.method.isOverride with
    | false =>
      rw [v.inContext_of_not_override t x hv]
      omega
    | true =>
      rw [v.percent_inContext t x hv]
      exact ⟨v.percent_le_nearestPercent_inView t x, v.nearestPercent_inView_le t x⟩
  refine ⟨hfields.1, hfields.2.1, hfields.2.2.1, hfields.2.2.2, hbounds.1, hbounds.2, ?_, ?_,
    v.inRange_inContext t x⟩
  · rintro (hv | hp)
    · exact v.inContext_of_not_override t x hv
    · exact v.inContext_of_confident t x hp
  · intro hv h hh
    rw [v.percent_inContext t x hv]
    exact nearestPercent_mono (raised_singleton_le (fun g hg => Context.proper_of_mem_hints hg) hh)

/-! ## Past the tenth -/

/-- A tenth above a number of hundredths, as whole hundredths and tenths of one. -/
theorem tenth_eq (p : Int) :
    11 * (p : Rat) = 10 * ((11 * p / 10 : Int) : Rat) + ((p % 10 : Int) : Rat) := by
  have hsplit : 11 * p = 10 * (11 * p / 10) + p % 10 := by omega
  have hcast := congrArg (fun n : Int => (n : Rat)) hsplit
  simpa only [Rat.intCast_add, Rat.intCast_mul, Rat.intCast_ofNat] using hcast

/-- The nearest hundredth lies past the tenth if the tenth ends on half a hundredth or more, and the
hints reach that half. -/
theorem tenth_lt_nearestPercent_iff (p : Int) (hs : List Hint) :
    11 * p < 10 * nearestPercent (raised ((p : Rat) / 100) hs) ↔
      5 ≤ p % 10 ∧
        ((11 * p / 10 : Int) : Rat) + 1 / 2 ≤ 100 * Hint.raiseAll hs ((p : Rat) / 100) := by
  have hnext : 11 * p < 10 * nearestPercent (raised ((p : Rat) / 100) hs) ↔
      11 * p / 10 + 1 ≤ nearestPercent (raised ((p : Rat) / 100) hs) := by omega
  have hfive : 5 ≤ p % 10 ↔ (5 : Rat) ≤ ((p % 10 : Int) : Rat) :=
    (Rat.intCast_le_intCast (a := 5)).symm
  have htenth := tenth_eq p
  rw [hnext, le_nearestPercent_iff, raised_eq, Rat.intCast_add, hfive]
  split
  · -- the hints go past the tenth, so the tenth is what is rounded
    constructor
    · intro h
      constructor <;> grind
    · rintro ⟨h, -⟩
      grind
  · constructor
    · intro h
      constructor <;> grind
    · rintro ⟨-, h⟩
      grind

theorem percent_inContext_le_tenth :
    10 * (v.inContext t x).percent ≤ 11 * v.percent + 5 := by
  cases hv : v.method.isOverride with
  | false =>
    have hnonneg := v.percent_nonneg
    rw [v.inContext_of_not_override t x hv]
    omega
  | true =>
    have hround := nearestPercent_le (v.inView t x)
    have htenth : v.inView t x ≤ 11 / 10 * v.fraction := raised_le_tenth _ _
    rw [v.percent_inContext t x hv]
    apply Rat.intCast_le_intCast.1
    rw [Rat.intCast_add, Rat.intCast_mul, Rat.intCast_mul]
    unfold fraction at htenth
    grind

theorem tenth_lt_percent_inContext_iff :
    11 * v.percent < 10 * (v.inContext t x).percent ↔
      v.method.isOverride = true ∧ 5 ≤ v.percent % 10 ∧
        ((11 * v.percent / 10 : Int) : Rat) + 1 / 2 ≤
          100 * Hint.raiseAll (x.hints (t.name v.cls)) v.fraction := by
  cases hv : v.method.isOverride with
  | false =>
    have hnonneg := v.percent_nonneg
    rw [v.inContext_of_not_override t x hv]
    simp only [Bool.false_eq_true, false_and, iff_false]
    omega
  | true =>
    rw [v.percent_inContext t x hv, inView, fraction, tenth_lt_nearestPercent_iff]
    simp only [true_and]

theorem percent_lt_of_reached (h : ((11 * v.percent / 10 : Int) : Rat) + 1 / 2 ≤
    100 * Hint.raiseAll (x.hints (t.name v.cls)) v.fraction) : v.percent < 90 := by
  apply Int.lt_of_not_ge
  intro hge
  have hnext : max v.percent 98 + 1 ≤ 11 * v.percent / 10 := by omega
  have hnext' : ((max v.percent 98 : Int) : Rat) + ((1 : Int) : Rat) ≤
      ((11 * v.percent / 10 : Int) : Rat) := by
    rw [← Rat.intCast_add]
    exact Rat.intCast_le_intCast.2 hnext
  have hle := v.raiseAll_le_max t x
  grind

theorem reached_of_strong (hstrong : Hint.strong ∈ x.hints (t.name v.cls))
    (hp : v.percent < 90) :
    11 / 10 * v.fraction ≤ Hint.raiseAll (x.hints (t.name v.cls)) v.fraction := by
  have hp' : (v.percent : Rat) ≤ ((89 : Int) : Rat) := Rat.intCast_le_intCast.2 (by omega)
  have hcap : Hint.strong.factor * v.fraction ≤ Hint.strong.cap := by
    show 11 / 10 * ((v.percent : Rat) / 100) ≤ 98 / 100
    grind
  have hraise : 11 / 10 * v.fraction ≤ Hint.strong.raise v.fraction := Hint.le_raise_of_le hcap
  have hall := Hint.raise_le_raiseAll (c := v.fraction)
    (fun h hh => Context.proper_of_mem_hints hh) hstrong
  exact Rat.le_trans hraise hall

/-- All hints together raise a confidence by a tenth and half a hundredth at most. They go past the
tenth exactly if the verdict is that of an override, the tenth ends on half a hundredth or more, and
the hints reach that half. With a strong hint this happens for every override below ninety
hundredths whose last digit is five or more. -/
theorem past_tenth_iff (t : Taxonomy) (v : Verdict) (x : Context) :
    10 * (v.inContext t x).percent ≤ 11 * v.percent + 5 ∧
    (11 * v.percent < 10 * (v.inContext t x).percent ↔
      v.method.isOverride = true ∧ 5 ≤ v.percent % 10 ∧
        ((11 * v.percent / 10 : Int) : Rat) + 1 / 2 ≤
          100 * Hint.raiseAll (x.hints (t.name v.cls)) v.fraction) ∧
    (Hint.strong ∈ x.hints (t.name v.cls) →
      (11 * v.percent < 10 * (v.inContext t x).percent ↔
        v.method.isOverride = true ∧ v.percent < 90 ∧ 5 ≤ v.percent % 10)) := by
  refine ⟨v.percent_inContext_le_tenth t x, v.tenth_lt_percent_inContext_iff t x, fun hstrong => ?_⟩
  rw [v.tenth_lt_percent_inContext_iff t x]
  constructor
  · rintro ⟨hv, hfive, hreached⟩
    exact ⟨hv, v.percent_lt_of_reached t x hreached, hfive⟩
  · rintro ⟨hv, hp, hfive⟩
    refine ⟨hv, hfive, ?_⟩
    have hreached := v.reached_of_strong t x hstrong hp
    have htenth := tenth_eq v.percent
    have hfive' : ((5 : Int) : Rat) ≤ ((v.percent % 10 : Int) : Rat) :=
      Rat.intCast_le_intCast.2 hfive
    unfold fraction at hreached ⊢
    grind

end Verdict

namespace Sample

def hookOverrides : Overrides :=
  (Overrides.empty.register .typeScriptReact "hook" (.core .operationInvocation) "hook"
    true).toOption.getD .empty

def markupFile : Context := { path := some "src/main.tsx" }

end Sample

namespace Verdict

/-- The call of a hook is an override at sixty-nine hundredths, a tenth above which is 75.9. In a
file of component markup it stands at seventy-six. -/
theorem hookCall_past_tenth : ∃ v,
    Sample.hookOverrides.first? "hook_call" .typeScriptReact = some v ∧ v.percent = 69 ∧
      (v.inContext .builtin Sample.markupFile).percent = 76 ∧
      11 * v.percent < 10 * (v.inContext .builtin Sample.markupFile).percent := by
  have hfirst : Sample.hookOverrides.first? "hook_call" .typeScriptReact =
      some (.ofTarget (.core .operationInvocation) .patternMatch KindPattern.evidence 69) := by
    decide +kernel
  refine ⟨_, hfirst, ?_⟩
  have hpercent : (ofTarget (.core .operationInvocation) .patternMatch KindPattern.evidence
      69).percent = 69 := by decide
  have hstrong : ∀ name, Hint.strong ∈ Sample.markupFile.hints name :=
    Context.strong_mem_hints (.inr (by decide +kernel))
  obtain ⟨hle, -, hiff⟩ := past_tenth_iff .builtin (ofTarget (.core .operationInvocation)
    .patternMatch KindPattern.evidence 69) Sample.markupFile
  have hpast := (hiff (hstrong _)).2 ⟨rfl, by rw [hpercent]; decide, by rw [hpercent]; decide⟩
  refine ⟨hpercent, ?_, hpast⟩
  rw [hpercent] at hle hpast
  omega

end Verdict

end CodeChunks
