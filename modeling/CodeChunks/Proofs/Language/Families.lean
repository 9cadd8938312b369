import CodeChunks.Language.Family
import Mathlib.Algebra.Order.Field.Rat
import Mathlib.Data.List.Infix
import Mathlib.Data.List.MinMax
import Mathlib.Data.Prod.Lex
import Mathlib.Tactic.Linarith
import Mathlib.Tactic.NormNum
import Mathlib.Tactic.Ring

/-!
# The family that fits best

Weights that lie close together count as equal, and such a comparison is not transitive: going
through the families once could end with one that is not the best. It never does. No delimiter marks
more than two families, so weights are whole numbers of `halves`, and two that are not equal are
never close. The family that is found is the first of those with the greatest `standing`: weight,
number of matches and matched fraction, in this order. For the same reason a `DoubleScore`, whose
weight and fraction are doubles, compares like the exact score.
-/

namespace CodeChunks.Family

/-! ## Standings -/

/-- The delimiters of a family that stand somewhere in the content. -/
def present (content : String) (f : Family) : List String :=
  f.delimiters.filter fun d => d.toList <:+: content.toList

/-- What families are compared by: the weight of the delimiters present, their number, and the
fraction of the family's delimiters that they are. -/
def standing (content : String) (f : Family) : ℚ ×ₗ ℕ ×ₗ ℚ :=
  let ds := present content f
  toLex ((ds.map fun d => 1 / (detectable.countP (d ∈ ·.delimiters) : ℚ)).sum,
    toLex (ds.length, ds.length / f.delimiters.length))

theorem filter_contains (content : String) (f : Family) :
    (f.delimiters.filter fun d => Text.contains d content) = present content f := by
  refine List.filter_congr fun d _ => ?_
  rw [Bool.eq_iff_iff, decide_eq_true_iff, Text.contains, Text.containsList_iff]
  simp only [List.IsInfix, eq_comm]

theorem share_eq (d : String) : share d = detectable.countP (d ∈ ·.delimiters) := by
  rw [share, ← List.countP_eq_length_filter]
  exact List.countP_congr fun f _ => by simp

theorem weigh_eq (ds : List String) :
    weigh ds = (ds.map fun d => 1 / (detectable.countP (d ∈ ·.delimiters) : ℚ)).sum := by
  rw [weigh, List.sum_eq_foldl, List.foldl_map]
  simp only [share_eq]

theorem length_delimiters_pos : ∀ f ∈ detectable, 0 < f.delimiters.length := by decide

theorem standing_eq (content : String) {f : Family} (hf : f ∈ detectable) :
    standing content f = toLex ((score content f).weight,
      toLex ((score content f).matched, (score content f).fraction)) := by
  have hlength : max 1 f.delimiters.length = f.delimiters.length :=
    max_eq_right (length_delimiters_pos f hf)
  simp only [standing, score, filter_contains, weigh_eq, hlength]

/-! ## Weights are halves -/

theorem share_le_two : ∀ f ∈ detectable, ∀ d ∈ f.delimiters, share d = 1 ∨ share d = 2 := by
  decide +kernel

/-- How many halves the delimiters weigh. -/
def halves (ds : List String) : Nat := (ds.map fun d => 2 / share d).sum

theorem halves_cons (d : String) (ds : List String) :
    halves (d :: ds) = 2 / share d + halves ds := by
  simp [halves]

theorem weigh_eq_halves {ds : List String} (h : ∀ d ∈ ds, share d = 1 ∨ share d = 2) :
    weigh ds = halves ds / 2 := by
  simp only [weigh_eq, ← share_eq]
  induction ds with
  | nil => simp [halves]
  | cons d ds ih =>
    obtain ⟨hd, hds⟩ := List.forall_mem_cons.1 h
    rw [List.map_cons, List.sum_cons, ih hds, halves_cons]
    rcases hd with hd | hd
    · rw [hd]
      push_cast
      ring
    · rw [hd]
      push_cast
      ring

theorem share_of_mem_present {content d : String} {f : Family} (hf : f ∈ detectable)
    (hd : d ∈ present content f) : share d = 1 ∨ share d = 2 :=
  share_le_two f hf d (List.mem_filter.1 hd).1

theorem weight_eq_halves (content : String) {f : Family} (hf : f ∈ detectable) :
    (score content f).weight = halves (present content f) / 2 := by
  rw [score, filter_contains]
  exact weigh_eq_halves fun d hd => share_of_mem_present hf hd

theorem weight_lt_iff (content : String) {f g : Family} (hf : f ∈ detectable)
    (hg : g ∈ detectable) : (score content f).weight < (score content g).weight ↔
      halves (present content f) < halves (present content g) := by
  rw [weight_eq_halves content hf, weight_eq_halves content hg,
    div_lt_div_iff_of_pos_right two_pos, Nat.cast_lt]

theorem tolerance_lt_of_weight_lt (content : String) {f g : Family} (hf : f ∈ detectable)
    (hg : g ∈ detectable) (h : (score content f).weight < (score content g).weight) :
    (score content f).weight + tolerance < (score content g).weight := by
  rw [weight_lt_iff content hf hg] at h
  have hstep : (halves (present content f) : ℚ) + 1 ≤ halves (present content g) := by
    exact_mod_cast h
  rw [weight_eq_halves content hf, weight_eq_halves content hg, tolerance]
  linarith

/-- Between families of one content the tolerance makes no difference. -/
theorem beats_iff_standing (content : String) {f g : Family} (hf : f ∈ detectable)
    (hg : g ∈ detectable) :
    (score content g).beats (score content f) = true ↔ standing content f < standing content g := by
  rw [standing_eq content hf, standing_eq content hg, Prod.Lex.toLex_lt_toLex,
    Prod.Lex.toLex_lt_toLex]
  unfold Score.beats
  rcases lt_trichotomy (score content f).weight (score content g).weight with h | h | h
  · have hfar := tolerance_lt_of_weight_lt content hf hg h
    simp [h, hfar]
  · simp [h, tolerance, eq_comm (a := (score content g).matched)]
  · have hfar := tolerance_lt_of_weight_lt content hg hf h
    have hfirst : ¬ (score content f).weight + tolerance < (score content g).weight := by
      unfold tolerance at *
      linarith
    have hsecond : ¬ (score content f).weight - (score content g).weight ≤ tolerance := by linarith
    simp [hfirst, hsecond, h.le, h.ne']

/-! ## In doubles -/

structure DoubleScore where
  matched : Nat
  weight : Float
  fraction : Float

/-- How well a family fits a sample, in double precision. -/
def doubleScore (content : String) (f : Family) : DoubleScore :=
  let present := f.delimiters.filter fun d => Text.contains d content
  { matched := present.length
    weight := present.foldl (fun w d => w + 1.0 / Float.ofNat (share d)) 0.0
    fraction := Float.ofNat present.length / Float.ofNat (max 1 f.delimiters.length) }

def DoubleScore.beats (new best : DoubleScore) : Bool :=
  if best.weight + 0.001 < new.weight then true
  else if (new.weight - best.weight).abs ≤ 0.001 then
    best.matched < new.matched || (new.matched == best.matched && best.fraction < new.fraction)
  else false

/-- A number of halves as a double. -/
def half (k : Nat) : Float := Float.ofNat k / 2

theorem half_add : ∀ k ≤ 30, ∀ n ∈ [1, 2], half k + 1.0 / Float.ofNat n = half (k + 2 / n) := by
  decide +kernel

theorem half_lt : ∀ k ≤ 30, ∀ l ≤ 30, half k + 0.001 < half l ↔ k < l := by decide +kernel

theorem half_sub : ∀ k ≤ 30, ∀ l ≤ k, (half l - half k).abs ≤ 0.001 ↔ l = k := by decide +kernel

def lengths : List Nat := [7, 8, 9, 10, 11, 15]

theorem fraction_lt : ∀ n ∈ lengths, ∀ l ∈ lengths, ∀ m ≤ 15,
    Float.ofNat m / Float.ofNat n < Float.ofNat m / Float.ofNat l ↔ 0 < m ∧ l < n := by
  decide +kernel

theorem length_delimiters_mem : ∀ f ∈ detectable, f.delimiters.length ∈ lengths := by decide

theorem halves_le (ds : List String) (h : ∀ d ∈ ds, share d = 1 ∨ share d = 2) :
    halves ds ≤ 2 * ds.length := by
  induction ds with
  | nil => exact Nat.le_refl 0
  | cons d ds ih =>
    obtain ⟨hd, hds⟩ := List.forall_mem_cons.1 h
    have hle := ih hds
    rw [halves_cons, List.length_cons]
    rcases hd with hd | hd <;> rw [hd] <;> omega

/-- No sum of halves is rounded on the way. -/
theorem foldl_half {ds : List String} (h : ∀ d ∈ ds, share d = 1 ∨ share d = 2) {k : Nat}
    (hk : k + halves ds ≤ 30) :
    ds.foldl (fun w d => w + 1.0 / Float.ofNat (share d)) (half k) = half (k + halves ds) := by
  induction ds generalizing k with
  | nil => rfl
  | cons d ds ih =>
    obtain ⟨hd, hds⟩ := List.forall_mem_cons.1 h
    rw [halves_cons] at hk ⊢
    rw [List.foldl_cons, half_add k (Nat.le_trans (Nat.le_add_right _ _) hk) (share d)
      (by simpa using hd), ih hds (by rwa [Nat.add_assoc]), Nat.add_assoc]

theorem length_present_le (content : String) {f : Family} (hf : f ∈ detectable) :
    (present content f).length ≤ 15 := by
  have hle : f.delimiters.length ≤ 15 := by
    have hall : ∀ n ∈ lengths, n ≤ 15 := by decide
    exact hall _ (length_delimiters_mem f hf)
  exact (List.length_filter_le _ _).trans hle

theorem halves_present_le (content : String) {f : Family} (hf : f ∈ detectable) :
    halves (present content f) ≤ 30 := by
  have hle := halves_le (present content f) fun d hd => share_of_mem_present hf hd
  have hlength := length_present_le content hf
  omega

theorem doubleScore_eq (content : String) {f : Family} (hf : f ∈ detectable) :
    doubleScore content f = ⟨(present content f).length, half (halves (present content f)),
      Float.ofNat (present content f).length / Float.ofNat f.delimiters.length⟩ := by
  have hlength : max 1 f.delimiters.length = f.delimiters.length :=
    max_eq_right (length_delimiters_pos f hf)
  have hzero : (0.0 : Float) = half 0 := by decide +kernel
  have hshares : ∀ d ∈ present content f, share d = 1 ∨ share d = 2 :=
    fun d hd => share_of_mem_present hf hd
  have hweight := foldl_half hshares (k := 0)
    ((Nat.zero_add _).symm ▸ halves_present_le content hf)
  rw [Nat.zero_add] at hweight
  unfold doubleScore
  dsimp only
  rw [filter_contains, hlength, hzero, hweight]

theorem matched_eq (content : String) (f : Family) :
    (score content f).matched = (present content f).length := by
  rw [score, filter_contains]

theorem score_fraction_lt (content : String) {f g : Family} (hf : f ∈ detectable)
    (hg : g ∈ detectable)
    (h : (present content g).length = (present content f).length) :
    (score content f).fraction < (score content g).fraction ↔
      0 < (present content f).length ∧ g.delimiters.length < f.delimiters.length := by
  have hlength : ∀ e ∈ detectable, max 1 e.delimiters.length = e.delimiters.length :=
    fun e he => max_eq_right (length_delimiters_pos e he)
  have hpos : ∀ e ∈ detectable, (0 : ℚ) < e.delimiters.length :=
    fun e he => Nat.cast_pos.2 (length_delimiters_pos e he)
  simp only [score, filter_contains, hlength f hf, hlength g hg, h]
  rw [div_lt_div_iff₀ (hpos f hf) (hpos g hg)]
  norm_cast
  constructor
  · intro hlt
    exact ⟨Nat.pos_of_ne_zero fun hzero => by simp [hzero] at hlt, lt_of_mul_lt_mul_left' hlt⟩
  · rintro ⟨hsome, hlt⟩
    exact Nat.mul_lt_mul_of_pos_left hlt hsome

/-- Scores in double precision compare as the exact ones do. -/
theorem beats_doubleScore (content : String) {f g : Family} (hf : f ∈ detectable)
    (hg : g ∈ detectable) : (doubleScore content g).beats (doubleScore content f) =
      (score content g).beats (score content f) := by
  have hkf := halves_present_le content hf
  have hkg := halves_present_le content hg
  have hlt := half_lt _ hkf _ hkg
  rw [doubleScore_eq content hf, doubleScore_eq content hg, Bool.eq_iff_iff,
    beats_iff_standing content hf hg, standing_eq content hf, standing_eq content hg,
    Prod.Lex.toLex_lt_toLex, Prod.Lex.toLex_lt_toLex, weight_lt_iff content hf hg,
    matched_eq, matched_eq]
  unfold DoubleScore.beats
  dsimp only
  rcases lt_trichotomy (halves (present content f)) (halves (present content g)) with h | h | h
  · simp [hlt.2 h, h]
  · have hsame := (half_sub _ hkf _ h.ge).2 h.symm
    have hweight : (score content f).weight = (score content g).weight := by
      rw [weight_eq_halves content hf, weight_eq_halves content hg, h]
    rw [if_neg (mt hlt.1 h.not_lt), if_pos hsame]
    simp only [h.not_lt, hweight, true_and, false_or, Bool.or_eq_true, Bool.and_eq_true,
      decide_eq_true_iff, beq_iff_eq, eq_comm (a := (present content g).length)]
    refine or_congr_right (and_congr_right fun hlength => ?_)
    rw [score_fraction_lt content hf hg hlength.symm, ← hlength]
    exact fraction_lt _ (length_delimiters_mem f hf) _ (length_delimiters_mem g hg) _
      (length_present_le content hf)
  · have hfar := mt (half_sub _ hkf _ h.le).1 h.ne
    have hweight : (score content f).weight ≠ (score content g).weight :=
      ((weight_lt_iff content hg hf).2 h).ne'
    rw [if_neg (mt hlt.1 h.not_gt), if_neg hfar]
    simp [h.not_gt, hweight]

/-! ## The best family -/

/-- Going through the scores ends with that of the first family of the best standing. -/
theorem foldl_beats (content : String) (fs : List Family) (hfs : ∀ f ∈ fs, f ∈ detectable)
    {first : Family} (hfirst : first ∈ detectable) :
    ∃ best, fs.foldl (List.argAux fun g f => standing content f < standing content g) (some first) =
        some best ∧
      (fs.map (score content)).foldl (fun best new => if new.beats best then new else best)
        (score content first) = score content best := by
  induction fs generalizing first with
  | nil => exact ⟨first, rfl, rfl⟩
  | cons f fs ih =>
    obtain ⟨hf, hfs⟩ := List.forall_mem_cons.1 hfs
    rw [List.foldl_cons, List.map_cons, List.foldl_cons]
    by_cases h : standing content first < standing content f
    · rw [if_pos ((beats_iff_standing content hfirst hf).2 h)]
      have hstep : List.argAux (fun g f => standing content f < standing content g) (some first) f =
          some f := if_pos h
      rw [hstep]
      exact ih hfs hf
    · rw [if_neg (mt (beats_iff_standing content hfirst hf).1 h)]
      have hstep : List.argAux (fun g f => standing content f < standing content g) (some first) f =
          some first := if_neg h
      rw [hstep]
      exact ih hfs hfirst

theorem exists_best (content : String) : ∃ best,
    detectable.argmax (standing content) = some best ∧
      best? (scores content) = some (score content best) := by
  have hfirst : cStyle ∈ detectable := List.mem_cons_self
  have hrest : ∀ f ∈ detectable.tail, f ∈ detectable := fun f hf => List.mem_of_mem_tail hf
  have hsplit : detectable = .cStyle :: detectable.tail := rfl
  obtain ⟨best, hargmax, hfold⟩ := foldl_beats content detectable.tail hrest hfirst
  refine ⟨best, ?_, ?_⟩
  · rw [hsplit, List.argmax, List.foldl_cons]
    exact hargmax
  · rw [scores, hsplit, List.map_cons, best?, hfold]

/-- A content is of the first family that has the best standing, if enough of its delimiters are
present. The tolerance has no part in this, though with it scores can beat each other in a row
without the first beating the last. -/
theorem detect_eq_first_best (content : String) (least : Nat) :
    (∃ f ∈ detectable, (∀ g ∈ detectable, standing content g ≤ standing content f) ∧
      (∀ g ∈ detectable, standing content f ≤ standing content g →
        detectable.idxOf f ≤ detectable.idxOf g) ∧
      detect content least = if least ≤ (present content f).length then f else .unknown) ∧
    ∃ a b c : Score, a.beats b = true ∧ b.beats c = true ∧ a.beats c = false := by
  constructor
  · obtain ⟨f, hargmax, hbest⟩ := exists_best content
    obtain ⟨hf, hmaximal, hindex⟩ := List.argmax_eq_some_iff.1 hargmax
    refine ⟨f, hf, hmaximal, hindex, ?_⟩
    rw [detect, hbest]
    simp only [score, filter_contains]
  · refine ⟨⟨.cStyle, 3, 0, 0⟩, ⟨.cStyle, 2, 1 / 1000, 0⟩, ⟨.cStyle, 1, 2 / 1000, 0⟩, ?_⟩
    norm_num [Score.beats, tolerance]

-- one delimiter of its own against two that are shared: as heavy, but more matches
example : detect "\x7bdef import " 2 = .pythonStyle := by decide +kernel

end CodeChunks.Family
