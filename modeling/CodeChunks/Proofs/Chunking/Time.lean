import CodeChunks.Chunking.Run

/-!
# Runs that take too long

A run looks at its `Clock` again and again and nothing is known of what it reads there. Time only
cuts a run short: the steps that come in time (`Settings.inTime`) are the first ones of the plan. So
a run ends as its limits alone would have it end, or it ends with a timeout, and `Settings.failure?`
is the failure of the two that comes first.
-/

namespace CodeChunks

namespace Meter

variable {m : Meter} {clock : Clock} {looks : Nat} {steps : List Step}

theorem inTime_congr {m' : Meter} (h : m'.timeout = m.timeout) (clock : Clock) (looks : Nat)
    (steps : List Step) : m'.inTime clock looks steps = m.inTime clock looks steps := by
  have hcheck : m'.checkTime = m.checkTime := by
    funext elapsed
    unfold checkTime
    rw [h]
  induction steps generalizing looks with
  | nil => rfl
  | cons step rest ih => cases step <;> simp only [inTime, hcheck, ih]

theorem inTime_prefix (m : Meter) (clock : Clock) (looks : Nat) (steps : List Step) :
    (m.inTime clock looks steps).1 <+: steps := by
  fun_induction inTime m clock looks steps with
  | case1 => exact List.prefix_refl _
  | case2 => exact List.nil_prefix
  | case3 looks depth rest _ timely late hrest ih =>
    rw [hrest] at ih
    exact (List.prefix_cons_inj _).2 ih
  | case4 looks step rest _ timely late hrest ih =>
    rw [hrest] at ih
    exact (List.prefix_cons_inj _).2 ih

theorem fst_inTime_of_none (h : (m.inTime clock looks steps).2 = none) :
    (m.inTime clock looks steps).1 = steps := by
  fun_induction inTime m clock looks steps with
  | case1 => rfl
  | case2 => cases h
  | case3 looks depth rest _ timely late hrest ih =>
    rw [hrest] at ih
    exact congrArg (Step.visit depth :: ·) (ih h)
  | case4 looks step rest _ timely late hrest ih =>
    rw [hrest] at ih
    exact congrArg (step :: ·) (ih h)

/-- A run is late because of a time that it read. -/
theorem eq_timeout_of_inTime {e : Error} (h : (m.inTime clock looks steps).2 = some e) :
    ∃ look, e = .timeout (clock.elapsed look) m.timeout ∧
      m.timeout.nanos < (clock.elapsed look).nanos := by
  fun_induction inTime m clock looks steps with
  | case1 => cases h
  | case2 looks depth rest e' hcheck =>
    obtain rfl : e' = e := Option.some.inj h
    unfold checkTime at hcheck
    split at hcheck
    · next hlate =>
      cases hcheck
      exact ⟨looks, rfl, hlate⟩
    · cases hcheck
  | case3 looks depth rest _ timely late hrest ih =>
    rw [hrest] at ih
    exact ih h
  | case4 looks step rest _ timely late hrest ih =>
    rw [hrest] at ih
    exact ih h

theorem snd_inTime_still (m : Meter) (looks : Nat) (steps : List Step) :
    (m.inTime .still looks steps).2 = none := by
  cases h : (m.inTime .still looks steps).2 with
  | none => rfl
  | some e =>
    obtain ⟨_, -, hlate⟩ := eq_timeout_of_inTime h
    cases hlate

end Meter

theorem Limits.snd_take_of_prefix {l : Limits} {count : Nat} {first steps : List Step} {e : Error}
    (h : (l.take count first).2 = some e) (hp : first <+: steps) :
    (l.take count steps).2 = some e := by
  obtain ⟨rest, rfl⟩ := hp
  -- The steps are taken one by one, and the first that is not allowed comes among `first`.
  fun_induction take l count first with
  | case1 => cases h
  | case2 count step first e' hallow =>
    rw [List.cons_append, take, hallow]
    exact h
  | case3 count step first count' hallow taken failure htake ih =>
    rw [htake] at ih
    rw [List.cons_append, take, hallow]
    exact ih h

namespace Settings

variable {s : Settings} {f : SourceFile} {stamp : Stamp} {t : SyntaxTree}

/-- The steps of a run that come in time, and the timeout that ends them. -/
def inTime (s : Settings) (f : SourceFile) (t : SyntaxTree) : List Step × Option Error :=
  (Meter.ofConfig s.config).inTime s.clock 0 (s.selector f t).plan.steps

/-- The failure that ends a run, if there is one. -/
def failure? (s : Settings) (f : SourceFile) (t : SyntaxTree) : Option Error :=
  ((Limits.ofConfig s.config).take 0 (s.inTime f t).1).2.or (s.inTime f t).2

def asked (s : Settings) (f : SourceFile) (t : SyntaxTree) : List String :=
  (Step.asked ((Limits.ofConfig s.config).take 0 (s.inTime f t).1).1).map t.kind

theorem runTree_eq (s : Settings) (f : SourceFile) (stamp : Stamp) (t : SyntaxTree) :
    s.runTree f stamp t =
      match s.failure? f t with
      | some e => (.failed e, s.asked f t)
      | none => (.chunks ((s.view f t).renderAll s.config.task stamp.ids stamp.now
          (s.selector f t).plan.drafts), s.asked f t) := rfl

theorem fst_runTree (s : Settings) (f : SourceFile) (stamp : Stamp) (t : SyntaxTree) :
    (s.runTree f stamp t).1 =
      match s.failure? f t with
      | some e => .failed e
      | none => .chunks ((s.view f t).renderAll s.config.task stamp.ids stamp.now
          (s.selector f t).plan.drafts) := by
  rw [runTree_eq]
  cases s.failure? f t <;> rfl

/-- A run goes well if its steps keep the limits and it is never late. -/
theorem failure?_eq_none_iff : s.failure? f t = none ↔
    ((Limits.ofConfig s.config).take 0 (s.selector f t).plan.steps).2 = none ∧
      (s.inTime f t).2 = none := by
  unfold failure?
  rw [Option.or_eq_none_iff]
  constructor
  · rintro ⟨hkept, htime⟩
    have hall : (s.inTime f t).1 = (s.selector f t).plan.steps := Meter.fst_inTime_of_none htime
    exact ⟨hall ▸ hkept, htime⟩
  · rintro ⟨hkept, htime⟩
    have hall : (s.inTime f t).1 = (s.selector f t).plan.steps := Meter.fst_inTime_of_none htime
    exact ⟨hall.symm ▸ hkept, htime⟩

/-- A run that takes no time ends as its limits have it end. -/
theorem failure?_of_still (h : s.clock = .still) :
    s.failure? f t = ((Limits.ofConfig s.config).take 0 (s.selector f t).plan.steps).2 := by
  have htime : (s.inTime f t).2 = none := by
    rw [inTime, h]
    exact Meter.snd_inTime_still _ _ _
  have hall : (s.inTime f t).1 = (s.selector f t).plan.steps := Meter.fst_inTime_of_none htime
  rw [failure?, htime, Option.or_none, hall]

/-- A run that fails breaks a limit or is late. -/
theorem cases_of_failure? {e : Error} (h : s.failure? f t = some e) :
    ((Limits.ofConfig s.config).take 0 (s.selector f t).plan.steps).2 = some e ∨
      ((Limits.ofConfig s.config).take 0 (s.inTime f t).1).2 = none ∧
        (s.inTime f t).2 = some e := by
  unfold failure? at h
  cases htake : ((Limits.ofConfig s.config).take 0 (s.inTime f t).1).2 with
  | none =>
    rw [htake, Option.none_or] at h
    exact .inr ⟨rfl, h⟩
  | some e' =>
    rw [htake, Option.some_or] at h
    obtain rfl := Option.some.inj h
    exact .inl (Limits.snd_take_of_prefix htake (Meter.inTime_prefix _ _ _ _))

end Settings

end CodeChunks
