import CodeChunks.Classifier
import Mathlib.Data.List.Dedup

/-!
# The memory of a classifier

A classifier is asked for kinds, with and without their surroundings, and grammars are registered
with it in between; `Request` is one of these. For each kind of a language it gives the answer that
it would have computed when it was first asked for it, after the requests `untilAsked`, whatever was
registered since and in whatever surroundings it was asked. It keeps one answer for each kind of a
language that it was asked for.
-/

namespace CodeChunks

inductive Request where
  | classify (kind : String) (l : Language)
  | classifyIn (kind : String) (l : Language) (x : Context)
  | register (l : Language) (g : Except Error Grammar)

namespace Request

def asked : Request → Option (String × Language)
  | .classify kind l => some (kind, l)
  | .classifyIn kind l _ => some (kind, l)
  | .register _ _ => none

/-- The requests before the first that asks for a kind. -/
def untilAsked (key : String × Language) (rs : List Request) : List Request :=
  rs.takeWhile fun r => r.asked ≠ some key

/-- The requests from the first on that asks for a kind. -/
def sinceAsked (key : String × Language) (rs : List Request) : List Request :=
  rs.dropWhile fun r => r.asked ≠ some key

theorem untilAsked_append_sinceAsked (key : String × Language) (rs : List Request) :
    untilAsked key rs ++ sinceAsked key rs = rs :=
  List.takeWhile_append_dropWhile

theorem untilAsked_cons_of_asked {key : String × Language} {r : Request} (h : r.asked = some key)
    (rs : List Request) : untilAsked key (r :: rs) = [] := by
  simp [untilAsked, h]

theorem untilAsked_cons_of_ne {key : String × Language} {r : Request} (h : r.asked ≠ some key)
    (rs : List Request) : untilAsked key (r :: rs) = r :: untilAsked key rs := by
  simp [untilAsked, h]

end Request

namespace Classifier

/-- The classifier after a request. A grammar that is refused changes nothing. -/
def after (c : Classifier) : Request → Classifier
  | .classify kind l => (c.classify kind l).1
  | .classifyIn kind l x => (c.classifyIn kind l x).1
  | .register l g =>
    match c.register l g with
    | .ok (c, _) => c
    | .error _ => c

def afterAll (c : Classifier) (rs : List Request) : Classifier := rs.foldl after c

theorem afterAll_append (c : Classifier) (rs qs : List Request) :
    c.afterAll (rs ++ qs) = (c.afterAll rs).afterAll qs :=
  List.foldl_append

/-! ## One request -/

variable (c : Classifier) (r : Request)

theorem after_cases : (∃ kind l, r.asked = some (kind, l) ∧ c.after r = c.ask kind l) ∨
    r.asked = none ∧ ∃ grammars, c.after r = { c with grammars := grammars } := by
  cases r with
  | classify kind l => exact .inl ⟨kind, l, rfl, rfl⟩
  | classifyIn kind l x => exact .inl ⟨kind, l, rfl, rfl⟩
  | register l g =>
    cases g with
    | ok g => exact .inr ⟨rfl, _, rfl⟩
    | error e => exact .inr ⟨rfl, c.grammars, rfl⟩

theorem taxonomy_ask (kind : String) (l : Language) : (c.ask kind l).taxonomy = c.taxonomy := by
  unfold ask
  split <;> rfl

theorem fresh?_ask (kind : String) (l : Language) : (c.ask kind l).fresh? = c.fresh? := by
  unfold ask
  split <;> rfl

theorem memo_ask (kind : String) (l : Language) :
    (c.ask kind l).memo = c.memo ∧ (kind, l) ∈ c.memo.keys ∨
      (c.ask kind l).memo = c.memo.insert (kind, l) (c.fresh? kind l) ∧
        (kind, l) ∉ c.memo.keys := by
  unfold ask
  cases h : c.memo.get? (kind, l) with
  | some kept =>
    refine .inl ⟨rfl, ?_⟩
    by_contra hnot
    rw [Table.get?_eq_none_iff.2 hnot] at h
    cases h
  | none => exact .inr ⟨rfl, Table.get?_eq_none_iff.1 h⟩

theorem get?_memo_ask (kind : String) (l : Language) (key : String × Language) :
    (c.ask kind l).memo.get? key = (c.memo.get? key).or
      (if (kind, l) = key then some (c.fresh? key.1 key.2) else none) := by
  unfold ask
  by_cases hkey : (kind, l) = key
  · subst hkey
    cases h : c.memo.get? (kind, l) with
    | some kept => simp [h]
    | none => simp
  · rw [if_neg hkey, Option.or_none]
    split
    · rfl
    · dsimp only
      rw [Table.get?_insert, if_neg hkey]

theorem taxonomy_after : (c.after r).taxonomy = c.taxonomy := by
  rcases c.after_cases r with ⟨kind, l, -, h⟩ | ⟨-, grammars, h⟩
  · rw [h, taxonomy_ask]
  · rw [h]

theorem fresh?_after (h : r.asked.isSome = true) : (c.after r).fresh? = c.fresh? := by
  rcases c.after_cases r with ⟨kind, l, -, hafter⟩ | ⟨hnone, -⟩
  · rw [hafter, fresh?_ask]
  · rw [hnone] at h
    cases h

theorem get?_memo_after (key : String × Language) : (c.after r).memo.get? key =
    (c.memo.get? key).or (if r.asked = some key then some (c.fresh? key.1 key.2) else none) := by
  rcases c.after_cases r with ⟨kind, l, hasked, h⟩ | ⟨hnone, grammars, h⟩
  · rw [h, get?_memo_ask, hasked]
    simp only [Option.some.injEq]
  · rw [h, hnone]
    simp

theorem mem_keys_after (key : String × Language) :
    key ∈ (c.after r).memo.keys ↔ key ∈ c.memo.keys ∨ r.asked = some key := by
  rcases c.after_cases r with ⟨kind, l, hasked, h⟩ | ⟨hnone, grammars, h⟩
  · rw [h, hasked, Option.some.injEq]
    rcases c.memo_ask kind l with ⟨hmemo, hmem⟩ | ⟨hmemo, -⟩
    · rw [hmemo]
      refine ⟨.inl, ?_⟩
      rintro (hkey | rfl)
      · exact hkey
      · exact hmem
    · rw [hmemo, Table.mem_keys_insert, or_comm, eq_comm]
  · rw [h, hnone]
    simp

theorem nodup_keys_after (h : c.memo.keys.Nodup) : (c.after r).memo.keys.Nodup := by
  rcases c.after_cases r with ⟨kind, l, -, hafter⟩ | ⟨-, grammars, hafter⟩
  · rw [hafter]
    rcases c.memo_ask kind l with ⟨hmemo, -⟩ | ⟨hmemo, -⟩
    · rw [hmemo]
      exact h
    · rw [hmemo]
      exact Table.nodup_keys_insert h _ _
  · rw [hafter]
    exact h

/-! ## Many requests -/

variable (rs : List Request)

theorem taxonomy_afterAll : (c.afterAll rs).taxonomy = c.taxonomy := by
  induction rs generalizing c with
  | nil => rfl
  | cons r rs ih => exact (ih (c.after r)).trans (c.taxonomy_after r)

theorem fresh?_afterAll (h : ∀ r ∈ rs, r.asked.isSome = true) :
    (c.afterAll rs).fresh? = c.fresh? := by
  induction rs generalizing c with
  | nil => rfl
  | cons r rs ih =>
    have hrest := ih (c.after r) fun q hq => h q (List.mem_cons_of_mem r hq)
    exact hrest.trans (c.fresh?_after r (h r List.mem_cons_self))

theorem mem_keys_afterAll (key : String × Language) : key ∈ (c.afterAll rs).memo.keys ↔
    key ∈ c.memo.keys ∨ key ∈ rs.filterMap Request.asked := by
  induction rs generalizing c with
  | nil => simp [afterAll]
  | cons r rs ih =>
    have hstep := ih (c.after r)
    rw [mem_keys_after, or_assoc] at hstep
    refine hstep.trans (or_congr_right ?_)
    cases hr : r.asked <;> simp [hr, eq_comm]

theorem nodup_keys_afterAll (h : c.memo.keys.Nodup) : (c.afterAll rs).memo.keys.Nodup := by
  induction rs generalizing c with
  | nil => exact h
  | cons r rs ih => exact ih (c.after r) (c.nodup_keys_after r h)

/-- The answer for a kind is the one that is kept, and if there is none the one that would have been
computed when it was first asked for. -/
theorem answer?_afterAll (kind : String) (l : Language) : (c.afterAll rs).answer? kind l =
    match c.memo.get? (kind, l) with
    | some kept => kept
    | none => (c.afterAll (Request.untilAsked (kind, l) rs)).fresh? kind l := by
  induction rs generalizing c with
  | nil => rfl
  | cons r rs ih =>
    have hstep : (c.afterAll (r :: rs)).answer? kind l =
        ((c.after r).afterAll rs).answer? kind l := rfl
    rw [hstep, ih, get?_memo_after]
    by_cases hr : r.asked = some (kind, l)
    · rw [if_pos hr, Request.untilAsked_cons_of_asked hr]
      cases c.memo.get? (kind, l) <;> rfl
    · rw [if_neg hr, Request.untilAsked_cons_of_ne hr, Option.or_none]
      rfl

theorem kept_eq_length_keys : c.kept = c.memo.keys.length := (List.length_map _).symm

variable {c}

/-- From an empty memory on, one answer is kept for each kind that was asked for. -/
theorem kept_afterAll (hc : c.memo = []) :
    (c.afterAll rs).kept = (rs.filterMap Request.asked).dedup.length := by
  have hnodup : (c.afterAll rs).memo.keys.Nodup :=
    c.nodup_keys_afterAll rs (by rw [hc]; exact List.nodup_nil)
  have hmem : ∀ key, key ∈ (c.afterAll rs).memo.keys ↔
      key ∈ (rs.filterMap Request.asked).dedup := by
    intro key
    rw [mem_keys_afterAll, hc, List.mem_dedup]
    exact or_iff_right List.not_mem_nil
  rw [kept_eq_length_keys]
  exact ((List.perm_ext_iff_of_nodup hnodup (List.nodup_dedup _)).2 hmem).length_eq

/-- After any requests to a classifier with an empty memory, the answer for a kind is the one that
would have been computed when it was first asked for, be it that there is none. In its surroundings
it is that answer in view of these surroundings alone. One answer is kept for each kind that was
asked for. If nothing was registered since the kind was first asked for, the answer is also the one
that would be computed now. -/
theorem answer_of_first_request (hc : c.memo = []) (earlier : List Request) (kind : String)
    (l : Language) :
    ((c.afterAll earlier).classify kind l).2 =
      (c.afterAll (Request.untilAsked (kind, l) earlier)).fresh? kind l ∧
    (∀ x, ((c.afterAll earlier).classifyIn kind l x).2 =
      ((c.afterAll (Request.untilAsked (kind, l) earlier)).fresh? kind l).map
        (·.inContext c.taxonomy x)) ∧
    (c.afterAll earlier).kept = (earlier.filterMap Request.asked).dedup.length ∧
    ((∀ r ∈ Request.sinceAsked (kind, l) earlier, r.asked.isSome = true) →
      ((c.afterAll earlier).classify kind l).2 = (c.afterAll earlier).fresh? kind l) := by
  have hanswer : (c.afterAll earlier).answer? kind l =
      (c.afterAll (Request.untilAsked (kind, l) earlier)).fresh? kind l := by
    rw [answer?_afterAll, hc]
    rfl
  refine ⟨hanswer, fun x => ?_, kept_afterAll earlier hc, fun hsince => hanswer.trans ?_⟩
  · unfold classifyIn
    rw [hanswer, taxonomy_afterAll]
  · have hfresh := fresh?_afterAll (c.afterAll (Request.untilAsked (kind, l) earlier)) _ hsince
    rw [← afterAll_append, Request.untilAsked_append_sinceAsked] at hfresh
    rw [hfresh]

end Classifier

namespace Sample

def names : Grammar where
  language := .python
  kinds := [("name", ⟨"name", .python, [], .token .identifier, false, true⟩)]

def blankClassifier : Classifier :=
  { taxonomy := .builtin, overrides := .empty, grammars := { bundled := fun _ => none } }

/-- A name is asked for before there is a grammar, and again in two surroundings. -/
def requests : List Request :=
  [.classify "name" .python, .register .python (.ok names),
   .classifyIn "name" .python { parent := some "class" }, .classify "title" .python,
   .classifyIn "name" .python {}]

end Sample

namespace Classifier

/-- A name that was asked for before there was a grammar stays without a class, though the grammar
has one for it by now. Two answers are kept, and both that there is none. -/
theorem name_asked_before_grammar :
    ((Sample.blankClassifier.afterAll Sample.requests).classify "name" .python).2 = none ∧
    ((Sample.blankClassifier.afterAll Sample.requests).fresh? "name" .python).isSome = true ∧
    (Sample.blankClassifier.afterAll Sample.requests).kept = 2 ∧
    ((Sample.blankClassifier.afterAll Sample.requests).classify "title" .python).2 =
      (Sample.blankClassifier.afterAll Sample.requests).fresh? "title" .python := by
  obtain ⟨hname, -, hkept, -⟩ :=
    answer_of_first_request (c := Sample.blankClassifier) rfl Sample.requests "name" .python
  obtain ⟨-, -, -, htitle⟩ :=
    answer_of_first_request (c := Sample.blankClassifier) rfl Sample.requests "title" .python
  refine ⟨hname.trans (by decide), by decide, hkept.trans (by decide), htitle ?_⟩
  decide

end Classifier

end CodeChunks
