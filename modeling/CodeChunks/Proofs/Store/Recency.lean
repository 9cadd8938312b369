import CodeChunks.Store.Recent
import Mathlib.Data.List.Dedup

/-!
# Which entries a store of recent ones has

A put uses its key, and so does a get that finds it; a get that finds nothing uses no key. A store
`Reflects` its uses: it holds the keys that were used last (`byLastUse`), as many different ones as
there is room for. So a key that was put is found exactly if fewer different keys have been used
since its own last use, and it is found with the value that was put last.
-/

namespace CodeChunks

/-! ## Keys by their last use -/

section Keys

variable {κ : Type} [DecidableEq κ]

/-- The keys of some uses, each at the place of its latest one. Uses and keys are listed the latest
first. -/
def byLastUse : List κ → List κ
  | [] => []
  | k :: us => k :: (byLastUse us).filter (· != k)

theorem mem_byLastUse {us : List κ} {k : κ} : k ∈ byLastUse us ↔ k ∈ us := by
  induction us with
  | nil => rfl
  | cons u us ih =>
    rw [byLastUse, List.mem_cons, List.mem_cons, List.mem_filter, ih, bne_iff_ne]
    tauto

theorem nodup_byLastUse (us : List κ) : (byLastUse us).Nodup := by
  induction us with
  | nil => exact List.nodup_nil
  | cons u us ih =>
    refine List.nodup_cons.2 ⟨fun h => ?_, ih.filter _⟩
    simp at h

theorem length_byLastUse (us : List κ) : (byLastUse us).length = us.dedup.length := by
  refine ((List.perm_ext_iff_of_nodup (nodup_byLastUse us) (List.nodup_dedup us)).2 ?_).length_eq
  intro k
  rw [mem_byLastUse, List.mem_dedup]

theorem takeWhile_byLastUse (us : List κ) (k : κ) :
    (byLastUse us).takeWhile (· != k) = byLastUse (us.takeWhile (· != k)) := by
  induction us with
  | nil => rfl
  | cons u us ih =>
    rw [byLastUse, List.takeWhile_cons, List.takeWhile_cons]
    by_cases hu : u = k
    · simp [hu, byLastUse]
    · rw [if_pos (by simpa using hu), if_pos (by simpa using hu), byLastUse, ← ih,
        List.takeWhile_filter]
      congr 3
      funext x
      -- of the keys that go, none is `k`, so the same keys stand before it
      by_cases hx : x = k
      · simp [hx, Ne.symm hu]
      · simp [hx]

theorem mem_take_iff {l : List κ} {n : Nat} {k : κ} :
    k ∈ l.take n ↔ k ∈ l ∧ (l.takeWhile (· != k)).length < n := by
  induction l generalizing n with
  | nil => simp
  | cons a l ih =>
    cases n with
    | zero => simp
    | succ n =>
      by_cases ha : a = k
      · simp [ha]
      · simp [ha, Ne.symm ha, ih]

/-- A key has its place among the first exactly if few enough others were used since. -/
theorem mem_take_byLastUse {us : List κ} {n : Nat} {k : κ} :
    k ∈ (byLastUse us).take n ↔ k ∈ us ∧ (us.takeWhile (· != k)).dedup.length < n := by
  rw [mem_take_iff, mem_byLastUse, takeWhile_byLastUse, length_byLastUse]

theorem take_filter_take {l : List κ} (h : l.Nodup) (n : Nat) (k : κ) :
    ((l.take (n + 1)).filter (· != k)).take n = (l.filter (· != k)).take n := by
  induction l generalizing n with
  | nil => simp
  | cons a l ih =>
    obtain ⟨ha, hl⟩ := List.nodup_cons.1 h
    rw [List.take_succ_cons]
    by_cases hk : a = k
    · subst hk
      have hstays : ∀ x ∈ l, (x != a) = true := fun x hx => bne_iff_ne.2 fun e => ha (e ▸ hx)
      have htake : ∀ x ∈ l.take n, (x != a) = true :=
        fun x hx => hstays x (List.mem_of_mem_take hx)
      rw [List.filter_cons_of_neg (by simp), List.filter_cons_of_neg (by simp),
        List.filter_eq_self.2 hstays, List.filter_eq_self.2 htake, List.take_take, Nat.min_self]
    · rw [List.filter_cons_of_pos (by simpa using hk), List.filter_cons_of_pos (by simpa using hk)]
      cases n with
      | zero => rfl
      | succ n => rw [List.take_succ_cons, List.take_succ_cons, ih hl]

theorem take_cons_filter_take (us : List κ) (n : Nat) (k : κ) :
    (k :: ((byLastUse us).take n).filter (· != k)).take n = (byLastUse (k :: us)).take n := by
  cases n with
  | zero => rfl
  | succ n =>
    rw [byLastUse, List.take_succ_cons, List.take_succ_cons, take_filter_take (nodup_byLastUse us)]

theorem cons_filter_take {us : List κ} {n : Nat} {k : κ} (h : k ∈ (byLastUse us).take n) :
    k :: ((byLastUse us).take n).filter (· != k) = (byLastUse (k :: us)).take n := by
  have hshorter : (((byLastUse us).take n).filter (· != k)).length <
      ((byLastUse us).take n).length :=
    List.length_filter_lt_length_iff_exists.2 ⟨k, h, by simp⟩
  have hroom : ((byLastUse us).take n).length ≤ n := List.length_take_le _ _
  have hlength : (k :: ((byLastUse us).take n).filter (· != k)).length ≤ n := by
    rw [List.length_cons]
    omega
  rw [← take_cons_filter_take, List.take_of_length_le hlength]

end Keys

/-! ## Runs of a store -/

namespace Recent

variable {κ α : Type} [DecidableEq κ]

inductive Action (κ α : Type) where
  | put (k : κ) (a : α)
  | get (k : κ)

def Action.put? (k : κ) : Action κ α → Option α
  | .put k' a => if k' = k then some a else none
  | .get _ => none

/-- The value that was put last for a key. -/
def lastPut? (k : κ) (xs : List (Action κ α)) : Option α :=
  xs.reverse.findSome? (Action.put? k)

def after (r : Recent κ α) : Action κ α → Recent κ α
  | .put k a => r.put k a
  | .get k => (r.get? k).1

def used (r : Recent κ α) : Action κ α → Option κ
  | .put k _ => some k
  | .get k => if (r.get? k).2.isSome then some k else none

def afterAll (r : Recent κ α) (xs : List (Action κ α)) : Recent κ α := xs.foldl after r

/-- The uses of keys in a run, the latest first. -/
def uses (r : Recent κ α) : List (Action κ α) → List κ
  | [] => []
  | x :: xs => (r.after x).uses xs ++ (r.used x).toList

theorem lastPut?_cons (x : Action κ α) (xs : List (Action κ α)) (k : κ) :
    lastPut? k (x :: xs) = (lastPut? k xs).or (x.put? k) := by
  unfold lastPut?
  rw [List.reverse_cons, List.findSome?_append, List.findSome?_singleton]

theorem lastPut?_append (k : κ) (xs ys : List (Action κ α)) :
    lastPut? k (xs ++ ys) = (lastPut? k ys).or (lastPut? k xs) := by
  unfold lastPut?
  rw [List.reverse_append, List.findSome?_append]

theorem isSome_lastPut?_iff {xs : List (Action κ α)} {k : κ} :
    (lastPut? k xs).isSome = true ↔ ∃ a, .put k a ∈ xs := by
  unfold lastPut?
  rw [List.findSome?_isSome_iff]
  constructor
  · rintro ⟨x, hx, hput⟩
    rw [List.mem_reverse] at hx
    cases x with
    | put k' a =>
      by_cases hk : k' = k
      · exact ⟨a, hk ▸ hx⟩
      · simp [Action.put?, hk] at hput
    | get k' => cases hput
  · rintro ⟨a, ha⟩
    exact ⟨.put k a, List.mem_reverse.2 ha, by simp [Action.put?]⟩

/-! ### One action -/

theorem get?_of_some {r : Recent κ α} {k : κ} {a : α} (h : r.peek? k = some a) :
    r.get? k = ({ r with entries := (k, a) :: r.without k }, some a) := by
  rw [get?, h]

theorem get?_of_none {r : Recent κ α} {k : κ} (h : r.peek? k = none) : r.get? k = (r, none) := by
  rw [get?, h]

theorem snd_get? (r : Recent κ α) (k : κ) : (r.get? k).2 = r.peek? k := by
  cases h : r.peek? k with
  | some a => rw [get?_of_some h]
  | none => rw [get?_of_none h]

theorem keys_without (r : Recent κ α) (k : κ) :
    (r.without k).map (·.1) = (r.entries.map (·.1)).filter (· != k) := by
  rw [List.filter_map]
  rfl

/-- A store after some uses, where `value` is what was put last for a key: it has the keys used
last, as many as there is room for. -/
structure Reflects (r : Recent κ α) (us : List κ) (value : κ → Option α) : Prop where
  keys : r.entries.map (·.1) = (byLastUse us).take r.capacity
  values : ∀ e ∈ r.entries, value e.1 = some e.2
  isPut : ∀ k, k ∈ us ↔ (value k).isSome = true

namespace Reflects

variable {r : Recent κ α} {us : List κ} {value : κ → Option α}

theorem ofCapacity (capacity : Nat) :
    Reflects (ofCapacity capacity : Recent κ α) [] fun _ => none where
  keys := by simp [Recent.ofCapacity, byLastUse]
  values := by simp [Recent.ofCapacity]
  isPut := by simp

theorem peek? (h : Reflects r us value) (k : κ) :
    r.peek? k = if k ∈ (byLastUse us).take r.capacity then value k else none := by
  rw [← h.keys]
  unfold Recent.peek?
  cases hlookup : r.entries.lookup k with
  | none =>
    rw [List.lookup_eq_none_iff] at hlookup
    rw [if_neg]
    intro hk
    obtain ⟨e, he, rfl⟩ := List.mem_map.1 hk
    simpa using hlookup e he
  | some a =>
    obtain ⟨before, rest, hentries, -⟩ := List.lookup_eq_some_iff.1 hlookup
    have hmem : (k, a) ∈ r.entries := by simp [hentries]
    rw [if_pos (List.mem_map.2 ⟨(k, a), hmem, rfl⟩)]
    exact (h.values (k, a) hmem).symm

theorem mem_of_peek? (h : Reflects r us value) {k : κ} {a : α} (hk : r.peek? k = some a) :
    k ∈ (byLastUse us).take r.capacity ∧ value k = some a := by
  rw [h.peek?] at hk
  split at hk
  · exact ⟨‹_›, hk⟩
  · cases hk

theorem put (h : Reflects r us value) (k : κ) (a : α) :
    Reflects (r.put k a) (k :: us) fun x => ((Action.put k a).put? x).or (value x) where
  keys := by
    rw [Recent.put, List.map_take, List.map_cons, keys_without, h.keys]
    exact take_cons_filter_take us r.capacity k
  values e he := by
    rcases List.mem_cons.1 (List.mem_of_mem_take he) with rfl | he
    · simp [Action.put?]
    · obtain ⟨he, hne⟩ := List.mem_filter.1 he
      rw [bne_iff_ne] at hne
      simp [Action.put?, Ne.symm hne, h.values e he]
  isPut x := by
    rw [List.mem_cons, h.isPut]
    by_cases hx : k = x
    · simp [Action.put?, hx]
    · simp [Action.put?, hx, Ne.symm hx]

theorem find (h : Reflects r us value) {k : κ} {a : α} (hk : r.peek? k = some a) :
    Reflects { r with entries := (k, a) :: r.without k } (k :: us) value where
  keys := by
    rw [List.map_cons, keys_without, h.keys]
    exact cons_filter_take (h.mem_of_peek? hk).1
  values e he := by
    rcases List.mem_cons.1 he with rfl | he
    · exact (h.mem_of_peek? hk).2
    · exact h.values e (List.mem_filter.1 he).1
  isPut x := by
    rw [List.mem_cons, h.isPut]
    refine or_iff_right_of_imp fun hx => ?_
    rw [hx, (h.mem_of_peek? hk).2]
    rfl

theorem after (h : Reflects r us value) (x : Action κ α) :
    Reflects (r.after x) ((r.used x).toList ++ us) fun k => (x.put? k).or (value k) := by
  cases x with
  | put k a => exact h.put k a
  | get k =>
    cases hk : r.peek? k with
    | some a =>
      rw [Recent.after, used, get?_of_some hk]
      exact h.find hk
    | none =>
      rw [Recent.after, used, get?_of_none hk]
      exact h

/-! ### Many actions -/

theorem afterAll (h : Reflects r us value) (xs : List (Action κ α)) :
    Reflects (r.afterAll xs) (r.uses xs ++ us) fun k => (lastPut? k xs).or (value k) := by
  induction xs generalizing r us value with
  | nil => exact h
  | cons x xs ih =>
    have hrest := ih (h.after x)
    rw [← List.append_assoc] at hrest
    simp only [lastPut?_cons, Option.or_assoc]
    exact hrest

end Reflects

theorem capacity_after (r : Recent κ α) (x : Action κ α) : (r.after x).capacity = r.capacity := by
  cases x with
  | put k a => rfl
  | get k =>
    cases hk : r.peek? k with
    | some a => rw [after, get?_of_some hk]
    | none => rw [after, get?_of_none hk]

theorem capacity_afterAll (r : Recent κ α) (xs : List (Action κ α)) :
    (r.afterAll xs).capacity = r.capacity := by
  induction xs generalizing r with
  | nil => rfl
  | cons x xs ih => exact (ih (r.after x)).trans (r.capacity_after x)

variable (capacity : Nat) (xs : List (Action κ α))

/-- A key is found, with what was put last for it, if few enough others were used since. -/
theorem get?_afterAll (k : κ) :
    (((ofCapacity capacity).afterAll xs).get? k).2 =
      if (((ofCapacity capacity).uses xs).takeWhile (· != k)).dedup.length < max capacity 1 then
        lastPut? k xs
      else none := by
  have hrun := (Reflects.ofCapacity capacity).afterAll xs
  have hcapacity : ((ofCapacity capacity).afterAll xs).capacity = max capacity 1 :=
    capacity_afterAll _ _
  have hput := hrun.isPut k
  rw [Option.or_none, List.append_nil] at hput
  rw [snd_get?, hrun.peek?, Option.or_none, List.append_nil, hcapacity]
  simp only [mem_take_byLastUse, hput]
  cases lastPut? k xs <;> simp

theorem isSome_get?_afterAll_iff (k : κ) :
    (((ofCapacity capacity).afterAll xs).get? k).2.isSome = true ↔ (∃ a, .put k a ∈ xs) ∧
      (((ofCapacity capacity).uses xs).takeWhile (· != k)).dedup.length < max capacity 1 := by
  rw [get?_afterAll, ← isSome_lastPut?_iff]
  split <;> simp [*]

theorem lastPut?_of_get?_afterAll {k : κ} {a : α}
    (h : (((ofCapacity capacity).afterAll xs).get? k).2 = some a) : lastPut? k xs = some a := by
  rw [get?_afterAll] at h
  split at h
  · exact h
  · cases h

theorem size_afterAll_le : ((ofCapacity capacity).afterAll xs).size ≤ max capacity 1 := by
  have hrun := (Reflects.ofCapacity capacity).afterAll xs
  have hcapacity : ((ofCapacity capacity).afterAll xs).capacity = max capacity 1 :=
    capacity_afterAll _ _
  have hlength := congrArg List.length hrun.keys
  rw [List.length_map, hcapacity] at hlength
  rw [size, hlength]
  exact List.length_take_le _ _

end Recent

end CodeChunks
