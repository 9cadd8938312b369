import CodeChunks.Proofs.Store.Shards

/-!
# Callers that share a cache

Any number of callers make calls on a cache in parts, and a schedule says whose turn it is
(`Shared.run`). To look up a key, to ask for it and to insert a value take one turn each. To get a
value or compute it takes a turn to look the key up and, if it is missing, one to compute the value
while the cache is free for the others, and one to put the value or to find the one that came first.

Every call acts as if it were made in one turn, the one in which it returns. So whatever the
schedule is, the calls answer as they would on one cache, made one after another in the order in
which they return, which is `Cache.performAll`.
-/

namespace CodeChunks

variable {n : Nat} {κ α : Type}

inductive CacheCall (κ α : Type) where
  | get (k : κ)
  | contains (k : κ)
  | insertIfAbsent (k : κ) (a : α)
  /-- With the value that its computation gives. -/
  | getOrCompute (k : κ) (a : α)
  deriving DecidableEq

namespace CacheCall

/-- What a call puts if the key is missing. -/
def offer? : CacheCall κ α → Option (κ × α)
  | .get _ => none
  | .contains _ => none
  | .insertIfAbsent k a => some (k, a)
  | .getOrCompute k a => some (k, a)

inductive Answer (α : Type) where
  | found (a : Option α)
  | holds (b : Bool)
  | inserted (b : Bool)
  | settled (a : α)
  deriving DecidableEq

structure Return (κ α : Type) where
  call : CacheCall κ α
  answer : Answer α
  /-- Whether the call put its value. -/
  hasPut : Bool
  deriving DecidableEq

namespace Return

def put? (e : Return κ α) : Option (κ × α) := if e.hasPut then e.call.offer? else none

/-- Whether the call inserted a value of the key. -/
def inserts [DecidableEq κ] (k : κ) (e : Return κ α) : Bool :=
  match e.call, e.answer with
  | .insertIfAbsent x _, .inserted isPut => x = k && isPut
  | _, _ => false

/-- The call got the value of the key, or computed it. -/
def Settles (k : κ) (a : α) (e : Return κ α) : Prop :=
  (∃ own, e.call = .getOrCompute k own) ∧ e.answer = .settled a

def Finds (k : κ) (found : Option α) (e : Return κ α) : Prop :=
  e.call = .get k ∧ e.answer = .found found

end Return

end CacheCall

open CacheCall

variable [DecidableEq κ]

/-! ## One after another on one cache -/

namespace Cache

/-- Makes a call without a break. -/
def perform (c : Cache κ α) (call : CacheCall κ α) : Cache κ α × Return κ α :=
  match call with
  | .get k =>
    let (c, found) := c.find? k
    (c, ⟨call, .found found, false⟩)
  | .contains k => (c, ⟨call, .holds (c.contains k), false⟩)
  | .insertIfAbsent k a =>
    let (c, isPut) := c.insertIfAbsent k a
    (c, ⟨call, .inserted isPut, isPut⟩)
  | .getOrCompute k a => ((c.getOrCompute k id a).1,
      ⟨call, .settled (c.getOrCompute k id a).2, !c.contains k⟩)

def performAll (c : Cache κ α) : List (CacheCall κ α) → Cache κ α × List (Return κ α)
  | [] => (c, [])
  | call :: calls =>
    let (c, e) := c.perform call
    let (c, events) := c.performAll calls
    (c, e :: events)

abbrev offerPairs (c : Cache κ α) (pairs : List (κ × α)) : Cache κ α × List (κ × α) :=
  offerAll (fun p => some p.1) (·.2) c pairs

variable (c : Cache κ α) (call : CacheCall κ α) (calls : List (CacheCall κ α))

theorem performAll_cons : c.performAll (call :: calls) =
    (((c.perform call).1.performAll calls).1,
      (c.perform call).2 :: ((c.perform call).1.performAll calls).2) := rfl

theorem performAll_append (more : List (CacheCall κ α)) : c.performAll (calls ++ more) =
    (((c.performAll calls).1.performAll more).1,
      (c.performAll calls).2 ++ ((c.performAll calls).1.performAll more).2) := by
  induction calls generalizing c with
  | nil => rfl
  | cons call calls ih =>
    rw [List.cons_append, performAll_cons, performAll_cons, ih]
    rfl

theorem call_perform : (c.perform call).2.call = call := by cases call <;> rfl

theorem map_call_performAll : (c.performAll calls).2.map (·.call) = calls := by
  induction calls generalizing c with
  | nil => rfl
  | cons call calls ih =>
    rw [performAll_cons, List.map_cons, call_perform, ih]

theorem length_performAll : (c.performAll calls).2.length = calls.length := by
  rw [← List.length_map (·.call), map_call_performAll]

theorem perform_get (hc : c.bound = none) (k : κ) :
    c.perform (.get k) = (c, ⟨.get k, .found (c.get? k), false⟩) := by
  rw [perform, find?_eq hc]

theorem perform_insertIfAbsent (k : κ) (a : α) : c.perform (.insertIfAbsent k a) =
    ((c.insertIfAbsent k a).1,
      ⟨.insertIfAbsent k a, .inserted (!c.contains k), !c.contains k⟩) := by
  rw [← snd_insertIfAbsent c k a]
  rfl

theorem perform_getOrCompute (hc : c.bound = none) (k : κ) (a : α) : c.perform (.getOrCompute k a) =
    ((c.insertIfAbsent k a).1,
      ⟨.getOrCompute k a, .settled ((c.get? k).getD a), !c.contains k⟩) := by
  rw [perform, getOrCompute_eq hc]

theorem offerPairs_singleton (k : κ) (a : α) : c.offerPairs [(k, a)] =
    ((c.insertIfAbsent k a).1, if !c.contains k then [(k, a)] else []) := by
  rw [offerPairs, offerAll_cons]
  rfl

theorem bound_perform : (c.perform call).1.bound = c.bound := by
  cases call with
  | get k => exact bound_find? k c
  | contains k => rfl
  | insertIfAbsent k a => rw [perform_insertIfAbsent, bound_insertIfAbsent]
  | getOrCompute k a => exact bound_getOrCompute k a c

theorem bound_performAll : (c.performAll calls).1.bound = c.bound := by
  induction calls generalizing c with
  | nil => rfl
  | cons call calls ih => rw [performAll_cons, ih, bound_perform]

theorem Within.perform {c : Cache κ α} (h : c.Within) (call : CacheCall κ α) :
    (c.perform call).1.Within := by
  cases call with
  | get k => exact h.find? k
  | contains k => exact h
  | insertIfAbsent k a =>
    rw [perform_insertIfAbsent]
    exact h.insertIfAbsent k a
  | getOrCompute k a => exact h.getOrCompute (fun _ => id) k a

theorem Within.performAll {c : Cache κ α} (h : c.Within) (calls : List (CacheCall κ α)) :
    (c.performAll calls).1.Within := by
  induction calls generalizing c with
  | nil => exact h
  | cons call calls ih =>
    rw [performAll_cons]
    exact ih (h.perform call)

/-- Whatever is called on a bounded cache, it has no more entries than there is room for. -/
theorem size_performAll_le (place : κ → Fin shards) (capacity : Nat) :
    ((ofCapacity place capacity : Cache κ α).performAll calls).1.size ≤
      shards * max ((capacity + (shards - 1)) / shards) 1 :=
  ((within_ofCapacity place capacity).performAll calls).size_le (bound_performAll _ _)

theorem perform_offer (hc : c.bound = none) :
    (c.perform call).1 = (c.offerPairs call.offer?.toList).1 ∧
    (c.perform call).2.put?.toList = (c.offerPairs call.offer?.toList).2 := by
  cases call with
  | get k =>
    rw [c.perform_get hc]
    exact ⟨rfl, rfl⟩
  | contains k => exact ⟨rfl, rfl⟩
  | insertIfAbsent k a =>
    rw [perform_insertIfAbsent, offer?, Option.toList_some, offerPairs_singleton]
    cases h : c.contains k <;> simp [Return.put?, offer?]
  | getOrCompute k a =>
    rw [c.perform_getOrCompute hc, offer?, Option.toList_some, offerPairs_singleton]
    cases h : c.contains k <;> simp [Return.put?, offer?]

/-- Calls in a row put what is kept of all that they offer. -/
theorem performAll_offer (hc : c.bound = none) :
    (c.performAll calls).1 = (c.offerPairs (calls.filterMap offer?)).1 ∧
    (c.performAll calls).2.filterMap Return.put? = (c.offerPairs (calls.filterMap offer?)).2 := by
  induction calls generalizing c with
  | nil => exact ⟨rfl, rfl⟩
  | cons call calls ih =>
    obtain ⟨hcache, hput⟩ := c.perform_offer call hc
    obtain ⟨hrest, hputs⟩ := ih (c.perform call).1 ((c.bound_perform call).trans hc)
    rw [performAll_cons, filterMap_cons_toList offer?, offerPairs, offerAll_append]
    dsimp only
    rw [filterMap_cons_toList Return.put?, hput, hrest, hputs, hcache]
    exact ⟨rfl, rfl⟩

theorem nodup_puts (hc : c.bound = none) :
    (((c.performAll calls).2.filterMap Return.put?).map (·.1)).Nodup := by
  rw [(c.performAll_offer calls hc).2, ← List.filterMap_eq_map]
  exact nodup_keys_offerAll (fun p : κ × α => some p.1) (·.2) c (roomFor_of_unbounded hc _)

/-- A key is put exactly if it was missing and a call offered a value of it. -/
theorem mem_puts_iff (hc : c.bound = none) {k : κ} :
    k ∈ ((c.performAll calls).2.filterMap Return.put?).map (·.1) ↔
      c.contains k = false ∧ k ∈ (calls.filterMap offer?).map (·.1) := by
  rw [(c.performAll_offer calls hc).2, ← List.filterMap_eq_map]
  exact mem_keys_offerAll (fun p : κ × α => some p.1) (·.2) c (roomFor_of_unbounded hc _)

theorem size_performAll (hc : c.bound = none) : (c.performAll calls).1.size =
    c.size + (((c.performAll calls).2.filterMap Return.put?).map (·.1)).length := by
  rw [(c.performAll_offer calls hc).1, (c.performAll_offer calls hc).2, List.length_map]
  generalize calls.filterMap offer? = pairs
  induction pairs generalizing c with
  | nil => rfl
  | cons p pairs ih =>
    have hone : (offer (fun p : κ × α => some p.1) (·.2) c p).1.size =
        c.size + if c.contains p.1 then 0 else 1 := size_insertIfAbsent hc p.1 p.2
    have hbound : (offer (fun p : κ × α => some p.1) (·.2) c p).1.bound = none :=
      (bound_insertIfAbsent p.1 p.2 c).trans hc
    unfold offerPairs at ih ⊢
    rw [offerAll_cons, ih _ hbound, hone]
    cases h : c.contains p.1 with
    | true => simp [isNew, h]
    | false => simp [isNew, h, Nat.add_assoc, Nat.add_comm 1]

/-! ### What a key has stays -/

variable {c call calls} {k : κ} {a : α}

theorem get?_perform (hc : c.bound = none) (h : c.get? k = some a) :
    (c.perform call).1.get? k = some a := by
  rw [(c.perform_offer call hc).1, offerPairs,
    get?_offerAll _ _ _ (roomFor_of_unbounded hc _), h, Option.some_or]

theorem get?_performAll (hc : c.bound = none) (h : c.get? k = some a) :
    (c.performAll calls).1.get? k = some a := by
  rw [(c.performAll_offer calls hc).1, offerPairs,
    get?_offerAll _ _ _ (roomFor_of_unbounded hc _), h, Option.some_or]

theorem get?_perform_of_settles (hc : c.bound = none) (h : (c.perform call).2.Settles k a) :
    (c.perform call).1.get? k = some a := by
  obtain ⟨⟨own, hcall⟩, hanswer⟩ := h
  rw [call_perform] at hcall
  subst hcall
  rw [c.perform_getOrCompute hc] at hanswer ⊢
  cases hanswer
  rw [get?_insertIfAbsent (roomFor_of_unbounded hc _), if_pos rfl]
  cases c.get? k <;> rfl

theorem get?_performAll_of_settles {e : Return κ α} (hc : c.bound = none)
    (he : e ∈ (c.performAll calls).2) (h : e.Settles k a) :
    (c.performAll calls).1.get? k = some a := by
  induction calls generalizing c with
  | nil => cases he
  | cons call calls ih =>
    rw [performAll_cons] at he ⊢
    rcases List.mem_cons.1 he with rfl | he
    · exact get?_performAll ((c.bound_perform call).trans hc) (get?_perform_of_settles hc h)
    · exact ih ((c.bound_perform call).trans hc) he

theorem eq_of_finds {e : Return κ α} {found : Option α} (hc : c.bound = none)
    (hk : c.get? k = some a) (he : e ∈ (c.performAll calls).2) (h : e.Finds k found) :
    found = some a := by
  induction calls generalizing c with
  | nil => cases he
  | cons call calls ih =>
    rw [performAll_cons] at he
    rcases List.mem_cons.1 he with rfl | he
    · obtain ⟨hcall, hanswer⟩ := h
      rw [call_perform] at hcall
      subst hcall
      rw [c.perform_get hc] at hanswer
      cases hanswer
      exact hk
    · exact ih ((c.bound_perform call).trans hc) (get?_perform hc hk) he

theorem inserts_iff (e : Return κ α) (he : e ∈ (c.performAll calls).2) :
    e.inserts k = true ↔ ∃ a, e.call = .insertIfAbsent k a ∧ e.put? = some (k, a) := by
  induction calls generalizing c with
  | nil => cases he
  | cons call calls ih =>
    rw [performAll_cons] at he
    rcases List.mem_cons.1 he with rfl | he
    · cases call with
      | get x => simp [perform, Return.inserts]
      | contains x => simp [perform, Return.inserts]
      | getOrCompute x b => simp [perform, Return.inserts]
      | insertIfAbsent x b =>
        by_cases hx : x = k
        · subst hx
          simp [perform_insertIfAbsent, Return.inserts, Return.put?, offer?]
        · simp [perform_insertIfAbsent, Return.inserts, hx]
    · exact ih he

theorem call_mem_of_mem_performAll {e : Return κ α} (he : e ∈ (c.performAll calls).2) :
    e.call ∈ calls := by
  rw [← c.map_call_performAll calls]
  exact List.mem_map_of_mem he

variable (c calls) in
theorem countP_inserts_le (hc : c.bound = none) (k : κ) :
    (c.performAll calls).2.countP (·.inserts k) ≤ 1 := by
  refine le_trans ?_ (List.nodup_iff_count_le_one.1 (c.nodup_puts calls hc) k)
  rw [List.count, List.countP_map, List.countP_filterMap]
  refine List.countP_mono_left fun e he h => ?_
  obtain ⟨a, -, hput⟩ := (inserts_iff e he).1 h
  simp [hput]

/-- If the key was missing and no call computes a value of it, one of the calls that insert a value
does. -/
theorem exists_inserts (hc : c.bound = none) (hk : c.contains k = false)
    (hinsert : .insertIfAbsent k a ∈ calls) (hcompute : ∀ b, .getOrCompute k b ∉ calls) :
    ∃ e ∈ (c.performAll calls).2, e.inserts k = true := by
  have hoffer : k ∈ (calls.filterMap offer?).map (·.1) :=
    List.mem_map.2 ⟨(k, a), List.mem_filterMap.2 ⟨_, hinsert, rfl⟩, rfl⟩
  obtain ⟨p, hp, rfl⟩ := List.mem_map.1 ((c.mem_puts_iff calls hc).2 ⟨hk, hoffer⟩)
  obtain ⟨e, he, hput⟩ := List.mem_filterMap.1 hp
  have hcall := call_mem_of_mem_performAll he
  refine ⟨e, he, (inserts_iff e he).2 ?_⟩
  have hoffers : e.call.offer? = some p := by
    unfold Return.put? at hput
    split at hput
    · exact hput
    · cases hput
  cases hkind : e.call with
  | get x =>
    rw [hkind] at hoffers
    cases hoffers
  | contains x =>
    rw [hkind] at hoffers
    cases hoffers
  | insertIfAbsent x b =>
    rw [hkind] at hoffers
    cases hoffers
    exact ⟨b, rfl, hput⟩
  | getOrCompute x b =>
    rw [hkind] at hoffers hcall
    cases hoffers
    exact absurd hcall (hcompute b)

/-- What returned first and what returned later, each as a row of calls of its own. -/
theorem performAll_eq_append {before after : List (Return κ α)}
    (h : (c.performAll calls).2 = before ++ after) :
    before = (c.performAll (before.map (·.call))).2 ∧
    after = ((c.performAll (before.map (·.call))).1.performAll (after.map (·.call))).2 := by
  have hcalls : calls = before.map (·.call) ++ after.map (·.call) := by
    rw [← List.map_append, ← h, map_call_performAll]
  have hlength : before.length = (c.performAll (before.map (·.call))).2.length := by
    rw [length_performAll, List.length_map]
  rw [hcalls, performAll_append] at h
  exact List.append_inj h.symm hlength

end Cache

/-! ## In turns on a cache in parts -/

/-- How far a caller is. -/
inductive Caller (κ α : Type) where
  /-- Before its next call, if there is one. -/
  | ready (todo : List (CacheCall κ α))
  /-- A key was missing, and its value is being computed. -/
  | computing (k : κ) (a : α) (todo : List (CacheCall κ α))
  /-- The value is computed but not put yet. -/
  | computed (k : κ) (a : α) (todo : List (CacheCall κ α))

namespace Caller

def calls : Caller κ α → List (CacheCall κ α)
  | .ready todo => todo
  | .computing k a todo => .getOrCompute k a :: todo
  | .computed k a todo => .getOrCompute k a :: todo

/-- The turn of a caller; also the call that returns in it, if there is one. -/
def turn (place : κ → Fin n) (s : Sharded n κ α) :
    Caller κ α → Sharded n κ α × Caller κ α × Option (Return κ α)
  | .ready [] => (s, .ready [], none)
  | .ready (.get k :: todo) =>
    (s, .ready todo, some ⟨.get k, .found (s.get? place k), false⟩)
  | .ready (.contains k :: todo) =>
    (s, .ready todo, some ⟨.contains k, .holds (s.contains place k), false⟩)
  | .ready (.insertIfAbsent k a :: todo) =>
    let (s, isPut) := s.insertIfAbsent place k a
    (s, .ready todo, some ⟨.insertIfAbsent k a, .inserted isPut, isPut⟩)
  | .ready (.getOrCompute k a :: todo) =>
    match s.get? place k with
    | some kept => (s, .ready todo, some ⟨.getOrCompute k a, .settled kept, false⟩)
    | none => (s, .computing k a todo, none)
  | .computing k a todo => (s, .computed k a todo, none)
  | .computed k a todo =>
    let isPut := !s.contains place k
    let (s, kept) := s.settle place k a
    (s, .ready todo, some ⟨.getOrCompute k a, .settled kept, isPut⟩)

variable {place : κ → Fin n} {s : Sharded n κ α} {c : Cache κ α}

/-- In a turn nothing returns and the cache stays as it is, or a call returns as if it were made in
this turn. -/
theorem turn_cases (h : s.Matches place c) (caller : Caller κ α) :
    (∃ caller', caller.turn place s = (s, caller', none) ∧ caller'.calls = caller.calls) ∨
    ∃ s' caller' call, caller.turn place s = (s', caller', some (c.perform call).2) ∧
      s'.Matches place (c.perform call).1 ∧ caller.calls = call :: caller'.calls := by
  match caller with
  | .ready [] => exact .inl ⟨.ready [], rfl, rfl⟩
  | .ready (.get k :: todo) =>
    refine .inr ⟨s, .ready todo, .get k, ?_, ?_, rfl⟩
    · rw [turn, h.get?, c.perform_get h.bound]
    · rw [c.perform_get h.bound]
      exact h
  | .ready (.contains k :: todo) =>
    refine .inr ⟨s, .ready todo, .contains k, ?_, h, rfl⟩
    rw [turn, h.contains]
    rfl
  | .ready (.insertIfAbsent k a :: todo) =>
    refine .inr ⟨_, .ready todo, .insertIfAbsent k a, ?_, h.insertIfAbsent k a, rfl⟩
    rw [Cache.perform_insertIfAbsent, ← h.snd_insertIfAbsent k a]
    rfl
  | .ready (.getOrCompute k a :: todo) =>
    have hget := h.get? k
    rw [turn]
    cases hk : s.get? place k with
    | none => exact .inl ⟨.computing k a todo, rfl, rfl⟩
    | some kept =>
      rw [hk] at hget
      have hthere : c.contains k = true := Cache.contains_iff.2 ⟨kept, hget.symm⟩
      refine .inr ⟨s, .ready todo, .getOrCompute k a, ?_, ?_, rfl⟩
      · rw [c.perform_getOrCompute h.bound, ← hget, hthere]
        rfl
      · have hsame : (c.perform (.getOrCompute k a)).1 = c := by
          rw [c.perform_getOrCompute h.bound, Cache.insertIfAbsent, hthere]
          rfl
        rw [hsame]
        exact h
  | .computing k a todo => exact .inl ⟨.computed k a todo, rfl, rfl⟩
  | .computed k a todo =>
    refine .inr ⟨(s.insertIfAbsent place k a).1, .ready todo, .getOrCompute k a, ?_,
      ?_, rfl⟩
    · rw [turn, h.settle_eq, h.contains, h.get?, c.perform_getOrCompute h.bound]
    · rw [c.perform_getOrCompute h.bound]
      exact h.insertIfAbsent k a

end Caller

structure Shared (n : Nat) (κ α : Type) where
  cache : Sharded n κ α
  callers : List (Caller κ α)

namespace Shared

/-- The cache is empty, and every caller has its calls before it. -/
def start (programs : List (List (CacheCall κ α))) : Shared n κ α := ⟨.empty, programs.map .ready⟩

variable (place : κ → Fin n)

def step (s : Shared n κ α) (i : Nat) : Shared n κ α × Option (Return κ α) :=
  match s.callers[i]? with
  | none => (s, none)
  | some caller =>
    let (cache, caller, returned) := caller.turn place s.cache
    (⟨cache, s.callers.set i caller⟩, returned)

/-- It is the turn of one caller after another; also the calls in the order in which they return. -/
def run (s : Shared n κ α) : List Nat → Shared n κ α × List (Return κ α)
  | [] => (s, [])
  | i :: schedule =>
    let (s, returned) := s.step place i
    let (s, events) := s.run schedule
    (s, returned.toList ++ events)

def calls (s : Shared n κ α) : List (CacheCall κ α) := s.callers.flatMap Caller.calls

theorem run_cons (s : Shared n κ α) (i : Nat) (schedule : List Nat) :
    s.run place (i :: schedule) = (((s.step place i).1.run place schedule).1,
      (s.step place i).2.toList ++ ((s.step place i).1.run place schedule).2) := rfl

variable {place} {s : Shared n κ α} {c : Cache κ α}

omit [DecidableEq κ] in
theorem calls_set_subset {callers : List (Caller κ α)} {i : Nat} {caller caller' : Caller κ α}
    (hi : callers[i]? = some caller) (h : caller'.calls ⊆ caller.calls) :
    (callers.set i caller').flatMap Caller.calls ⊆ callers.flatMap Caller.calls := by
  intro call hmem
  obtain ⟨x, hx, hcall⟩ := List.mem_flatMap.1 hmem
  rcases List.mem_or_eq_of_mem_set hx with hx | rfl
  · exact List.mem_flatMap.2 ⟨x, hx, hcall⟩
  · exact List.mem_flatMap.2 ⟨caller, List.mem_of_getElem? hi, h hcall⟩

theorem step_cases (h : s.cache.Matches place c) (i : Nat) :
    (s.step place i).1.calls ⊆ s.calls ∧
    ((s.step place i).2 = none ∧ (s.step place i).1.cache = s.cache ∨
      ∃ call ∈ s.calls, (s.step place i).2 = some (c.perform call).2 ∧
        (s.step place i).1.cache.Matches place (c.perform call).1) := by
  unfold step
  cases hi : s.callers[i]? with
  | none => exact ⟨fun _ => id, .inl ⟨rfl, rfl⟩⟩
  | some caller =>
    dsimp only
    rcases caller.turn_cases h with
      ⟨caller', hturn, hcalls⟩ | ⟨s', caller', call, hturn, hs', hcalls⟩
    · rw [hturn]
      exact ⟨calls_set_subset hi fun _ hcall => hcalls ▸ hcall, .inl ⟨rfl, rfl⟩⟩
    · rw [hturn]
      have hsubset : caller'.calls ⊆ caller.calls := by
        rw [hcalls]
        exact List.subset_cons_self call _
      have hcall : call ∈ s.calls :=
        List.mem_flatMap.2 ⟨caller, List.mem_of_getElem? hi, hcalls ▸ List.mem_cons_self⟩
      exact ⟨calls_set_subset hi hsubset, .inr ⟨call, hcall, rfl, hs'⟩⟩

/-- Whatever the schedule is, the calls answer as on one cache, made one after another in the order
in which they return. -/
theorem run_eq_performAll (h : s.cache.Matches place c) (schedule : List Nat) :
    ∃ calls ⊆ s.calls, (s.run place schedule).2 = (c.performAll calls).2 ∧
      (s.run place schedule).1.cache.Matches place (c.performAll calls).1 := by
  induction schedule generalizing s c with
  | nil => exact ⟨[], List.nil_subset _, rfl, h⟩
  | cons i schedule ih =>
    rw [run_cons]
    obtain ⟨hcalls, ⟨hnone, hcache⟩ | ⟨call, hcall, hsome, hmatches⟩⟩ := step_cases h i
    · obtain ⟨calls, hsub, hevents, hend⟩ := ih (s := (s.step place i).1) (hcache ▸ h)
      refine ⟨calls, List.Subset.trans hsub hcalls, ?_, hend⟩
      rw [hnone, ← hevents]
      rfl
    · obtain ⟨calls, hsub, hevents, hend⟩ := ih hmatches
      refine ⟨call :: calls, List.cons_subset.2 ⟨hcall, List.Subset.trans hsub hcalls⟩, ?_, hend⟩
      rw [hsome, hevents]
      rfl

omit [DecidableEq κ] in
theorem mem_calls_start {programs : List (List (CacheCall κ α))} {call : CacheCall κ α} :
    call ∈ (start programs : Shared n κ α).calls ↔ ∃ program ∈ programs, call ∈ program := by
  simp [start, calls, Caller.calls]

/-- Callers share a cache that was empty, and it is their turn on some schedule. Each key is put at
most once. For each key at most one call that inserts a value returns that it did, and exactly one
if such a call returns and no caller computes a value of the key. All calls that get the value of a
key or compute it return the same value, and every later call that looks the key up finds it. There
are as many entries as there are keys that were put. -/
theorem calls_agree {programs : List (List (CacheCall κ α))} {schedule : List Nat}
    {s : Shared n κ α} {events : List (Return κ α)}
    (hrun : (start programs).run place schedule = (s, events)) :
    ((events.filterMap Return.put?).map (·.1)).Nodup ∧
    (∀ k, events.countP (·.inserts k) ≤ 1) ∧
    (∀ k, (∃ e ∈ events, ∃ a, e.call = .insertIfAbsent k a) →
      (∀ program ∈ programs, ∀ a, .getOrCompute k a ∉ program) →
      events.countP (·.inserts k) = 1) ∧
    (∀ k a b, (∃ e ∈ events, e.Settles k a) → (∃ e ∈ events, e.Settles k b) → a = b) ∧
    (∀ before after, events = before ++ after → ∀ k a found, (∃ e ∈ before, e.Settles k a) →
      (∃ e ∈ after, e.Finds k found) → found = some a) ∧
    s.cache.size = ((events.filterMap Return.put?).map (·.1)).dedup.length := by
  obtain ⟨calls, hcalls, hevents, hmatches⟩ :=
    run_eq_performAll (s := start programs) (Sharded.matches_empty place) schedule
  rw [hrun] at hevents hmatches
  have hnodup := (Cache.empty : Cache κ α).nodup_puts calls rfl
  have hsize := (Cache.empty : Cache κ α).size_performAll calls rfl
  dsimp only at hevents hmatches
  rw [← hevents] at hnodup hsize
  refine ⟨hnodup, fun k => ?_, ?_, ?_, ?_, ?_⟩
  · rw [hevents]
    exact Cache.countP_inserts_le _ _ rfl k
  · rintro k ⟨e, he, a, hcall⟩ hnone
    rw [hevents] at he ⊢
    have hinsert : .insertIfAbsent k a ∈ calls := hcall ▸ Cache.call_mem_of_mem_performAll he
    have hcompute : ∀ b, .getOrCompute k b ∉ calls := by
      intro b hb
      obtain ⟨program, hprogram, hmem⟩ := mem_calls_start.1 (hcalls hb)
      exact hnone program hprogram b hmem
    have hmissing : (Cache.empty : Cache κ α).contains k = false := rfl
    have hpos := List.countP_pos_iff.2 (Cache.exists_inserts rfl hmissing hinsert hcompute)
    exact le_antisymm (Cache.countP_inserts_le _ _ rfl k) hpos
  · rintro k a b ⟨e, he, ha⟩ ⟨e', he', hb⟩
    rw [hevents] at he he'
    have hend := Cache.get?_performAll_of_settles rfl he ha
    rw [Cache.get?_performAll_of_settles rfl he' hb] at hend
    exact (Option.some.inj hend).symm
  · rintro before after hsplit k a found ⟨e, he, ha⟩ ⟨e', he', hfound⟩
    obtain ⟨hbefore, hafter⟩ := Cache.performAll_eq_append (hevents.symm.trans hsplit)
    rw [hbefore] at he
    rw [hafter] at he'
    exact Cache.eq_of_finds (Cache.bound_performAll _ _)
      (Cache.get?_performAll_of_settles rfl he ha) he' hfound
  · rw [hmatches.size, hsize, hnodup.dedup]
    exact Nat.zero_add _

end Shared

namespace Sample

/-- Two callers compute a value of the key 0, and one of them looks it up then. A third inserts
values, two of them of the key 1. -/
def programs : List (List (CacheCall Nat Nat)) :=
  [[.getOrCompute 0 10], [.getOrCompute 0 20, .get 0],
   [.insertIfAbsent 1 30, .insertIfAbsent 0 40, .insertIfAbsent 1 50]]

/-- Both callers find the key missing before either puts its value. -/
def schedule : List Nat := [0, 1, 0, 1, 2, 1, 0, 1, 2, 2]

def parity (k : Nat) : Fin 2 := ⟨k % 2, Nat.mod_lt k Nat.two_pos⟩

def returned : List (Return Nat Nat) :=
  [⟨.insertIfAbsent 1 30, .inserted true, true⟩, ⟨.getOrCompute 0 20, .settled 20, true⟩,
   ⟨.getOrCompute 0 10, .settled 20, false⟩, ⟨.get 0, .found (some 20), false⟩,
   ⟨.insertIfAbsent 0 40, .inserted false, false⟩,
   ⟨.insertIfAbsent 1 50, .inserted false, false⟩]

end Sample

namespace Shared

/-- Two callers that compute different values of a key both get the one that was put first, and so
does the one that looks it up later. -/
theorem both_get_first_value : ∃ s,
    (start Sample.programs).run Sample.parity Sample.schedule = (s, Sample.returned) ∧
    (∀ a, (∃ e ∈ Sample.returned, e.Settles 0 a) → a = 20) ∧
    (∀ found, (∃ e ∈ Sample.returned.drop 3, e.Finds 0 found) → found = some 20) ∧
    Sample.returned.countP (·.inserts 1) = 1 ∧ s.cache.size = 2 := by
  have hreturned : ((start Sample.programs).run Sample.parity Sample.schedule).2 =
      Sample.returned := by decide
  have hrun : (start Sample.programs).run Sample.parity Sample.schedule =
      (((start Sample.programs).run Sample.parity Sample.schedule).1, Sample.returned) :=
    Prod.ext rfl hreturned
  obtain ⟨-, -, hinserts, hsettles, hfinds, hsize⟩ := calls_agree hrun
  have hfirst : ∃ e ∈ Sample.returned.take 3, e.Settles 0 20 :=
    ⟨⟨.getOrCompute 0 20, .settled 20, true⟩, by decide, ⟨20, rfl⟩, rfl⟩
  have hone : ∃ e ∈ Sample.returned, ∃ a, e.call = .insertIfAbsent 1 a :=
    ⟨⟨.insertIfAbsent 1 30, .inserted true, true⟩, by decide, 30, rfl⟩
  refine ⟨_, hrun, fun a ha => ?_, fun found hfound => ?_, hinserts 1 hone ?_, hsize⟩
  · obtain ⟨e, he, hsettled⟩ := hfirst
    exact hsettles 0 a 20 ha ⟨e, List.mem_of_mem_take he, hsettled⟩
  · exact hfinds _ _ (List.take_append_drop 3 _).symm 0 20 found hfirst hfound
  · intro program hprogram a
    simp only [Sample.programs, List.mem_cons, List.not_mem_nil, or_false] at hprogram
    rcases hprogram with rfl | rfl | rfl <;> simp

end Shared

end CodeChunks
