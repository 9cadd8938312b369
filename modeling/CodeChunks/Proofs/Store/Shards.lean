import CodeChunks.Proofs.Store.Offer
import Mathlib.Algebra.BigOperators.Group.Finset.Piecewise
import Mathlib.Algebra.Order.BigOperators.Group.Finset
import Mathlib.Data.Fintype.Card

/-!
# Caches in parts

A shared cache is kept in parts, each with a lock of its own, and the hash of a key says in which
part it is. An operation on a key is that of its part. A cache with a bound stays `Cache.Within` it
whatever is done to it. Without a bound the cache is a `Sharded` one here, and whatever the hash is,
its parts together answer like one cache, which it `Matches`.
-/

namespace CodeChunks

variable {n : Nat} {κ α : Type}

structure Sharded (n : Nat) (κ α : Type) where
  part : Fin n → Cache κ α

namespace Sharded

def empty : Sharded n κ α := ⟨fun _ => .empty⟩

def setPart (s : Sharded n κ α) (i : Fin n) (c : Cache κ α) : Sharded n κ α :=
  ⟨Function.update s.part i c⟩

def size (s : Sharded n κ α) : Nat := ∑ i, (s.part i).size

theorem size_setPart (s : Sharded n κ α) (i : Fin n) (c : Cache κ α) :
    (s.setPart i c).size + (s.part i).size = s.size + c.size := by
  have hnew : (s.setPart i c).size =
      ∑ j, Function.update (fun j => (s.part j).size) i c.size j := by
    refine Finset.sum_congr rfl fun j _ => ?_
    by_cases hj : j = i
    · subst hj
      simp [setPart]
    · simp [setPart, hj]
  have hold := Finset.add_sum_erase Finset.univ (fun j => (s.part j).size) (Finset.mem_univ i)
  rw [hnew, Finset.sum_update_of_mem (Finset.mem_univ i), Finset.sdiff_singleton_eq_erase]
  unfold size
  omega

end Sharded

/-! ## Parts with a bound -/

namespace Cache

variable {c : Cache κ α}

/-- No part has more keys than there is room for in it, and each has room for one. -/
structure Within (c : Cache κ α) : Prop where
  room_pos : ∀ b ∈ c.bound, 0 < b.room
  held_le : ∀ b ∈ c.bound, ∀ i, c.entries.keys.countP (b.place · = i) ≤ b.room

theorem within_ofCapacity (place : κ → Fin shards) (capacity : Nat) :
    (ofCapacity place capacity : Cache κ α).Within where
  room_pos := by
    rintro b ⟨⟩
    exact Nat.le_max_right _ 1
  held_le b _ i := Nat.zero_le _

/-- A cache never has more entries than all its parts have room for. -/
theorem Within.size_le (h : c.Within) {b : Bound κ} (hb : c.bound = some b) :
    c.size ≤ shards * b.room := by
  have hsum : ∀ ks : List κ, ks.length = ∑ i, ks.countP (b.place · = i) := fun ks => by
    induction ks with
    | nil => simp
    | cons k ks ih => simp [List.countP_cons, Finset.sum_add_distrib, ← ih]
  calc c.size = c.entries.keys.length := by rw [size, Table.keys, List.length_map]
    _ = ∑ i, c.entries.keys.countP (b.place · = i) := hsum _
    _ ≤ ∑ _i : Fin shards, b.room := Finset.sum_le_sum fun i _ => h.held_le b hb i
    _ = shards * b.room := by simp

theorem spared_sublist (c : Cache κ α) (k : κ) : (c.spared k).Sublist c.entries := by
  unfold spared
  split
  · exact List.Sublist.refl _
  · split
    · exact List.Sublist.refl _
    · exact List.eraseP_sublist

/-- If a part is full, one of its keys gives way. -/
theorem Within.held_spared_lt (h : c.Within) {b : Bound κ} (hb : c.bound = some b) (k : κ) :
    (c.spared k).keys.countP (b.place · = b.place k) < b.room := by
  have hle := h.held_le b hb (b.place k)
  have hpos := h.room_pos b hb
  rw [← b.countP_holds] at hle ⊢
  unfold spared
  rw [hb]
  dsimp only
  split
  · next hroom => exact hroom
  · next hfull =>
    -- A full part has a key, since it has room for one, and losing it makes room for another.
    have hsome : 0 < c.entries.countP (b.holds (b.place k)) := by omega
    obtain ⟨e, he, hplace⟩ := List.countP_pos_iff.1 hsome
    obtain ⟨e', before, after, -, hplace', hentries, hspared⟩ := List.exists_of_eraseP he hplace
    rw [hspared, List.countP_append]
    rw [hentries, List.countP_append, List.countP_cons_of_pos hplace'] at hle
    omega

end Cache

variable [DecidableEq κ]

namespace Cache

variable {c : Cache κ α}

theorem Within.put (h : c.Within) (k : κ) (a : α) : (c.put k a).Within where
  room_pos := h.room_pos
  held_le b hb i := by
    refine Nat.le_trans (Table.countP_keys_insert_le _ k a _) ?_
    by_cases hi : b.place k = i
    · subst hi
      have hlt := h.held_spared_lt hb k
      simp only [decide_true, if_true]
      omega
    · have hsub := ((c.spared_sublist k).map (·.1)).countP_le (p := (b.place · = i))
      have hle := h.held_le b hb i
      simp only [hi, decide_false, Bool.false_eq_true, if_false, Nat.add_zero]
      exact Nat.le_trans hsub hle

/-- To look a key up only changes which key gives way first. -/
theorem Within.find? (h : c.Within) (k : κ) : (c.find? k).1.Within := by
  unfold Cache.find?
  split
  · next b a hb hget =>
    refine ⟨h.room_pos, fun b' hb' i => ?_⟩
    have hmem : k ∈ c.entries.keys := by
      by_contra hnot
      rw [get?, Table.get?_eq_none_iff.2 hnot] at hget
      cases hget
    have herase := Table.countP_keys_erase hmem (b'.place · = i)
    have hinsert := Table.countP_keys_insert_le (c.entries.erase k) k a (b'.place · = i)
    have hle := h.held_le b' hb' i
    exact Nat.le_trans (hinsert.trans_eq herase) hle
  · exact h

theorem Within.insertIfAbsent (h : c.Within) (k : κ) (a : α) :
    (c.insertIfAbsent k a).1.Within := by
  unfold Cache.insertIfAbsent
  split
  · exact h
  · exact h.put k a

theorem Within.settle (h : c.Within) (k : κ) (a : α) : (c.settle k a).1.Within := by
  have hfind := h.find? k
  unfold Cache.settle
  split
  · next hsome =>
    rw [hsome] at hfind
    exact hfind
  · next hnone =>
    rw [hnone] at hfind
    exact hfind.put k a

theorem Within.getOrCompute (h : c.Within) {meanwhile : Cache κ α → Cache κ α}
    (hmeanwhile : ∀ c : Cache κ α, c.Within → (meanwhile c).Within) (k : κ) (a : α) :
    (c.getOrCompute k meanwhile a).1.Within := by
  have hfind := h.find? k
  unfold Cache.getOrCompute
  split
  · next hsome =>
    rw [hsome] at hfind
    exact hfind
  · next hnone =>
    rw [hnone] at hfind
    exact (hmeanwhile _ hfind).settle k a

end Cache

/-! ## Parts without a bound -/

namespace Cache

variable {c : Cache κ α} (hc : c.bound = none) (k : κ) (a : α)

@[simp] theorem bound_insertIfAbsent (c : Cache κ α) :
    (c.insertIfAbsent k a).1.bound = c.bound := by
  unfold insertIfAbsent
  split <;> rfl

@[simp] theorem bound_find? (c : Cache κ α) : (c.find? k).1.bound = c.bound := by
  unfold find?
  split <;> rfl

theorem bound_settle (c : Cache κ α) : (c.settle k a).1.bound = c.bound := by
  rw [← bound_find? k c]
  unfold settle
  split
  · next h => rw [h]
  · next h =>
    rw [h]
    rfl

theorem bound_getOrCompute (c : Cache κ α) : (c.getOrCompute k id a).1.bound = c.bound := by
  rw [← bound_find? k c]
  unfold getOrCompute
  split
  · next h => rw [h]
  · next h => rw [h, id_eq, bound_settle]

include hc

theorem find?_eq : c.find? k = (c, c.get? k) := by
  unfold find?
  rw [hc]

theorem settle_eq : c.settle k a = ((c.insertIfAbsent k a).1, (c.get? k).getD a) := by
  unfold settle insertIfAbsent
  rw [find?_eq hc, contains_eq_isSome]
  cases c.get? k <;> rfl

theorem getOrCompute_eq :
    c.getOrCompute k id a = ((c.insertIfAbsent k a).1, (c.get? k).getD a) := by
  unfold getOrCompute
  rw [find?_eq hc]
  cases h : c.get? k with
  | none =>
    dsimp only
    rw [id_eq, settle_eq hc, h]
  | some kept =>
    have hthere : c.contains k = true := contains_iff.2 ⟨kept, h⟩
    simp [insertIfAbsent, hthere]

theorem size_insertIfAbsent :
    (c.insertIfAbsent k a).1.size = c.size + if c.contains k then 0 else 1 := by
  unfold insertIfAbsent
  cases h : c.contains k with
  | true => rfl
  | false =>
    have hroom := roomFor_of_unbounded hc [k]
    simp only [Bool.false_eq_true, if_false, size, put]
    rw [hroom.spared_eq (by simp) h, Table.length_insert (not_mem_keys h)]

end Cache

namespace Sharded

variable (place : κ → Fin n)

def get? (s : Sharded n κ α) (k : κ) : Option α := (s.part (place k)).get? k

def contains (s : Sharded n κ α) (k : κ) : Bool := (s.part (place k)).contains k

def insertIfAbsent (s : Sharded n κ α) (k : κ) (a : α) : Sharded n κ α × Bool :=
  let (c, isPut) := (s.part (place k)).insertIfAbsent k a
  (s.setPart (place k) c, isPut)

def settle (s : Sharded n κ α) (k : κ) (a : α) : Sharded n κ α × α :=
  let (c, kept) := (s.part (place k)).settle k a
  (s.setPart (place k) c, kept)

/-- The parts answer like one cache. -/
structure Matches (s : Sharded n κ α) (c : Cache κ α) : Prop where
  bound : c.bound = none
  partBound : ∀ i, (s.part i).bound = none
  get? : ∀ k, s.get? place k = c.get? k
  size : s.size = c.size

theorem matches_empty : Matches place (empty : Sharded n κ α) .empty where
  bound := rfl
  partBound _ := rfl
  get? _ := rfl
  size := Finset.sum_eq_zero fun _ _ => rfl

variable {place} {s : Sharded n κ α} {c : Cache κ α}

theorem Matches.contains (h : Matches place s c) (k : κ) : s.contains place k = c.contains k := by
  have hget := h.get? k
  unfold Sharded.contains
  rw [Cache.contains_eq_isSome, Cache.contains_eq_isSome, ← hget]
  rfl

theorem Matches.settle_eq (h : Matches place s c) (k : κ) (a : α) :
    s.settle place k a = ((s.insertIfAbsent place k a).1, (s.get? place k).getD a) := by
  unfold settle insertIfAbsent
  rw [Cache.settle_eq (h.partBound _)]
  rfl

theorem part_insertIfAbsent (k : κ) (a : α) (i : Fin n) : (s.insertIfAbsent place k a).1.part i =
    if i = place k then ((s.part i).insertIfAbsent k a).1 else s.part i := by
  unfold insertIfAbsent setPart
  by_cases hi : i = place k
  · subst hi
    simp
  · simp [hi]

/-- A key whose part does not change keeps its value, and the others are in the same part. -/
theorem Matches.get?_insertIfAbsent (h : Matches place s c) (k x : κ) (a : α) :
    (s.insertIfAbsent place k a).1.get? place x =
      (s.get? place x).or (if k = x then some a else none) := by
  unfold Sharded.get?
  rw [part_insertIfAbsent]
  split
  · exact Cache.get?_insertIfAbsent (Cache.roomFor_of_unbounded (h.partBound _) _) x a
  · next hplace =>
    have hne : k ≠ x := fun e => hplace (congrArg place e.symm)
    rw [if_neg hne, Option.or_none]

theorem Matches.insertIfAbsent (h : Matches place s c) (k : κ) (a : α) :
    Matches place (s.insertIfAbsent place k a).1 (c.insertIfAbsent k a).1 where
  bound := by rw [Cache.bound_insertIfAbsent, h.bound]
  partBound i := by
    rw [part_insertIfAbsent]
    split <;> simp [h.partBound]
  get? x := by
    rw [h.get?_insertIfAbsent,
      Cache.get?_insertIfAbsent (Cache.roomFor_of_unbounded h.bound _), h.get?]
  size := by
    have hpart := s.size_setPart (place k) ((s.part (place k)).insertIfAbsent k a).1
    have hthere : (s.part (place k)).contains k = c.contains k := h.contains k
    rw [Cache.size_insertIfAbsent (h.partBound _), hthere] at hpart
    have hsize := h.size
    rw [Cache.size_insertIfAbsent h.bound]
    unfold Sharded.insertIfAbsent
    dsimp only
    omega

theorem Matches.snd_insertIfAbsent (h : Matches place s c) (k : κ) (a : α) :
    (s.insertIfAbsent place k a).2 = !c.contains k := by
  rw [← h.contains k]
  exact Cache.snd_insertIfAbsent _ k a

end Sharded

end CodeChunks
