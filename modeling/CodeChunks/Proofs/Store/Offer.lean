import CodeChunks.Store.Cache
import Mathlib.Data.List.Dedup
import Mathlib.Data.List.Perm.Lattice
import Mathlib.Data.List.Perm.Subperm

/-!
# Offering items to a cache

Items are offered to a cache one after another (`Cache.offerAll`). An item without a key is kept and
leaves no trace; an item with a key is kept, and put under its key, if the key has no value yet. So
of the items with a key those are kept whose key is neither in the cache nor that of an earlier
item, and the cache has for each key the value of the first item with it. In a bounded cache this
holds as long as no part overflows, for which the cache must be `RoomFor` the keys that come up.
-/

namespace CodeChunks

theorem filterMap_cons_toList {α β : Type} (f : α → Option β) (a : α) (xs : List α) :
    (a :: xs).filterMap f = (f a).toList ++ xs.filterMap f := by
  cases h : f a <;> simp [h]

/-- Dropping repeated items depends on the relation between the items alone. -/
theorem eraseDupsBy_congr {α : Type} {r s : α → α → Bool} (xs : List α)
    (h : ∀ a ∈ xs, ∀ b ∈ xs, r a b = s a b) : xs.eraseDupsBy r = xs.eraseDupsBy s := by
  match xs with
  | [] => rfl
  | a :: xs =>
    have hfilter : xs.filter (fun b => decide (r b a = false)) =
        xs.filter fun b => decide (s b a = false) :=
      List.filter_congr fun b hb => by rw [h b (by simp [hb]) a (by simp)]
    rw [List.eraseDupsBy_cons, List.eraseDupsBy_cons, hfilter]
    have hrest : ∀ b ∈ xs.filter (fun b => decide (s b a = false)), b ∈ a :: xs :=
      fun b hb => List.mem_cons_of_mem a (List.mem_filter.1 hb).1
    rw [eraseDupsBy_congr _ fun b hb d hd => h b (hrest b hb) d (hrest d hd)]
termination_by xs.length
decreasing_by
  have := List.length_filter_le (fun b => decide (s b a = false)) xs
  simp only [List.length_cons]
  omega

theorem Bound.countP_holds {κ α : Type} (b : Bound κ) (i : Fin Cache.shards) (t : Table κ α) :
    t.countP (b.holds i) = t.keys.countP fun k => b.place k = i := by
  rw [Table.keys, List.countP_map]
  rfl

namespace Cache

variable {α κ β : Type} [DecidableEq κ]

/-- Offers an item; also whether it is kept. -/
def offer (key : α → Option κ) (value : α → β) (c : Cache κ β) (a : α) : Cache κ β × Bool :=
  match key a with
  | none => (c, true)
  | some k => c.insertIfAbsent k (value a)

/-- Offers items in a row; also those that are kept. -/
def offerAll (key : α → Option κ) (value : α → β) (c : Cache κ β) : List α → Cache κ β × List α
  | [] => (c, [])
  | a :: rest =>
    let (c, isKept) := offer key value c a
    let (c, kept) := offerAll key value c rest
    (c, if isKept then a :: kept else kept)

/-- Whether the key of an item, if it has one, has no value. -/
def isNew (key : α → Option κ) (c : Cache κ β) (a : α) : Bool := (key a).all fun k => !c.contains k

/-! ## Room -/

section Room

variable {c : Cache κ β} {k : κ}

theorem contains_eq_isSome (c : Cache κ β) (k : κ) : c.contains k = (c.get? k).isSome := rfl

theorem not_mem_keys (h : c.contains k = false) : k ∉ c.entries.keys :=
  Table.get?_eq_none_iff.1 (by simpa [contains, Table.contains] using h)

/-- The keys without a value, each once. -/
def newKeys (c : Cache κ β) (ks : List κ) : List κ := ks.dedup.filter fun k => !c.contains k

theorem mem_newKeys (c : Cache κ β) {ks : List κ} {k : κ} :
    k ∈ c.newKeys ks ↔ c.contains k = false ∧ k ∈ ks := by
  simp [newKeys, and_comm]

theorem nodup_newKeys (c : Cache κ β) (ks : List κ) : (c.newKeys ks).Nodup :=
  (List.nodup_dedup ks).filter _

theorem newKeys_perm (c : Cache κ β) {ks ks' : List κ} (h : ks.Perm ks') :
    (c.newKeys ks).Perm (c.newKeys ks') :=
  h.dedup.filter _

theorem count_newKeys (c : Cache κ β) (ks : List κ) (k : κ) :
    (c.newKeys ks).count k = if !c.contains k && decide (k ∈ ks) then 1 else 0 := by
  rw [(c.nodup_newKeys ks).count]
  simp [mem_newKeys]

/-- No part overflows when the keys are put: those that the cache has and the new ones all fit. -/
def RoomFor (c : Cache κ β) (ks : List κ) : Prop :=
  ∀ b ∈ c.bound, ∀ i, (c.entries.keys ++ c.newKeys ks).countP (fun k => b.place k = i) ≤ b.room

theorem roomFor_of_unbounded (h : c.bound = none) (ks : List κ) : c.RoomFor ks := by
  intro b hb
  simp [h] at hb

theorem roomFor_of_length {ks : List κ}
    (h : ∀ b ∈ c.bound, c.size + ks.length ≤ b.room) : c.RoomFor ks := by
  intro b hb i
  have hnew : (c.newKeys ks).length ≤ ks.length :=
    Nat.le_trans (List.length_filter_le _ _) (List.dedup_sublist ks).length_le
  have hroom := h b hb
  refine Nat.le_trans List.countP_le_length ?_
  rw [List.length_append, Table.keys, List.length_map]
  unfold size at hroom
  omega

theorem RoomFor.mono {ks ks' : List κ} (h : c.RoomFor ks) (hsub : ks' ⊆ ks) : c.RoomFor ks' := by
  intro b hb i
  have hnew : (c.newKeys ks').Subperm (c.newKeys ks) :=
    (c.nodup_newKeys ks').subperm fun x hx =>
      (c.mem_newKeys).2 ⟨((c.mem_newKeys).1 hx).1, hsub ((c.mem_newKeys).1 hx).2⟩
  have hroom := h b hb i
  have hle := hnew.countP_le fun k => decide (b.place k = i)
  rw [List.countP_append] at hroom ⊢
  omega

/-- Where there is room nothing has to give way. -/
theorem RoomFor.spared_eq {ks : List κ} (h : c.RoomFor ks) (hk : k ∈ ks)
    (hnew : c.contains k = false) : c.spared k = c.entries := by
  unfold spared
  split
  · rfl
  · next b hb =>
    have hroom := h b hb (b.place k)
    have hpos : 0 < (c.newKeys ks).countP fun x => decide (b.place x = b.place k) :=
      List.countP_pos_iff.2 ⟨k, (c.mem_newKeys).2 ⟨hnew, hk⟩, by simp⟩
    rw [List.countP_append] at hroom
    rw [b.countP_holds, if_pos (by omega)]

theorem RoomFor.get?_put {ks : List κ} (h : c.RoomFor ks) (hk : k ∈ ks)
    (hnew : c.contains k = false) (a : β) (x : κ) :
    (c.put k a).get? x = if k = x then some a else c.get? x := by
  unfold put get?
  rw [h.spared_eq hk hnew, Table.get?_insert]

/-- The keys that are put are keys of the cache then, instead of new ones. -/
theorem RoomFor.put {ks : List κ} (h : c.RoomFor ks) (hk : k ∈ ks)
    (hnew : c.contains k = false) (a : β) : (c.put k a).RoomFor ks := by
  intro b hb i
  have hkeys : (c.put k a).entries.keys = c.entries.keys ++ [k] := by
    rw [Cache.put, h.spared_eq hk hnew, Table.insert_eq_append (not_mem_keys hnew)]
    exact List.map_append
  have hcontains : ∀ x, (c.put k a).contains x = (c.contains x || k = x) := by
    intro x
    rw [contains_eq_isSome, h.get?_put hk hnew, contains_eq_isSome]
    by_cases hx : k = x <;> simp [hx]
  have hnodup : (k :: (c.put k a).newKeys ks).Nodup := by
    refine List.nodup_cons.2 ⟨fun hmem => ?_, nodup_newKeys _ ks⟩
    have hout := ((c.put k a).mem_newKeys.1 hmem).1
    simp [hcontains] at hout
  -- `k` and the keys that are still new after it were all new before, each of them once.
  have hsub : (k :: (c.put k a).newKeys ks).Subperm (c.newKeys ks) := by
    refine hnodup.subperm fun x hx => (c.mem_newKeys).2 ?_
    rcases List.mem_cons.1 hx with rfl | hx
    · exact ⟨hnew, hk⟩
    · have hin := (c.put k a).mem_newKeys.1 hx
      rw [hcontains, Bool.or_eq_false_iff] at hin
      exact ⟨hin.1.1, hin.2⟩
  have hroom := h b hb i
  have hle := hsub.countP_le fun k => decide (b.place k = i)
  rw [hkeys, List.append_assoc, List.singleton_append, List.countP_append]
  rw [List.countP_append] at hroom
  omega

theorem RoomFor.insertIfAbsent {ks : List κ} (h : c.RoomFor ks) (hk : k ∈ ks) (a : β) :
    (c.insertIfAbsent k a).1.RoomFor ks := by
  unfold Cache.insertIfAbsent
  cases hc : c.contains k with
  | true => exact h
  | false => exact h.put hk hc a

end Room

/-! ## One item -/

variable (key : α → Option κ) (value : α → β) {c : Cache κ β}

theorem get?_insertIfAbsent {k : κ} (h : c.RoomFor [k]) (x : κ) (b : β) :
    (c.insertIfAbsent k b).1.get? x = (c.get? x).or (if k = x then some b else none) := by
  unfold insertIfAbsent
  cases hc : c.contains k with
  | true =>
    obtain ⟨old, hold⟩ := contains_iff.1 hc
    by_cases hx : k = x
    · subst hx
      simp [hold]
    · simp [hx]
  | false =>
    have hnone : c.get? k = none := by simpa [contains_eq_isSome] using hc
    simp only [Bool.false_eq_true, if_false]
    rw [h.get?_put (by simp) hc]
    by_cases hx : k = x
    · subst hx
      simp [hnone]
    · simp [hx]

theorem get?_offer {a : α} (h : c.RoomFor (key a).toList) (x : κ) :
    (offer key value c a).1.get? x =
      (c.get? x).or (if key a = some x then some (value a) else none) := by
  unfold offer
  cases hk : key a with
  | none => simp
  | some k =>
    rw [hk] at h
    simp [get?_insertIfAbsent h]

theorem contains_offer {a : α} (h : c.RoomFor (key a).toList) (x : κ) :
    (offer key value c a).1.contains x = (c.contains x || key a = some x) := by
  rw [contains_eq_isSome, contains_eq_isSome, get?_offer key value h]
  cases c.get? x <;> by_cases hx : key a = some x <;> simp [hx]

theorem RoomFor.offer {a : α} {ks : List κ} (h : c.RoomFor ks) (hsub : (key a).toList ⊆ ks) :
    (Cache.offer key value c a).1.RoomFor ks := by
  unfold Cache.offer
  cases hk : key a with
  | none => exact h
  | some k => exact h.insertIfAbsent (hsub (by simp [hk])) _

variable (c)

theorem snd_offer (a : α) : (offer key value c a).2 = isNew key c a := by
  unfold offer isNew
  cases key a with
  | none => rfl
  | some k => exact snd_insertIfAbsent c k _

/-! ## Items in a row -/

theorem offerAll_cons (a : α) (rest : List α) :
    offerAll key value c (a :: rest) =
      ((offerAll key value (offer key value c a).1 rest).1,
        if isNew key c a then a :: (offerAll key value (offer key value c a).1 rest).2
        else (offerAll key value (offer key value c a).1 rest).2) := by
  rw [← snd_offer key value]
  rfl

theorem offerAll_append (xs ys : List α) :
    offerAll key value c (xs ++ ys) =
      ((offerAll key value (offerAll key value c xs).1 ys).1,
        (offerAll key value c xs).2 ++ (offerAll key value (offerAll key value c xs).1 ys).2) := by
  induction xs generalizing c with
  | nil => rfl
  | cons a xs ih =>
    rw [List.cons_append, offerAll_cons, offerAll_cons, ih]
    split <;> rfl

theorem offerAll_concat (xs : List α) (a : α) :
    offerAll key value c (xs ++ [a]) =
      ((offer key value (offerAll key value c xs).1 a).1,
        if isNew key (offerAll key value c xs).1 a then (offerAll key value c xs).2 ++ [a]
        else (offerAll key value c xs).2) := by
  rw [offerAll_append, offerAll_cons]
  split <;> simp [offerAll]

theorem offerAll_sublist (xs : List α) : (offerAll key value c xs).2.Sublist xs := by
  induction xs generalizing c with
  | nil => exact .slnil
  | cons a xs ih =>
    rw [offerAll_cons]
    split
    · exact .cons_cons a (ih _)
    · exact .cons a (ih _)

theorem filter_isNone_offerAll (xs : List α) :
    (offerAll key value c xs).2.filter (fun a => (key a).isNone) =
      xs.filter fun a => (key a).isNone := by
  induction xs generalizing c with
  | nil => rfl
  | cons a xs ih =>
    rw [offerAll_cons]
    cases hk : key a with
    | none => simp [isNew, hk, ih]
    | some k => split <;> simp [hk, ih]

/-! ## Items for which there is room -/

section Room

variable {key c}

theorem RoomFor.offerAll {xs : List α} {ks : List κ} (h : c.RoomFor ks)
    (hsub : xs.filterMap key ⊆ ks) : (Cache.offerAll key value c xs).1.RoomFor ks := by
  induction xs generalizing c with
  | nil => exact h
  | cons a xs ih =>
    rw [filterMap_cons_toList, List.append_subset] at hsub
    rw [offerAll_cons]
    exact ih (h.offer key value hsub.1) hsub.2

theorem RoomFor.head {a : α} {xs : List α} (h : c.RoomFor ((a :: xs).filterMap key)) :
    c.RoomFor (key a).toList := by
  rw [filterMap_cons_toList] at h
  exact h.mono (List.subset_append_left _ _)

theorem RoomFor.tail {a : α} {xs : List α} (h : c.RoomFor ((a :: xs).filterMap key)) :
    (Cache.offer key value c a).1.RoomFor (xs.filterMap key) := by
  rw [filterMap_cons_toList] at h
  have hoffer := h.offer key value (List.subset_append_left _ _)
  exact hoffer.mono (List.subset_append_right _ _)

end Room

/-- The value of a key is the one that it had, or else that of the first item with the key. -/
theorem get?_offerAll {xs : List α} (h : c.RoomFor (xs.filterMap key)) (x : κ) :
    (offerAll key value c xs).1.get? x =
      (c.get? x).or ((xs.find? fun a => key a = some x).map value) := by
  induction xs generalizing c with
  | nil => simp [offerAll]
  | cons a xs ih =>
    rw [offerAll_cons, ih _ (h.tail value), get?_offer key value h.head, Option.or_assoc,
      List.find?_cons]
    by_cases hx : key a = some x <;> simp [hx]

theorem any_offerAll {xs : List α} (h : c.RoomFor (xs.filterMap key)) (x : κ) :
    ((offerAll key value c xs).2.any fun a => key a = some x) =
      (!c.contains x && xs.any fun a => key a = some x) := by
  induction xs generalizing c with
  | nil => simp [offerAll]
  | cons a xs ih =>
    have hrest := ih _ (h.tail value)
    have hoffer := contains_offer key value h.head
    rw [offerAll_cons, List.any_cons]
    by_cases hx : key a = some x
    · cases hc : c.contains x <;> simp [isNew, hx, hc, hrest, hoffer]
    · split <;> simp [hx, hrest, hoffer]

/-- Of the items with a key the first of each key that is new are kept. -/
theorem filter_isSome_offerAll {xs : List α} (h : c.RoomFor (xs.filterMap key)) :
    (offerAll key value c xs).2.filter (fun a => (key a).isSome) =
      (xs.filter fun a => (key a).isSome && isNew key c a).eraseDupsBy
        fun a b => key a == key b := by
  induction xs generalizing c with
  | nil => rfl
  | cons a xs ih =>
    have hkept := ih _ (h.tail value)
    rw [offerAll_cons]
    cases hk : key a with
    | none =>
      have hsame : (offer key value c a).1 = c := by simp [offer, hk]
      rw [hsame] at hkept ⊢
      simp [isNew, hk, hkept]
    | some k =>
      cases hc : c.contains k with
      | true =>
        have hsame : (offer key value c a).1 = c := by simp [offer, hk, insertIfAbsent, hc]
        rw [hsame] at hkept ⊢
        simp [isNew, hk, hc, hkept]
      | false =>
        have hnew : isNew key c a = true := by simp [isNew, hk, hc]
        -- What is new after `a` is what was new before, without the key of `a`.
        have hrest : ∀ b, ((key b).isSome && isNew key (offer key value c a).1 b) =
            (((key b).isSome && isNew key c b) && decide ((key b == key a) = false)) := by
          intro b
          cases hb : key b with
          | none => rfl
          | some x =>
            by_cases hx : k = x
            · simp [isNew, hb, hk, contains_offer key value h.head, hx]
            · simp [isNew, hb, hk, contains_offer key value h.head, hx, Ne.symm hx]
        simp only [hnew, if_true, List.filter_cons, hk, Option.isSome_some, hkept, Bool.and_true,
          List.eraseDupsBy_cons, List.filter_filter]
        congr 2
        apply List.filter_congr
        intro b _
        rw [hrest b, Bool.and_comm, hk]

/-- What is kept of items in a row is what is kept of the first ones, and then of the others. -/
theorem eraseDupsBy_append {xs ys : List α} (h : c.RoomFor ((xs ++ ys).filterMap key)) :
    ((xs ++ ys).filter fun a => (key a).isSome && isNew key c a).eraseDupsBy
        (fun a b => key a == key b) =
      (xs.filter fun a => (key a).isSome && isNew key c a).eraseDupsBy
        (fun a b => key a == key b) ++
      (ys.filter fun a => (key a).isSome && isNew key (offerAll key value c xs).1 a).eraseDupsBy
        (fun a b => key a == key b) := by
  have hxs : xs.filterMap key ⊆ (xs ++ ys).filterMap key :=
    ((List.sublist_append_left xs ys).filterMap key).subset
  have hys : ys.filterMap key ⊆ (xs ++ ys).filterMap key :=
    ((List.sublist_append_right xs ys).filterMap key).subset
  rw [← filter_isSome_offerAll key value c h, ← filter_isSome_offerAll key value c (h.mono hxs),
    ← filter_isSome_offerAll key value _ ((h.offerAll value hxs).mono hys), offerAll_append,
    List.filter_append]

/-! ## Up to order -/

theorem mem_keys_offerAll {xs : List α} (h : c.RoomFor (xs.filterMap key)) {x : κ} :
    x ∈ (offerAll key value c xs).2.filterMap key ↔
      c.contains x = false ∧ x ∈ xs.filterMap key := by
  have hany := any_offerAll key value c h x
  rw [Bool.eq_iff_iff, Bool.and_eq_true, List.any_eq_true, List.any_eq_true] at hany
  simpa using hany

theorem nodup_keys_offerAll {xs : List α} (h : c.RoomFor (xs.filterMap key)) :
    ((offerAll key value c xs).2.filterMap key).Nodup := by
  induction xs generalizing c with
  | nil => exact .nil
  | cons a xs ih =>
    have hrest := ih _ (h.tail value)
    rw [offerAll_cons]
    split
    · cases hk : key a with
      | none =>
        rw [List.filterMap_cons_none hk]
        exact hrest
      | some k =>
        rw [List.filterMap_cons_some hk]
        refine List.nodup_cons.2 ⟨fun hmem => ?_, hrest⟩
        have hnew := (mem_keys_offerAll key value _ (h.tail value)).1 hmem
        simp [contains_offer key value h.head, hk] at hnew
    · exact hrest

/-- The keys that are kept do not depend on the order of the items. -/
theorem keys_offerAll_perm {xs : List α} (h : c.RoomFor (xs.filterMap key)) :
    ((offerAll key value c xs).2.filterMap key).Perm (c.newKeys (xs.filterMap key)) := by
  refine (List.perm_ext_iff_of_nodup (nodup_keys_offerAll key value c h)
    (c.nodup_newKeys _)).2 fun x => ?_
  rw [mem_keys_offerAll key value c h, mem_newKeys]

theorem length_offerAll {xs : List α} (h : c.RoomFor (xs.filterMap key)) :
    (offerAll key value c xs).2.length =
      (c.newKeys (xs.filterMap key)).length + xs.countP fun a => (key a).isNone := by
  have hkeyed := (keys_offerAll_perm key value c h).length_eq
  have hunkeyed := congrArg List.length (filter_isNone_offerAll key value c xs)
  rw [List.length_filterMap_eq_countP] at hkeyed
  rw [← List.countP_eq_length_filter, ← List.countP_eq_length_filter] at hunkeyed
  rw [List.length_eq_countP_add_countP fun a => (key a).isSome, hkeyed, ← hunkeyed]
  congr 1
  exact List.countP_congr fun a _ => by simp

end Cache

end CodeChunks
