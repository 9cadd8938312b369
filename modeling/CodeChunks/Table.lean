/-!
# Tables

A `Table` is a finite map as a list of entries with distinct keys. Looking up a key after an
operation is settled by one lemma for each operation; nothing else needs to look inside.
-/

namespace CodeChunks

abbrev Table (κ α : Type) := List (κ × α)

namespace Table

variable {κ α : Type} [DecidableEq κ]

def get? : Table κ α → κ → Option α
  | [], _ => none
  | (k, a) :: t, x => if k = x then some a else get? t x

def contains (t : Table κ α) (k : κ) : Bool := (t.get? k).isSome

/-- Sets the value of a key, in its place if it is there and at the end if it is not. -/
def insert (k : κ) (a : α) : Table κ α → Table κ α
  | [] => [(k, a)]
  | (k', a') :: t => if k' = k then (k, a) :: t else (k', a') :: insert k a t

def erase (k : κ) : Table κ α → Table κ α
  | [] => []
  | (k', a') :: t => if k' = k then t else (k', a') :: erase k t

def keys (t : Table κ α) : List κ := t.map (·.1)

def values (t : Table κ α) : List α := t.map (·.2)

@[simp] theorem get?_nil (x : κ) : get? ([] : Table κ α) x = none := rfl

@[simp] theorem get?_insert (t : Table κ α) (k x : κ) (a : α) :
    get? (insert k a t) x = if k = x then some a else get? t x := by
  induction t with
  | nil => simp [insert, get?]
  | cons e t ih =>
    obtain ⟨k', a'⟩ := e
    by_cases h : k' = k
    · subst h
      by_cases hx : k' = x <;> simp [insert, get?, hx]
    · by_cases hx : k' = x
      · subst hx
        simp [insert, get?, h, Ne.symm h]
      · simp [insert, get?, h, hx, ih]

theorem get?_eq_none_iff {t : Table κ α} {x : κ} : get? t x = none ↔ x ∉ keys t := by
  induction t with
  | nil => simp [keys]
  | cons e t ih =>
    obtain ⟨k, a⟩ := e
    by_cases h : k = x
    · simp [get?, keys, h]
    · simp only [get?, h, if_false, ih, keys, List.map_cons, List.mem_cons, not_or]
      exact ⟨fun hn => ⟨Ne.symm h, hn⟩, fun hn => hn.2⟩

theorem mem_keys_insert {t : Table κ α} {k x : κ} {a : α} :
    x ∈ keys (insert k a t) ↔ x = k ∨ x ∈ keys t := by
  induction t with
  | nil => simp [insert, keys]
  | cons e t ih =>
    obtain ⟨k', a'⟩ := e
    by_cases h : k' = k
    · subst h
      simp [insert, keys]
    · simp only [keys] at ih
      simp only [insert, h, if_false, keys, List.map_cons, List.mem_cons, ih]
      constructor
      · rintro (h | h | h) <;> simp [h]
      · rintro (h | h | h) <;> simp [h]

theorem insert_eq_append {t : Table κ α} {k : κ} (h : k ∉ keys t) (a : α) :
    insert k a t = t ++ [(k, a)] := by
  induction t with
  | nil => rfl
  | cons e t ih =>
    obtain ⟨k', a'⟩ := e
    simp only [keys, List.map_cons, List.mem_cons, not_or] at h
    simp only [insert, Ne.symm h.1, if_false, List.cons_append]
    rw [ih h.2]

theorem length_insert {t : Table κ α} {k : κ} (h : k ∉ keys t) (a : α) :
    (insert k a t).length = t.length + 1 := by
  rw [insert_eq_append h, List.length_append, List.length_singleton]

theorem countP_keys_insert_le (t : Table κ α) (k : κ) (a : α) (p : κ → Bool) :
    (keys (insert k a t)).countP p ≤ (keys t).countP p + if p k then 1 else 0 := by
  by_cases h : k ∈ keys t
  · induction t with
    | nil => cases h
    | cons e t ih =>
      obtain ⟨k', a'⟩ := e
      by_cases hk : k' = k
      · subst hk
        simp only [insert, if_true, keys, List.map_cons]
        exact Nat.le_add_right _ _
      · have hrest := ih ((List.mem_cons.1 h).resolve_left (Ne.symm hk))
        simp only [insert, hk, if_false, keys, List.map_cons, List.countP_cons] at hrest ⊢
        omega
  · rw [insert_eq_append h, keys, List.map_append, List.countP_append, List.map_singleton,
      List.countP_singleton]
    exact Nat.le_refl _

theorem nodup_keys_insert {t : Table κ α} (h : (keys t).Nodup) (k : κ) (a : α) :
    (keys (insert k a t)).Nodup := by
  induction t with
  | nil => simp [insert, keys]
  | cons e t ih =>
    obtain ⟨k', a'⟩ := e
    simp only [keys, List.map_cons, List.nodup_cons] at h
    by_cases hk : k' = k
    · subst hk
      simpa [insert, keys] using h
    · simp only [insert, hk, if_false, keys, List.map_cons, List.nodup_cons]
      refine ⟨fun hm => ?_, ih h.2⟩
      rcases mem_keys_insert.1 hm with e | hm
      · exact hk e
      · exact h.1 hm

theorem mem_keys_of_mem_erase {t : Table κ α} {k x : κ} (h : x ∈ keys (erase k t)) :
    x ∈ keys t := by
  induction t with
  | nil => exact h
  | cons e t ih =>
    obtain ⟨k', a'⟩ := e
    by_cases hk : k' = k
    · simp only [erase, hk, if_true] at h
      exact List.mem_cons_of_mem _ h
    · simp only [erase, hk, if_false, keys, List.map_cons, List.mem_cons] at h ⊢
      exact h.imp_right ih

theorem countP_keys_erase {t : Table κ α} {k : κ} (h : k ∈ keys t) (p : κ → Bool) :
    (keys (erase k t)).countP p + (if p k then 1 else 0) = (keys t).countP p := by
  induction t with
  | nil => cases h
  | cons e t ih =>
    obtain ⟨k', a'⟩ := e
    by_cases hk : k' = k
    · subst hk
      simp only [erase, if_true, keys, List.map_cons, List.countP_cons]
    · have hrest := ih ((List.mem_cons.1 h).resolve_left (Ne.symm hk))
      simp only [erase, hk, if_false, keys, List.map_cons, List.countP_cons] at hrest ⊢
      omega

theorem nodup_keys_erase {t : Table κ α} (h : (keys t).Nodup) (k : κ) :
    (keys (erase k t)).Nodup := by
  induction t with
  | nil => exact h
  | cons e t ih =>
    obtain ⟨k', a'⟩ := e
    simp only [keys, List.map_cons, List.nodup_cons] at h
    by_cases hk : k' = k
    · simp only [erase, hk, if_true]
      exact h.2
    · simp only [erase, hk, if_false, keys, List.map_cons, List.nodup_cons]
      exact ⟨fun hm => h.1 (mem_keys_of_mem_erase hm), ih h.2⟩

theorem get?_erase {t : Table κ α} (h : (keys t).Nodup) (k x : κ) :
    get? (erase k t) x = if k = x then none else get? t x := by
  induction t with
  | nil => simp [erase]
  | cons e t ih =>
    obtain ⟨k', a'⟩ := e
    simp only [keys, List.map_cons, List.nodup_cons] at h
    by_cases hk : k' = k
    · subst hk
      by_cases hx : k' = x
      · subst hx
        simp only [erase, if_true]
        exact get?_eq_none_iff.2 h.1
      · simp [erase, get?, hx]
    · by_cases hx : k' = x
      · subst hx
        simp [erase, get?, hk, Ne.symm hk]
      · simp [erase, get?, hk, hx, ih h.2]

end Table

end CodeChunks
