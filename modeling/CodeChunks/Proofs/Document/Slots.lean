import CodeChunks.Json.Record
import Mathlib.Data.List.Forall2
import Mathlib.Data.List.Nodup

/-!
# Reading records back

A record is written as a list of slots, one for each field in the order of the names, and a slot
without a value leaves its field out (`Fills`). Such a record is always accepted under its own
names, as `ofSlots` says, and each field is found where it was written.
-/

namespace CodeChunks.Json

/-- A slot is empty or holds the field of the name. -/
def Fills (name : String) (slot : Option (String × Json)) : Prop := ∀ p ∈ slot, p.1 = name

@[simp] theorem fills_field (name : String) (value : Json) : Fills name (field name value) := by
  simp [Fills, field]

@[simp] theorem fills_fieldIfSome {α : Type} (name : String) (write : α → Json)
    (value : Option α) : Fills name (fieldIfSome name write value) := by
  cases value <;> simp [Fills, fieldIfSome]

@[simp] theorem fills_unless (p : Prop) [Decidable p] (name : String) (value : Json) :
    Fills name (if p then none else field name value) := by
  by_cases hp : p <;> simp [hp, Fills, field]

/-- The value at the end of a path of keys. -/
def at? : Json → List String → Option Json
  | j, [] => some j
  | j, key :: path => (j.get? key).bind (·.at? path)

@[simp] theorem get?_record_nil (key : String) : (record []).get? key = none := rfl

section

variable (slots : List (Option (String × Json))) (name key : String)

@[simp] theorem get?_record_none :
    (record (none :: slots)).get? key = (record slots).get? key := rfl

theorem get?_record_cons {name : String} {slot : Option (String × Json)} (h : Fills name slot) :
    (record (slot :: slots)).get? key =
      ((record slots).get? key).or (if name = key then slot.map (·.2) else none) := by
  cases slot with
  | none => simp
  | some p =>
    obtain rfl : p.1 = name := h p rfl
    have hlast : [p].find? (·.1 == key) = if p.1 = key then some p else none := by
      by_cases hp : p.1 = key <;> simp [hp]
    simp only [record, get?, List.filterMap_cons, id, List.reverse_cons, List.find?_append,
      Option.map_or, hlast]
    split <;> rfl

@[simp] theorem get?_record_field (value : Json) :
    (record (field name value :: slots)).get? key =
      ((record slots).get? key).or (if name = key then some value else none) :=
  get?_record_cons slots key (fills_field name value)

@[simp] theorem get?_record_fieldIfSome {α : Type} (write : α → Json) (value : Option α) :
    (record (fieldIfSome name write value :: slots)).get? key =
      ((record slots).get? key).or (if name = key then value.map write else none) := by
  rw [get?_record_cons slots key (fills_fieldIfSome name write value), fieldIfSome, Option.map_map]
  rfl

end

namespace Record

def ofSlots (slots : List (Option (String × Json))) : Record := ⟨false, slots.filterMap id⟩

variable {name : String} {names : List String} {slots : List (Option (String × Json))}

theorem map_fst_sublist (h : List.Forall₂ Fills names slots) :
    ((slots.filterMap id).map (·.1)).Sublist names := by
  induction h with
  | nil => exact .slnil
  | @cons name slot names slots hslot _ ih =>
    cases slot with
    | none => exact ih.cons name
    | some p =>
      obtain rfl : p.1 = name := hslot p rfl
      exact ih.cons_cons p.1

theorem asRecord?_record (hnodup : names.Nodup) (h : List.Forall₂ Fills names slots) :
    asRecord? names (record slots) = some (ofSlots slots) := by
  have hsublist := map_fst_sublist h
  have hknown : ∀ p ∈ slots.filterMap id, names.contains p.1 = true := fun p hp =>
    List.contains_iff_mem.2 (hsublist.subset (List.mem_map.2 ⟨p, hp, rfl⟩))
  simp only [asRecord?, record]
  rw [List.filter_eq_self.2 hknown, if_pos (hnodup.sublist hsublist)]
  rfl

theorem get?_ofSlots_cons_none (name : String) :
    (ofSlots (none :: slots)).get? name = (ofSlots slots).get? name := rfl

theorem get?_ofSlots_cons_some (p : String × Json) (name : String) :
    (ofSlots (some p :: slots)).get? name =
      if name = p.1 then some p.2 else (ofSlots slots).get? name := by
  show ((p.1, p.2) :: slots.filterMap id).lookup name = _
  rw [List.lookup_cons]
  by_cases hname : name = p.1
  · simp [hname]
  · simp only [beq_false_of_ne hname, hname, if_false]
    rfl

theorem get?_ofSlots_of_not_mem (h : List.Forall₂ Fills names slots) (hname : name ∉ names) :
    (ofSlots slots).get? name = none := by
  induction h with
  | nil => rfl
  | @cons first slot names slots hslot _ ih =>
    obtain ⟨hfirst, hrest⟩ := List.ne_and_not_mem_of_not_mem_cons hname
    cases slot with
    | none => exact ih hrest
    | some p =>
      rw [get?_ofSlots_cons_some, hslot p rfl, if_neg hfirst]
      exact ih hrest

theorem get?_ofSlots (hnodup : names.Nodup) (h : List.Forall₂ Fills names slots) :
    ∀ x ∈ names.zip slots, (ofSlots slots).get? x.1 = x.2.map (·.2) := by
  induction h with
  | nil => exact List.forall_mem_nil _
  | @cons first slot names slots hslot hrest ih =>
    obtain ⟨hfresh, hnodup⟩ := List.nodup_cons.1 hnodup
    rw [List.zip_cons_cons, List.forall_mem_cons]
    cases slot with
    | none =>
      simp only [get?_ofSlots_cons_none]
      exact ⟨get?_ofSlots_of_not_mem hrest hfresh, ih hnodup⟩
    | some p =>
      have hp : p.1 = first := hslot p rfl
      refine ⟨?_, fun x hx => ?_⟩
      · rw [get?_ofSlots_cons_some, if_pos hp.symm]
        rfl
      · have hne : x.1 ≠ p.1 := fun he => hfresh (hp ▸ he ▸ (List.of_mem_zip hx).1)
        rw [get?_ofSlots_cons_some, if_neg hne]
        exact ih hnodup x hx

/-- What is read from a record depends on its fields only. -/
theorem asRecord?_record_bind {α : Type} {a : α} {k : Record → Option α} (hnodup : names.Nodup)
    (h : List.Forall₂ Fills names slots)
    (hk : ∀ r : Record, r.positional = false →
      (∀ x ∈ names.zip slots, r.get? x.1 = x.2.map (·.2)) → k r = some a) :
    (asRecord? names (record slots)).bind k = some a := by
  rw [asRecord?_record hnodup h, Option.bind_some]
  exact hk _ rfl (get?_ofSlots hnodup h)

/-! ## Fields -/

variable {α : Type} {r : Record} {read : Json → Option α} {write : α → Json}

theorem required_of_get? {value : Json} (h : r.get? name = (field name value).map (·.2)) :
    r.required name read = read value := by
  rw [required, h]
  rfl

theorem withDefault_of_get? {value : Json} {fallback : α}
    (h : r.get? name = (field name value).map (·.2)) :
    r.withDefault name fallback read = read value := by
  rw [withDefault, h]
  rfl

theorem withDefault_unless_of_get? {p : Bool} {value : Json} {fallback : α}
    (h : r.get? name = (if p then none else field name value).map (·.2)) :
    r.withDefault name fallback read = if p then some fallback else read value := by
  rw [withDefault, h]
  cases p <;> rfl

/-- A value that may be missing is read back if what it is written as is neither null nor
unreadable. -/
theorem optional_of_get? {value : Option α} (hr : r.positional = false)
    (h : r.get? name = (fieldIfSome name write value).map (·.2))
    (hread : ∀ a ∈ value, asOption? read (write a) = some (some a)) :
    r.optional name read = some value := by
  rw [optional, h, hr]
  cases value with
  | none => rfl
  | some a => exact hread a rfl

end Record

end CodeChunks.Json
