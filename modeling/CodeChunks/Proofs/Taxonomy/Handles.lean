import Mathlib.Data.List.Dedup
import CodeChunks.Taxonomy.Basic

/-!
# Handles

Classes are only ever appended, so a class keeps the handle it was given first, and what a handle
stands for does not change. A handle has 16 bits: the first 65536 classes have a handle each, and
the next one gets the handle of the first. So the `answers` to a list of registrations are faithful
exactly when it names at most 65536 classes: the handles `LeadBack` to the definitions, and they
`TellApart` the classes.
-/

namespace CodeChunks

/-- What a class is registered under. -/
def ClassDef.key (d : ClassDef) : String × Language := (d.name, d.language)

namespace Taxonomy

def keys (t : Taxonomy) : List (String × Language) := t.added.map ClassDef.key

theorem length_keys (t : Taxonomy) : t.keys.length = t.added.length := List.length_map ..

/-! ### One registration -/

theorem find?_eq (t : Taxonomy) (name : String) (language : Language) :
    t.find? name language =
      if (name, language) ∈ t.keys then
        some (.added (handleAt (t.keys.idxOf (name, language))))
      else none := by
  have hkeys : t.added.findIdx? (·.isNamed name language) =
      t.keys.findIdx? (· == (name, language)) := by
    rw [keys, List.findIdx?_map]
    rfl
  rw [find?, hkeys, List.findIdx?_eq_guard_findIdx_lt, Option.guard]
  simp only [← List.idxOf.eq_def, decide_eq_true_eq, List.idxOf_lt_length_iff]
  split <;> rfl

/-- A new class is put at the end; in both cases the handle is the position of the key. -/
theorem register_eq (t : Taxonomy) (d : ClassDef) :
    t.register d =
      (if d.key ∈ t.keys then t else { added := t.added ++ [d] },
        .added (handleAt (t.keys.idxOf d.key))) := by
  have hfind : t.find? d.name d.language =
      if d.key ∈ t.keys then some (.added (handleAt (t.keys.idxOf d.key))) else none :=
    t.find?_eq d.name d.language
  rw [register, hfind]
  by_cases hmem : d.key ∈ t.keys
  · rw [if_pos hmem, if_pos hmem]
  · rw [if_neg hmem, if_neg hmem, List.idxOf_of_notMem hmem, length_keys]

theorem added_prefix_register (t : Taxonomy) (d : ClassDef) :
    t.added <+: (t.register d).1.added := by
  rw [register_eq]
  split
  · exact List.prefix_rfl
  · exact List.prefix_append _ _

theorem keys_register (t : Taxonomy) (d : ClassDef) :
    (t.register d).1.keys = if d.key ∈ t.keys then t.keys else t.keys ++ [d.key] := by
  rw [register_eq]
  split
  · rfl
  · simp [keys]

theorem mem_keys_register {t : Taxonomy} {d : ClassDef} {key : String × Language} :
    key ∈ (t.register d).1.keys ↔ key ∈ t.keys ∨ key = d.key := by
  rw [keys_register]
  split
  · rename_i hmem
    exact ⟨.inl, fun h => h.elim id (· ▸ hmem)⟩
  · simp

theorem nodup_keys_register {t : Taxonomy} (h : t.keys.Nodup) (d : ClassDef) :
    (t.register d).1.keys.Nodup := by
  rw [keys_register]
  split
  · exact h
  · rename_i hnew
    rw [← List.concat_eq_append]
    exact h.concat hnew

theorem idxOf_keys_register (t : Taxonomy) (d : ClassDef) :
    (t.register d).1.keys.idxOf d.key = t.keys.idxOf d.key := by
  rw [keys_register]
  split
  · rfl
  · rename_i hnew
    rw [List.idxOf_append_of_notMem hnew, List.idxOf_of_notMem hnew, List.idxOf_cons_self,
      Nat.add_zero]

theorem find?_added_register (t : Taxonomy) (d : ClassDef) (key : String × Language) :
    (t.register d).1.added.find? (·.key == key) = (t.added ++ [d]).find? (·.key == key) := by
  rw [register_eq]
  split
  · rename_i hmem
    rw [List.find?_append]
    obtain ⟨e, he, hkey⟩ := List.mem_map.1 hmem
    by_cases hd : d.key = key
    · have hsome : (t.added.find? (·.key == key)).isSome :=
        List.find?_isSome.2 ⟨e, he, by simp [hkey, hd]⟩
      rw [Option.or_of_isSome hsome]
    · simp [hd]
  · rfl

/-! ### Many registrations -/

/-- Registers definitions one after the other. Each comes back with the class it got. -/
def registerAll (t : Taxonomy) : List ClassDef → Taxonomy × List (ClassDef × CodeClass)
  | [] => (t, [])
  | d :: ds =>
    let rest := registerAll (t.register d).1 ds
    (rest.1, (d, (t.register d).2) :: rest.2)

theorem registerAll_append (t : Taxonomy) (ds es : List ClassDef) :
    t.registerAll (ds ++ es) =
      (((t.registerAll ds).1.registerAll es).1,
        (t.registerAll ds).2 ++ ((t.registerAll ds).1.registerAll es).2) := by
  induction ds generalizing t with
  | nil => rfl
  | cons d ds ih => simp [registerAll, ih]

theorem map_fst_registerAll (t : Taxonomy) (ds : List ClassDef) :
    (t.registerAll ds).2.map Prod.fst = ds := by
  induction ds generalizing t with
  | nil => rfl
  | cons d ds ih => rw [registerAll, List.map_cons, ih]

theorem added_prefix_registerAll (t : Taxonomy) (ds : List ClassDef) :
    t.added <+: (t.registerAll ds).1.added := by
  induction ds generalizing t with
  | nil => exact List.prefix_rfl
  | cons d ds ih => exact (t.added_prefix_register d).trans (ih _)

theorem keys_prefix_registerAll (t : Taxonomy) (ds : List ClassDef) :
    t.keys <+: (t.registerAll ds).1.keys :=
  (t.added_prefix_registerAll ds).map _

theorem mem_keys_registerAll {t : Taxonomy} {ds : List ClassDef} {key : String × Language} :
    key ∈ (t.registerAll ds).1.keys ↔ key ∈ t.keys ∨ key ∈ ds.map ClassDef.key := by
  induction ds generalizing t with
  | nil => simp [registerAll]
  | cons d ds ih => rw [registerAll, ih, mem_keys_register, List.map_cons, List.mem_cons, or_assoc]

theorem nodup_keys_registerAll {t : Taxonomy} (h : t.keys.Nodup) (ds : List ClassDef) :
    (t.registerAll ds).1.keys.Nodup := by
  induction ds generalizing t with
  | nil => exact h
  | cons d ds ih => exact ih (nodup_keys_register h d)

theorem find?_added_registerAll (t : Taxonomy) (ds : List ClassDef) (key : String × Language) :
    (t.registerAll ds).1.added.find? (·.key == key) = (t.added ++ ds).find? (·.key == key) := by
  induction ds generalizing t with
  | nil => rw [List.append_nil, registerAll]
  | cons d ds ih =>
    rw [registerAll, ih, List.find?_append, find?_added_register, ← List.find?_append,
      List.append_assoc, List.singleton_append]

/-- The class that a call gives is the one at the position of its key, also in the end. -/
theorem snd_of_mem_registerAll {t : Taxonomy} {ds : List ClassDef} {x : ClassDef × CodeClass}
    (hx : x ∈ (t.registerAll ds).2) :
    x.2 = .added (handleAt ((t.registerAll ds).1.keys.idxOf x.1.key)) := by
  induction ds generalizing t with
  | nil => cases hx
  | cons d ds ih =>
    rcases List.mem_cons.1 hx with rfl | hx
    · have hmem : d.key ∈ (t.register d).1.keys := mem_keys_register.2 (.inr rfl)
      have hlater := (keys_prefix_registerAll (t.register d).1 ds).idxOf_eq_of_mem hmem
      rw [registerAll, ← hlater, idxOf_keys_register, register_eq]
    · exact ih hx

/-! ### From the empty taxonomy -/

def after (calls : List ClassDef) : Taxonomy := (registerAll {} calls).1

/-- The calls with the classes that they gave. -/
def answers (calls : List ClassDef) : List (ClassDef × CodeClass) := (registerAll {} calls).2

variable {calls : List ClassDef} {x y : ClassDef × CodeClass}

theorem mem_keys_after {key : String × Language} :
    key ∈ (after calls).keys ↔ key ∈ calls.map ClassDef.key := by
  rw [after, mem_keys_registerAll]
  exact or_iff_right List.not_mem_nil

theorem nodup_keys_after (calls : List ClassDef) : (after calls).keys.Nodup :=
  nodup_keys_registerAll (t := {}) List.nodup_nil calls

theorem length_keys_after (calls : List ClassDef) :
    (after calls).keys.length = (calls.map ClassDef.key).dedup.length := by
  have hperm : (after calls).keys.Perm (calls.map ClassDef.key).dedup :=
    (List.perm_ext_iff_of_nodup (nodup_keys_after calls) (List.nodup_dedup _)).2 fun key => by
      rw [mem_keys_after, List.mem_dedup]
  exact hperm.length_eq

theorem added_prefix_after (calls more : List ClassDef) :
    (after calls).added <+: (after (calls ++ more)).added := by
  rw [after, after, registerAll_append]
  exact added_prefix_registerAll _ more

theorem keys_prefix_after (calls more : List ClassDef) :
    (after calls).keys <+: (after (calls ++ more)).keys :=
  (added_prefix_after calls more).map _

theorem key_mem_of_mem_answers (hx : x ∈ answers calls) : x.1.key ∈ (after calls).keys := by
  have hcall : x.1 ∈ (answers calls).map Prod.fst := List.mem_map_of_mem hx
  rw [answers, map_fst_registerAll] at hcall
  exact mem_keys_after.2 (List.mem_map_of_mem hcall)

theorem idxOf_lt_of_mem_answers (hx : x ∈ answers calls) :
    (after calls).keys.idxOf x.1.key < (after calls).added.length := by
  rw [← length_keys]
  exact List.idxOf_lt_length_iff.2 (key_mem_of_mem_answers hx)

theorem exists_answer {key : String × Language} (h : key ∈ (after calls).keys) :
    ∃ x ∈ answers calls, x.1.key = key := by
  obtain ⟨d, hd, hkey⟩ := List.mem_map.1 (mem_keys_after.1 h)
  rw [← map_fst_registerAll {} calls] at hd
  obtain ⟨x, hx, rfl⟩ := List.mem_map.1 hd
  exact ⟨x, hx, hkey⟩

theorem key_mem_after_append (hx : x ∈ answers calls) (more : List ClassDef) :
    x.1.key ∈ (after (calls ++ more)).keys :=
  (keys_prefix_after calls more).subset (key_mem_of_mem_answers hx)

theorem snd_of_mem_answers (hx : x ∈ answers calls) (more : List ClassDef) :
    x.2 = .added (handleAt ((after (calls ++ more)).keys.idxOf x.1.key)) := by
  rw [← (keys_prefix_after calls more).idxOf_eq_of_mem (key_mem_of_mem_answers hx)]
  exact snd_of_mem_registerAll hx

theorem find?_answer (hx : x ∈ answers calls) (more : List ClassDef) :
    (after (calls ++ more)).find? x.1.name x.1.language = some x.2 := by
  rw [find?_eq, snd_of_mem_answers hx more]
  exact if_pos (key_mem_after_append hx more)

theorem register_answer (hx : x ∈ answers calls) (more : List ClassDef) {d : ClassDef}
    (hd : d.key = x.1.key) :
    (after (calls ++ more)).register d = (after (calls ++ more), x.2) := by
  have hmem : d.key ∈ (after (calls ++ more)).keys :=
    hd ▸ key_mem_after_append hx more
  rw [register_eq, if_pos hmem, hd, snd_of_mem_answers hx more]

/-! ### The 16 bits -/

structure Resolves (t : Taxonomy) (c : CodeClass) (d : ClassDef) : Prop where
  definition : t.definition? c = some d
  name : t.name c = d.name
  standIn : t.standIn c = d.parent
  rank : t.rank c = d.rank
  importance : t.importance c = d.importance

theorem resolves_of_definition? {t : Taxonomy} {handle : UInt16} {d : ClassDef}
    (h : t.definition? (.added handle) = some d) : t.Resolves (.added handle) d where
  definition := h
  name := by simp [Taxonomy.name, h]
  standIn := by simp [Taxonomy.standIn, h]
  rank := by simp [Taxonomy.rank, h]
  importance := by simp [Taxonomy.importance, h]

/-- In the taxonomy, every class that a call gave is the first definition under its key. -/
def LeadBack (t : Taxonomy) (calls : List ClassDef) : Prop :=
  ∀ x ∈ answers calls, ∃ first, calls.find? (·.key == x.1.key) = some first ∧ t.Resolves x.2 first

/-- Two calls gave the same class exactly if they were for the same key. -/
def TellApart (calls : List ClassDef) : Prop :=
  ∀ x ∈ answers calls, ∀ y ∈ answers calls, x.2 = y.2 ↔ x.1.key = y.1.key

theorem toNat_handleAt (i : Nat) : (handleAt i).toNat = i % 65536 := UInt16.toNat_ofNat'

theorem exists_first (hx : x ∈ answers calls) :
    ∃ first, calls.find? (·.key == x.1.key) = some first ∧
      (after calls).added[(after calls).keys.idxOf x.1.key]? = some first := by
  have hadded : (after calls).added.find? (·.key == x.1.key) = calls.find? (·.key == x.1.key) :=
    find?_added_registerAll {} calls x.1.key
  have hposition : (after calls).keys.idxOf x.1.key =
      (after calls).added.findIdx (·.key == x.1.key) := by
    rw [keys, List.idxOf, List.findIdx_map]
    rfl
  have hlt := idxOf_lt_of_mem_answers hx
  refine ⟨(after calls).added[(after calls).keys.idxOf x.1.key], ?_, List.getElem?_eq_getElem hlt⟩
  rw [← hadded, List.find?_eq_getElem?_findIdx, ← hposition]
  exact List.getElem?_eq_getElem hlt

/-- What a handle stands for is fixed when it is given. -/
theorem definition?_answer (hx : x ∈ answers calls) (more : List ClassDef) :
    (after (calls ++ more)).definition? x.2 =
      (after calls).added[(after calls).keys.idxOf x.1.key % 65536]? := by
  obtain ⟨rest, hadded⟩ := added_prefix_after calls more
  have hlt := idxOf_lt_of_mem_answers hx
  rw [snd_of_mem_registerAll hx, definition?, toNat_handleAt, ← hadded]
  exact List.getElem?_append_left (Nat.lt_of_le_of_lt (Nat.mod_le _ _) hlt)

/-- Up to 65536 classes, a handle leads back to the definition it was given for. -/
theorem leadBack_of_length_keys_le (hfit : (after calls).keys.length ≤ 65536)
    (more : List ClassDef) : LeadBack (after (calls ++ more)) calls := by
  intro x hx
  obtain ⟨first, hfirst, hadded⟩ := exists_first hx
  have hdefinition := definition?_answer hx more
  have hlt := idxOf_lt_of_mem_answers hx
  rw [← length_keys] at hlt
  rw [Nat.mod_eq_of_lt (Nat.lt_of_lt_of_le hlt hfit), hadded] at hdefinition
  refine ⟨first, hfirst, ?_⟩
  rw [snd_of_mem_answers hx more] at hdefinition ⊢
  exact resolves_of_definition? hdefinition

theorem LeadBack.tellApart {t : Taxonomy} (h : LeadBack t calls) : TellApart calls := by
  intro x hx y hy
  constructor
  · intro hxy
    obtain ⟨first, hfirst, hresolves⟩ := h x hx
    obtain ⟨second, hsecond, hresolves'⟩ := h y hy
    have hsame : first = second :=
      Option.some.inj (hresolves.definition.symm.trans (hxy ▸ hresolves'.definition))
    have hkey : first.key = x.1.key := by simpa using List.find?_some hfirst
    have hkey' : second.key = y.1.key := by simpa using List.find?_some hsecond
    rw [← hkey, ← hkey', hsame]
  · intro hkey
    rw [snd_of_mem_registerAll hx, snd_of_mem_registerAll hy, hkey]

/-- Past 65536 classes, one gets the handle of the first. -/
theorem TellApart.length_keys_le (h : TellApart calls) : (after calls).keys.length ≤ 65536 := by
  by_contra hmany
  have hzero : 0 < (after calls).keys.length := by omega
  have hlast : 65536 < (after calls).keys.length := by omega
  have hnodup := nodup_keys_after calls
  obtain ⟨x, hx, hxkey⟩ := exists_answer (List.getElem_mem hzero)
  obtain ⟨y, hy, hykey⟩ := exists_answer (List.getElem_mem hlast)
  have hxy : x.2 = y.2 := by
    rw [snd_of_mem_registerAll hx, snd_of_mem_registerAll hy, ← after, hxkey, hykey,
      hnodup.idxOf_getElem, hnodup.idxOf_getElem]
    rfl
  have hkeys : (after calls).keys[0] = (after calls).keys[65536] := by
    rw [← hxkey, ← hykey, (h x hx y hy).1 hxy]
  cases hnodup.getElem_inj_iff.1 hkeys

/-- Calls of `register` from the empty taxonomy, and any further calls. A class is found under its
handle from its first call on and not before, and a repeated call gives that handle again. That the
handles lead back to the first definitions, and that they tell the classes apart, both hold exactly
if the calls name at most 65536 classes. -/
theorem handles_faithful_iff (calls more : List ClassDef) :
    (∀ name language, (after calls).find? name language = none ↔
      (name, language) ∉ calls.map ClassDef.key) ∧
    (∀ x ∈ answers calls, (after (calls ++ more)).find? x.1.name x.1.language = some x.2 ∧
      ∀ d : ClassDef, d.key = x.1.key →
        (after (calls ++ more)).register d = (after (calls ++ more), x.2)) ∧
    (LeadBack (after (calls ++ more)) calls ↔ (calls.map ClassDef.key).dedup.length ≤ 65536) ∧
    (TellApart calls ↔ (calls.map ClassDef.key).dedup.length ≤ 65536) := by
  rw [← length_keys_after]
  have hback (hfit : (after calls).keys.length ≤ 65536) := leadBack_of_length_keys_le hfit more
  refine ⟨fun name language => ?_, fun x hx => ⟨find?_answer hx more, fun d hd => ?_⟩, ?_, ?_⟩
  · simp [find?_eq, mem_keys_after]
  · exact register_answer hx more hd
  · exact ⟨fun h => h.tellApart.length_keys_le, hback⟩
  · exact ⟨TellApart.length_keys_le, fun hfit => (hback hfit).tellApart⟩

/-- Definitions that differ in their names, which have the lengths 0, 1, 2 and so on. -/
def Sample.lengthNamed (n : Nat) : List ClassDef :=
  (List.range n).map fun i => { markupElement with name := String.ofList (List.replicate i 'c') }

theorem Sample.length_dedup_keys (n : Nat) :
    ((lengthNamed n).map ClassDef.key).dedup.length = n := by
  have hnodup : ((lengthNamed n).map ClassDef.key).Nodup := by
    rw [lengthNamed, List.map_map]
    refine List.nodup_range.map fun i j hij => ?_
    have hlength := congrArg (·.1.length) hij
    simpa [ClassDef.key] using hlength
  rw [hnodup.dedup, lengthNamed, List.length_map, List.length_map, List.length_range]

/-- 65536 classes keep apart. One more, and two of them share a handle, which leads to one of
them only. -/
theorem handles_shared_past_65536 :
    (LeadBack (after (Sample.lengthNamed 65536)) (Sample.lengthNamed 65536) ∧
      TellApart (Sample.lengthNamed 65536)) ∧
    ¬LeadBack (after (Sample.lengthNamed 65537)) (Sample.lengthNamed 65537) ∧
    ¬TellApart (Sample.lengthNamed 65537) := by
  obtain ⟨-, -, hback, hapart⟩ := handles_faithful_iff (Sample.lengthNamed 65536) []
  obtain ⟨-, -, hback', hapart'⟩ := handles_faithful_iff (Sample.lengthNamed 65537) []
  rw [Sample.length_dedup_keys] at hback hapart hback' hapart'
  rw [List.append_nil] at hback hback'
  have hover : ¬65537 ≤ 65536 := by decide
  exact ⟨⟨hback.2 (Nat.le_refl _), hapart.2 (Nat.le_refl _)⟩, mt hback'.1 hover, mt hapart'.1 hover⟩

end Taxonomy

end CodeChunks
