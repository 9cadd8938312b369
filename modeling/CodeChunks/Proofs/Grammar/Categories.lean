import CodeChunks.Grammar.Load
import Mathlib.Data.List.Basic

/-!
# Kinds and their categories

A category lists its members, and a kind lists the categories that it is in. Of a category that is
described more than once the last description counts for its members (`ListedLast`), but all of them
count for the categories of the kinds (`Listed`). Of a kind that is described more than once the
first description takes the categories, and one that replaces it (`isReplaced`) has none. So the two
lists agree wherever neither happens. `supersede` is what one entry makes of one kind.
-/

namespace CodeChunks.Grammar

/-! ## Descriptions -/

/-- Whether an entry describes a kind of the name. -/
def Entry.describes (x : String) (e : Entry) : Bool := !e.isCategory && e.name == x

def descriptions (entries : List Entry) (x : String) : List Entry := entries.filter (·.describes x)

/-- The members that each description of a category lists. -/
def listings (entries : List Entry) (y : String) : List (List String) :=
  (entries.filter (·.name == y)).filterMap (·.subtypes)

/-- Whether the first description of a kind is replaced. One that is a named rule is replaced by
named rules only. -/
def isReplaced (entries : List Entry) (x : String) : Bool :=
  match descriptions entries x with
  | [] => false
  | first :: rest => rest.any fun e => e.named || !first.named

def Listed (entries : List Entry) (y x : String) : Prop :=
  ∃ members ∈ listings entries y, x ∈ members

def ListedLast (entries : List Entry) (y x : String) : Prop :=
  ∃ members, (listings entries y).getLast? = some members ∧ x ∈ members

theorem listings_cons (e : Entry) (entries : List Entry) (y : String) :
    listings (e :: entries) y = listings [e] y ++ listings entries y := by
  simp [listings, ← List.filterMap_append, ← List.filter_append]

theorem Listed.of_last {entries : List Entry} {y x : String} (h : ListedLast entries y x) :
    Listed entries y x := by
  obtain ⟨members, hlast, hx⟩ := h
  exact ⟨members, List.mem_of_getLast? hlast, hx⟩

theorem Listed.last_of_length_le {entries : List Entry} {y x : String}
    (hone : (listings entries y).length ≤ 1) (h : Listed entries y x) : ListedLast entries y x := by
  obtain ⟨members, hmem, hx⟩ := h
  refine ⟨members, ?_, hx⟩
  match hlist : listings entries y with
  | [] =>
    rw [hlist] at hmem
    cases hmem
  | [only] =>
    rw [hlist, List.mem_singleton] at hmem
    rw [hmem]
    rfl
  | _ :: _ :: _ =>
    rw [hlist] at hone
    simp at hone

theorem not_isReplaced_of_length_le {entries : List Entry} {x : String}
    (hone : (descriptions entries x).length ≤ 1) : isReplaced entries x = false := by
  unfold isReplaced
  match hlist : descriptions entries x with
  | [] => rfl
  | [_] => rfl
  | _ :: _ :: _ =>
    rw [hlist] at hone
    simp at hone

/-! ## The first pass -/

def Membership.of (m : Membership) (x : String) : Names := (m.get? x).getD []

theorem Membership.mem_add {m : Membership} {category member x y : String} :
    y ∈ (m.add category member).of x ↔ (member = x ∧ y = category) ∨ y ∈ m.of x := by
  unfold Membership.add Membership.of
  rw [Table.get?_insert]
  by_cases hx : member = x
  · subst hx
    simp [Names.mem_insert]
  · simp [hx]

theorem Membership.mem_addAll {category x y : String} (members : List String) (m : Membership) :
    y ∈ Membership.of (members.foldl (fun m member => m.add category member) m) x ↔
      (x ∈ members ∧ y = category) ∨ y ∈ m.of x := by
  induction members generalizing m with
  | nil => simp
  | cons member members ih =>
    rw [List.foldl_cons, ih, Membership.mem_add, List.mem_cons, eq_comm (a := x)]
    tauto

theorem Membership.nodup_addAll {category : String} (members : List String) {m : Membership}
    (h : m.keys.Nodup) :
    (Table.keys (members.foldl (fun m member => Membership.add m category member) m)).Nodup := by
  induction members generalizing m with
  | nil => exact h
  | cons member members ih => exact ih (Table.nodup_keys_insert h _ _)

namespace Collected

variable (language : Language) (c : Collected)

theorem nodup_add (h : c.membership.keys.Nodup) (e : Entry) :
    (c.add language e).membership.keys.Nodup := by
  unfold add
  cases e.subtypes with
  | none => exact h
  | some subtypes => exact Membership.nodup_addAll _ h

theorem mem_membership_add (e : Entry) (x y : String) :
    y ∈ (c.add language e).membership.of x ↔ Listed [e] y x ∨ y ∈ c.membership.of x := by
  unfold add Listed listings
  cases hsub : e.subtypes with
  | none => simp [hsub]
  | some subtypes =>
    dsimp only
    rw [Membership.mem_addAll, Names.mem_ofList]
    by_cases hname : e.name = y
    · simp [hname, hsub]
    · simp [hname, Ne.symm hname]

theorem get?_categories_add (e : Entry) (y : String) :
    (c.add language e).categories.get? y =
      ((listings [e] y).getLast?.map fun members => ⟨y, language, .ofList members⟩).or
        (c.categories.get? y) := by
  unfold add listings
  cases hsub : e.subtypes with
  | none => by_cases hname : e.name = y <;> simp [hname, hsub]
  | some subtypes =>
    dsimp only
    rw [Table.get?_insert]
    by_cases hname : e.name = y
    · simp [hname, hsub]
    · simp [hname]

theorem nodup_foldl (entries : List Entry) (h : c.membership.keys.Nodup) :
    (entries.foldl (Collected.add language) c).membership.keys.Nodup := by
  induction entries generalizing c with
  | nil => exact h
  | cons e entries ih => exact ih _ (c.nodup_add language h e)

theorem mem_membership_foldl (entries : List Entry) (x y : String) :
    y ∈ (entries.foldl (Collected.add language) c).membership.of x ↔
      Listed entries y x ∨ y ∈ c.membership.of x := by
  induction entries generalizing c with
  | nil => simp [Listed, listings]
  | cons e entries ih =>
    rw [List.foldl_cons, ih, mem_membership_add, ← or_assoc]
    refine or_congr_left ?_
    unfold Listed
    rw [listings_cons e entries]
    simp [or_and_right, exists_or, or_comm]

theorem get?_categories_foldl (entries : List Entry) (y : String) :
    (entries.foldl (Collected.add language) c).categories.get? y =
      ((listings entries y).getLast?.map fun members => ⟨y, language, .ofList members⟩).or
        (c.categories.get? y) := by
  induction entries generalizing c with
  | nil => simp [listings]
  | cons e entries ih =>
    rw [List.foldl_cons, ih, get?_categories_add, listings_cons e entries, List.getLast?_append,
      ← Option.or_assoc]
    cases (listings entries y).getLast? <;> simp

end Collected

/-! ## The second pass -/

namespace Entry

variable (language : Language)

/-- What an entry makes of a kind of its name, and of the categories that are still to be given
to it. -/
def supersede (e : Entry) : Option Kind × Names → Option Kind × Names
  | (some k, given) =>
    if !e.named && k.explicit then (some k, given) else (some (e.kind language given), [])
  | (none, given) => (some (e.kind language given), [])

/-- A kind that was given its categories keeps them unless it is replaced, and then it has none. -/
theorem foldl_supersede (rest : List Entry) (k : Kind) (hnames : ∀ e ∈ rest, e.name = k.name) :
    ∃ k', rest.foldl (fun kind e => e.supersede language kind) (some k, []) = (some k', []) ∧
      k'.name = k.name ∧
      k'.categories =
        if rest.any fun e => e.named || !k.explicit then [] else k.categories := by
  induction rest generalizing k with
  | nil => exact ⟨k, rfl, rfl, rfl⟩
  | cons e rest ih =>
    have hname : e.name = k.name := hnames e List.mem_cons_self
    have hrest : ∀ d ∈ rest, d.name = k.name := fun d hd => hnames d (List.mem_cons_of_mem e hd)
    rw [List.foldl_cons, supersede, List.any_cons]
    cases hskip : !e.named && k.explicit with
    | true =>
      obtain ⟨k', hk', hkname, hcategories⟩ := ih k hrest
      have hstays : (e.named || !k.explicit) = false := by
        revert hskip
        cases e.named <;> cases k.explicit <;> decide
      refine ⟨k', hk', hkname, ?_⟩
      rw [hstays, Bool.false_or]
      exact hcategories
    | false =>
      obtain ⟨k', hk', hkname, hcategories⟩ :=
        ih (e.kind language []) fun d hd => (hrest d hd).trans hname.symm
      have hgoes : (e.named || !k.explicit) = true := by
        revert hskip
        cases e.named <;> cases k.explicit <;> decide
      refine ⟨k', hk', hkname.trans hname, ?_⟩
      rw [hgoes, Bool.true_or, if_pos rfl, hcategories]
      exact ite_self _

end Entry

namespace Built

variable (language : Language) (b : Built)

/-- The kind of a name so far, and the categories that are still to be given to it. -/
def view (x : String) : Option Kind × Names := (b.kinds.get? x, b.membership.of x)

theorem nodup_add (h : b.membership.keys.Nodup) (e : Entry) :
    (b.add language e).membership.keys.Nodup := by
  unfold add
  split
  · exact h
  · split
    · exact h
    · exact Table.nodup_keys_erase h e.name

/-- An entry changes the kind that it describes and no other. -/
theorem view_add (h : b.membership.keys.Nodup) (e : Entry) (x : String) :
    (b.add language e).view x =
      if e.describes x then e.supersede language (b.view x) else b.view x := by
  unfold add Entry.describes
  cases e.isCategory with
  | true => rfl
  | false =>
    by_cases hname : e.name = x
    · subst hname
      unfold view Membership.of Entry.supersede
      cases hk : b.kinds.get? e.name with
      | none => simp [Table.get?_erase h]
      | some k => cases hskip : !e.named && k.explicit <;> simp [hskip, hk, Table.get?_erase h]
    · have hother : (!false && e.name == x) = false := by simp [hname]
      rw [hother]
      unfold view Membership.of
      split
      · contradiction
      · split
        · rfl
        · simp [Table.get?_erase h, hname]

theorem view_foldl (h : b.membership.keys.Nodup) (entries : List Entry) (x : String) :
    (entries.foldl (Built.add language) b).view x =
      (descriptions entries x).foldl (fun kind e => e.supersede language kind) (b.view x) := by
  induction entries generalizing b with
  | nil => rfl
  | cons e entries ih =>
    rw [List.foldl_cons, ih _ (b.nodup_add language h e), view_add _ _ h]
    unfold descriptions
    rw [List.filter_cons]
    split <;> rfl

end Built

/-! ## Both passes -/

variable (language : Language) (entries : List Entry)

/-- A kind that is not replaced is in the categories of which a description lists it, and one that
is replaced is in none. -/
theorem mem_categories_iff {x : String} {t : Kind}
    (h : (ofEntries language entries).kind? x = some t) :
    t.name = x ∧ ∀ y, y ∈ t.categories ↔ isReplaced entries x = false ∧ Listed entries y x := by
  let collected := entries.foldl (Collected.add language) {}
  have hnodup : collected.membership.keys.Nodup :=
    Collected.nodup_foldl language {} entries List.nodup_nil
  have hview := Built.view_foldl language { membership := collected.membership } hnodup entries x
  have hgiven : ∀ y, y ∈ collected.membership.of x ↔ Listed entries y x := by
    intro y
    have hmem := Collected.mem_membership_foldl language {} entries x y
    exact hmem.trans (or_iff_left List.not_mem_nil)
  have hkind : ((entries.foldl (Built.add language)
      { membership := collected.membership }).view x).1 = some t := h
  rw [hview] at hkind
  unfold isReplaced
  cases hlist : descriptions entries x with
  | nil =>
    rw [hlist] at hkind
    cases hkind
  | cons first rest =>
    have hnames : ∀ e ∈ first :: rest, e.name = x := by
      intro e he
      rw [← hlist] at he
      have hdescribes := (List.mem_filter.1 he).2
      simp only [Entry.describes, Bool.and_eq_true, beq_iff_eq] at hdescribes
      exact hdescribes.2
    have hfirst : first.name = x := hnames first List.mem_cons_self
    obtain ⟨k, hk, hname, hcategories⟩ := Entry.foldl_supersede language rest
      (first.kind language (collected.membership.of x))
      fun e he => (hnames e (List.mem_cons_of_mem first he)).trans hfirst.symm
    rw [hlist, List.foldl_cons, Built.view, Table.get?_nil, Entry.supersede] at hkind
    have htk : k = t := Option.some.inj ((congrArg Prod.fst hk).symm.trans hkind)
    subst htk
    refine ⟨hname.trans hfirst, fun y => ?_⟩
    have hkept : k.categories = if rest.any fun e => e.named || !first.named then []
        else collected.membership.of x := hcategories
    rw [hkept]
    split
    · rename_i hany
      simp [hany]
    · rename_i hany
      simp [hany, hgiven]

theorem mem_members_iff {y : String} {c : Category}
    (h : (ofEntries language entries).category? y = some c) :
    c.name = y ∧ ∀ x, x ∈ c.members ↔ ListedLast entries y x := by
  have hget := Collected.get?_categories_foldl language {} entries y
  rw [Table.get?_nil, Option.or_none] at hget
  obtain ⟨members, hlast, rfl⟩ := Option.map_eq_some_iff.1 (hget.symm.trans h)
  refine ⟨rfl, fun x => ?_⟩
  rw [Names.mem_ofList]
  unfold ListedLast
  simp [hlast]

variable {language entries}

/-- A document that is accepted is a list of entries, and a kind and a category of its grammar agree
exactly in the following cases. The kind was replaced and the last description of the category does
not list it; or it was not replaced, and if a description of the category lists it, so does the last
one. So they all agree if no kind and no category is described twice. -/
theorem categories_agree_iff {text : String} {g : Grammar} (hload : ofText language text = .ok g) :
    ∃ entries, entriesOfText? text = some entries ∧
      (∀ x t y c, g.kind? x = some t → g.category? y = some c →
        ((c.name ∈ t.categories ↔ t.name ∈ c.members) ↔
          if isReplaced entries t.name then ¬ ListedLast entries c.name t.name
          else Listed entries c.name t.name → ListedLast entries c.name t.name)) ∧
      ((∀ x, (descriptions entries x).length ≤ 1) → (∀ y, (listings entries y).length ≤ 1) →
        ∀ x t y c, g.kind? x = some t → g.category? y = some c →
          (c.name ∈ t.categories ↔ t.name ∈ c.members)) := by
  unfold ofText at hload
  cases hentries : entriesOfText? text with
  | none =>
    rw [hentries] at hload
    cases hload
  | some entries =>
    rw [hentries] at hload
    cases hload
    refine ⟨entries, rfl, fun x t y c ht hc => ?_, fun hkinds hcategories x t y c ht hc => ?_⟩
    · obtain ⟨rfl, hcategories⟩ := mem_categories_iff language entries ht
      obtain ⟨rfl, hmembers⟩ := mem_members_iff language entries hc
      have hlast : ListedLast entries c.name t.name → Listed entries c.name t.name := .of_last
      rw [hcategories, hmembers]
      cases isReplaced entries t.name with
      | true => simp
      | false =>
        simp only [true_and, Bool.false_eq_true, if_false]
        exact ⟨fun h => h.1, fun h => ⟨h, hlast⟩⟩
    · obtain ⟨rfl, hcats⟩ := mem_categories_iff language entries ht
      obtain ⟨rfl, hmembers⟩ := mem_members_iff language entries hc
      rw [hcats, hmembers, not_isReplaced_of_length_le (hkinds _)]
      exact ⟨fun h => h.2.last_of_length_le (hcategories _), fun h => ⟨rfl, .of_last h⟩⟩

end CodeChunks.Grammar

namespace CodeChunks

namespace Sample

/-- A category with one member, which is first described as a literal token and then as a rule. -/
def twiceDescribed : String :=
  "[\x7b\"type\":\"_expression\",\"named\":true,\"subtypes\":[\x7b\"type\":\"await\"\x7d]\x7d," ++
    "\x7b\"type\":\"await\",\"named\":false\x7d,\x7b\"type\":\"await\",\"named\":true\x7d]"

def twiceDescribedEntries : List Grammar.Entry :=
  [⟨"_expression", true, some ["await"], [], none, false⟩,
   ⟨"await", false, none, [], none, false⟩, ⟨"await", true, none, [], none, false⟩]

end Sample

namespace Grammar

/-- A rule that replaces a literal token of its name is in no category, though the category lists
it. -/
theorem rule_loses_category : ∃ g t c, ofText .python Sample.twiceDescribed = .ok g ∧
    g.kind? "await" = some t ∧ g.category? "_expression" = some c ∧
    t.name ∈ c.members ∧ c.name ∉ t.categories := by
  have hentries : entriesOfText? Sample.twiceDescribed = some Sample.twiceDescribedEntries := by
    decide +kernel
  have hload : ofText .python Sample.twiceDescribed =
      .ok (ofEntries .python Sample.twiceDescribedEntries) := by
    rw [ofText, hentries]
  obtain ⟨entries, hsame, hagree, -⟩ := categories_agree_iff hload
  obtain rfl : Sample.twiceDescribedEntries = entries := Option.some.inj (hentries.symm.trans hsame)
  obtain ⟨t, ht⟩ := Option.isSome_iff_exists.1
    (show ((ofEntries .python Sample.twiceDescribedEntries).kind? "await").isSome = true by decide)
  obtain ⟨c, hc⟩ := Option.isSome_iff_exists.1
    (show ((ofEntries .python Sample.twiceDescribedEntries).category? "_expression").isSome = true
      by decide)
  have htname := (mem_categories_iff _ _ ht).1
  obtain ⟨hcname, hmembers⟩ := mem_members_iff _ _ hc
  have hlast : ListedLast Sample.twiceDescribedEntries "_expression" "await" :=
    ⟨["await"], by decide, by decide⟩
  have hreplaced : isReplaced Sample.twiceDescribedEntries "await" = true := by decide
  have hmember : t.name ∈ c.members := by
    rw [htname]
    exact (hmembers "await").2 hlast
  refine ⟨_, t, c, hload, ht, hc, hmember, fun hcategory => ?_⟩
  have hnot := (hagree _ t _ c ht hc).1 ⟨fun _ => hmember, fun _ => hcategory⟩
  rw [htname, hcname, hreplaced] at hnot
  exact hnot hlast

end Grammar

end CodeChunks
