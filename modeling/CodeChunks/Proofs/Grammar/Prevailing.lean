import CodeChunks.Proofs.Grammar.Categories
import Mathlib.Data.List.Induction

/-!
# Named rules prevail

A name can be described any number of times, as a named rule and as a literal token, in any order.
The grammar has one kind for it all the same. That is the kind of the `prevailing?` description, the
last named rule, or the last literal token where no named rule describes the name.
-/

namespace CodeChunks

namespace Table

variable {κ α : Type} [DecidableEq κ]

theorem mem_iff_get? {t : Table κ α} (h : t.keys.Nodup) {k : κ} {a : α} :
    (k, a) ∈ t ↔ t.get? k = some a := by
  induction t with
  | nil => simp
  | cons p t ih =>
    obtain ⟨k', a'⟩ := p
    obtain ⟨hfresh, hrest⟩ := List.nodup_cons.1 h
    rw [List.mem_cons, get?, ih hrest]
    by_cases hk : k' = k
    · subst hk
      have hnone : get? t k' = none := get?_eq_none_iff.2 hfresh
      simp [hnone, eq_comm]
    · simp [hk, Ne.symm hk]

end Table

def Kind.bare (k : Kind) : Kind := { k with categories := [] }

namespace Grammar

/-! ## The entry that prevails -/

/-- Of the descriptions of one kind, the last named rule, or else the last literal token. -/
def prevailing? (ds : List Entry) : Option Entry :=
  (ds.filter (·.named)).getLast?.or (ds.filter (!·.named)).getLast?

variable {ds : List Entry} {e : Entry}

theorem mem_of_prevailing? (h : prevailing? ds = some e) : e ∈ ds := by
  rcases Option.or_eq_some_iff.1 h with h | ⟨-, h⟩
  · exact (List.mem_filter.1 (List.mem_of_getLast? h)).1
  · exact (List.mem_filter.1 (List.mem_of_getLast? h)).1

theorem named_of_prevailing? (h : prevailing? ds = some e) :
    e.named = true ↔ ∃ d ∈ ds, d.named = true := by
  refine ⟨fun hnamed => ⟨e, mem_of_prevailing? h, hnamed⟩, ?_⟩
  rintro ⟨d, hd, hnamed⟩
  rcases Option.or_eq_some_iff.1 h with h | ⟨hnone, -⟩
  · exact (List.mem_filter.1 (List.mem_of_getLast? h)).2
  · have hnil := List.getLast?_eq_none_iff.1 hnone
    exact absurd hnamed (List.filter_eq_nil_iff.1 hnil d hd)

theorem prevailing?_eq_none_iff : prevailing? ds = none ↔ ds = [] := by
  refine ⟨fun h => ?_, fun h => h ▸ rfl⟩
  obtain ⟨hnamed, hliteral⟩ := Option.or_eq_none_iff.1 h
  rw [List.getLast?_eq_none_iff, List.filter_eq_nil_iff] at hnamed hliteral
  refine List.eq_nil_iff_forall_not_mem.2 fun d hd => ?_
  have hd' := hliteral d hd
  rw [Bool.not_eq_true', Bool.not_eq_false] at hd'
  exact hnamed d hd hd'

/-- One more description prevails, unless it is a literal token and a named rule prevailed. -/
theorem prevailing?_concat (ds : List Entry) (e : Entry) :
    prevailing? (ds ++ [e]) =
      if !e.named && (prevailing? ds).any (·.named) then prevailing? ds else some e := by
  cases hnamed : e.named with
  | true => simp [prevailing?, hnamed]
  | false =>
    have hconcat : prevailing? (ds ++ [e]) = (ds.filter (·.named)).getLast?.or (some e) := by
      simp [prevailing?, hnamed]
    rw [hconcat, Bool.not_false, Bool.true_and]
    unfold prevailing?
    cases hrule : (ds.filter (·.named)).getLast? with
    | some d =>
      have hd : d.named = true := (List.mem_filter.1 (List.mem_of_getLast? hrule)).2
      simp [hd]
    | none =>
      cases htoken : (ds.filter (!·.named)).getLast? with
      | none => rfl
      | some d =>
        have hd := (List.mem_filter.1 (List.mem_of_getLast? htoken)).2
        rw [Bool.not_eq_true'] at hd
        simp [hd]

/-! ## The kind of a name -/

variable (language : Language)

theorem map_bare_supersede (e : Entry) (kind : Option Kind × Names) :
    (e.supersede language kind).1.map Kind.bare =
      if !e.named && (kind.1.map Kind.bare).any (·.explicit) then kind.1.map Kind.bare
      else some (e.kind language []) := by
  obtain ⟨_ | k, given⟩ := kind
  · simp [Entry.supersede, Kind.bare, Entry.kind]
  · rw [Entry.supersede]
    cases hskip : !e.named && k.explicit <;> simp [Kind.bare, Entry.kind, hskip]

/-- The kind of a name is that of the entry which prevails so far, whatever categories it was
given. -/
theorem map_bare_foldl_supersede (ds : List Entry) (given : Names) :
    (ds.foldl (fun kind e => e.supersede language kind) (none, given)).1.map Kind.bare =
      (prevailing? ds).map (·.kind language []) := by
  induction ds using List.reverseRecOn with
  | nil => rfl
  | append_singleton ds e ih =>
    have hexplicit : ((prevailing? ds).map (·.kind language [])).any (·.explicit) =
        (prevailing? ds).any (·.named) := by
      cases prevailing? ds <;> rfl
    rw [List.foldl_append, List.foldl_cons, List.foldl_nil, map_bare_supersede, ih,
      prevailing?_concat, hexplicit]
    split <;> rfl

/-! ## All kinds of a grammar -/

theorem Entry.describes_iff {e : Entry} {x : String} :
    e.describes x = true ↔ e.subtypes = none ∧ e.name = x := by
  simp [Entry.describes, Entry.isCategory]

theorem mem_descriptions {entries : List Entry} {e : Entry} {x : String} :
    e ∈ descriptions entries x ↔ e ∈ entries ∧ e.subtypes = none ∧ e.name = x := by
  rw [descriptions, List.mem_filter, Entry.describes_iff]

theorem Built.nodup_kinds_foldl (entries : List Entry) {b : Built} (h : b.kinds.keys.Nodup) :
    (entries.foldl (Built.add language) b).kinds.keys.Nodup := by
  induction entries generalizing b with
  | nil => exact h
  | cons e entries ih =>
    refine ih ?_
    unfold add
    split
    · exact h
    · split
      · exact h
      · exact Table.nodup_keys_insert h e.name _

variable (entries : List Entry)

theorem nodup_keys_kinds : (ofEntries language entries).kinds.keys.Nodup :=
  Built.nodup_kinds_foldl language entries List.nodup_nil

theorem map_bare_kind? (x : String) : ((ofEntries language entries).kind? x).map Kind.bare =
    (prevailing? (descriptions entries x)).map (·.kind language []) := by
  let collected := entries.foldl (Collected.add language) {}
  have hnodup : collected.membership.keys.Nodup :=
    Collected.nodup_foldl language {} entries List.nodup_nil
  have hview := Built.view_foldl language { membership := collected.membership } hnodup entries x
  rw [← map_bare_foldl_supersede language _ (collected.membership.of x)]
  exact congrArg (·.1.map Kind.bare) hview

theorem mem_keys_kinds_iff (x : String) : x ∈ (ofEntries language entries).kinds.keys ↔
    ∃ e ∈ entries, e.subtypes = none ∧ e.name = x := by
  have hnone : (ofEntries language entries).kind? x = none ↔ descriptions entries x = [] := by
    rw [← prevailing?_eq_none_iff, ← Option.map_eq_none_iff, map_bare_kind?,
      Option.map_eq_none_iff]
  rw [← not_iff_not, ← Table.get?_eq_none_iff]
  refine hnone.trans ?_
  simp only [List.eq_nil_iff_forall_not_mem, mem_descriptions, not_exists]

theorem kind?_of_mem_values {k : Kind} (h : k ∈ (ofEntries language entries).kinds.values) :
    (ofEntries language entries).kind? k.name = some k := by
  obtain ⟨⟨x, k⟩, hmem, rfl⟩ := List.mem_map.1 h
  have hget := (Table.mem_iff_get? (nodup_keys_kinds language entries)).1 hmem
  rwa [(mem_categories_iff language entries hget).1]

theorem map_name_values : (ofEntries language entries).kinds.values.map Kind.name =
    (ofEntries language entries).kinds.keys := by
  unfold Table.values Table.keys
  rw [List.map_map]
  refine List.map_congr_left fun p hp => ?_
  have hget := (Table.mem_iff_get? (nodup_keys_kinds language entries)).1 hp
  exact (mem_categories_iff language entries hget).1

/-- An entry with roles or children describes a composite kind: one direct connection for each role,
and one positional connection for the children without a role. Any other describes a token. -/
theorem Entry.shape_eq (e : Entry) : e.shape =
    if e.fields = [] ∧ e.children = none then .token (.infer e.name e.named)
    else .composite
      (e.fields.map fun f => ⟨some f.1, .ofList f.2.targets, .ofFlags f.2.multiple f.2.required⟩)
      (e.children.toList.map fun s =>
        ⟨none, .ofList s.targets, .ofFlags s.multiple s.required⟩) := by
  unfold Entry.shape Entry.hasStructure
  cases e.fields with
  | nil => cases e.children <;> rfl
  | cons f fields => rfl

/-- The kinds of a grammar are those that its entries describe, one for each name. A kind is a named
rule if one of its descriptions is, and it is what its prevailing description says. -/
theorem kinds_are_prevailing (language : Language) (entries : List Entry) :
    ((ofEntries language entries).kinds.values.map Kind.name).Nodup ∧
    (∀ x, x ∈ (ofEntries language entries).kinds.values.map Kind.name ↔
      ∃ e ∈ entries, e.subtypes = none ∧ e.name = x) ∧
    ∀ k ∈ (ofEntries language entries).kinds.values,
      (ofEntries language entries).kind? k.name = some k ∧ k.language = language ∧
      (k.explicit = true ↔
        ∃ e ∈ entries, (e.subtypes = none ∧ e.name = k.name) ∧ e.named = true) ∧
      ∃ e, prevailing? (descriptions entries k.name) = some e ∧
        k.anywhere = (e.extra || isKnownExtra e.name language) ∧
        k.shape =
          if e.fields = [] ∧ e.children = none then .token (.infer e.name e.named)
          else .composite
            (e.fields.map fun f =>
              ⟨some f.1, .ofList f.2.targets, .ofFlags f.2.multiple f.2.required⟩)
            (e.children.toList.map fun s =>
              ⟨none, .ofList s.targets, .ofFlags s.multiple s.required⟩) := by
  rw [map_name_values]
  refine ⟨nodup_keys_kinds language entries, mem_keys_kinds_iff language entries, fun k hk => ?_⟩
  have hkind := kind?_of_mem_values language entries hk
  have hbare := map_bare_kind? language entries k.name
  rw [hkind] at hbare
  obtain ⟨e, he, hek⟩ := Option.map_eq_some_iff.1 hbare.symm
  have hnamed : e.named = k.explicit := congrArg Kind.explicit hek
  refine ⟨hkind, (congrArg Kind.language hek).symm, ?_, e, he,
    (congrArg Kind.anywhere hek).symm, ?_⟩
  · rw [← hnamed, named_of_prevailing? he]
    simp only [mem_descriptions, and_assoc]
  · rw [← e.shape_eq]
    exact (congrArg Kind.shape hek).symm

end Grammar

namespace Sample

/-- A name that is described by turns as a literal token and as a rule. -/
def alternating : List Grammar.Entry :=
  [⟨"await", false, none, [], none, false⟩,
   ⟨"await", true, none, [], none, true⟩,
   ⟨"_expression", true, some ["await"], [], none, false⟩,
   ⟨"await", true, none, [("value", ⟨false, true, ["_expression"]⟩)], none, false⟩,
   ⟨"await", false, none, [], none, true⟩]

end Sample

namespace Grammar

/-- The second rule prevails over the rule before it and over the tokens on both sides. -/
theorem second_rule_prevails : ∃ k, k ∈ (ofEntries .python Sample.alternating).kinds.values ∧
    k.name = "await" ∧ k.explicit = true ∧ k.anywhere = false ∧
    k.shape = .composite [⟨some "value", ["_expression"], .requiredSingle⟩] [] := by
  obtain ⟨-, hnames, hkinds⟩ := kinds_are_prevailing .python Sample.alternating
  have hdescribed : ∃ e ∈ Sample.alternating, e.subtypes = none ∧ e.name = "await" :=
    ⟨⟨"await", false, none, [], none, false⟩, by decide, rfl, rfl⟩
  obtain ⟨k, hk, hname⟩ := List.mem_map.1 ((hnames "await").2 hdescribed)
  obtain ⟨-, -, hexplicit, e, he, hanywhere, hshape⟩ := hkinds k hk
  rw [hname] at hexplicit he
  have hsecond : prevailing? (descriptions Sample.alternating "await") =
      some ⟨"await", true, none, [("value", ⟨false, true, ["_expression"]⟩)], none, false⟩ := by
    decide
  obtain rfl := Option.some.inj (hsecond.symm.trans he)
  refine ⟨k, hk, hname, hexplicit.2 ?_, hanywhere, hshape⟩
  exact ⟨⟨"await", true, none, [], none, true⟩, by decide, ⟨rfl, rfl⟩, rfl⟩

end Grammar

end CodeChunks
