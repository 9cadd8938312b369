import CodeChunks.Table
import CodeChunks.Taxonomy.Basic

/-!
# Registering many classes

A `Register` is a taxonomy that finds a class without going through all of them: the `Positions` of
the classes are kept in buckets, by the hash of the name. It registers and finds like the taxonomy
that it stands for (`toTaxonomy`).
-/

namespace CodeChunks.Taxonomy

/-- Positions by name and language, in buckets. -/
structure Positions where
  buckets : Vector (Table (String × Language) Nat) 8192

namespace Positions

def empty : Positions := ⟨.replicate 8192 []⟩

/-- The bucket of a name. -/
def bucketOf (name : String) : Fin 8192 := Fin.ofNat 8192 (hash name).toNat

def get? (p : Positions) (key : String × Language) : Option Nat :=
  p.buckets[bucketOf key.1].get? key

def insert (p : Positions) (key : String × Language) (i : Nat) : Positions :=
  ⟨p.buckets.set (bucketOf key.1) (p.buckets[bucketOf key.1].insert key i)⟩

theorem get?_empty (key : String × Language) : empty.get? key = none := by
  simp [get?, empty]

/-- The hash decides only which bucket is searched. -/
theorem get?_insert (p : Positions) (key x : String × Language) (i : Nat) :
    (p.insert key i).get? x = if key = x then some i else p.get? x := by
  unfold get? insert
  by_cases hbucket : bucketOf key.1 = bucketOf x.1
  · simp [hbucket]
  · have hne : key ≠ x := fun e => hbucket (congrArg (bucketOf ·.1) e)
    have hslot : (bucketOf key.1).val ≠ (bucketOf x.1).val := fun e => hbucket (Fin.ext e)
    simp [hne, hslot]

end Positions

/-- The added classes, oldest first, with their positions. -/
structure Register where
  added : Array ClassDef
  positions : Positions
  found_first : ∀ name language,
    positions.get? (name, language) = added.toList.findIdx? (·.isNamed name language)

namespace Register

def toTaxonomy (r : Register) : Taxonomy := { added := r.added.toList }

def empty : Register := ⟨#[], .empty, fun _ _ => Positions.get?_empty _⟩

theorem findIdx?_concat {added : List ClassDef} {d : ClassDef}
    (hnew : added.findIdx? (·.isNamed d.name d.language) = none) (name : String)
    (language : Language) : (added ++ [d]).findIdx? (·.isNamed name language) =
      if (d.name, d.language) = (name, language) then some added.length
      else added.findIdx? (·.isNamed name language) := by
  rw [List.findIdx?_append]
  by_cases hsame : (d.name, d.language) = (name, language)
  · obtain ⟨rfl, rfl⟩ := Prod.mk.inj hsame
    rw [hnew, if_pos rfl]
    simp [List.findIdx?_cons, ClassDef.isNamed]
  · have hnot : d.isNamed name language = false := by
      simpa [ClassDef.isNamed] using hsame
    rw [if_neg hsame]
    simp [List.findIdx?_cons, hnot]

/-- Adds a class that is not there. -/
def append (r : Register) (d : ClassDef) (hnew : r.positions.get? (d.name, d.language) = none) :
    Register :=
  let position := r.added.size
  { added := r.added.push d
    positions := r.positions.insert (d.name, d.language) position
    found_first name language := by
      rw [Positions.get?_insert, Array.toList_push,
        findIdx?_concat ((r.found_first _ _).symm.trans hnew), Array.length_toList, r.found_first] }

/-- Registers a definition, or finds the one that is there. -/
def register (r : Register) (d : ClassDef) : Register × CodeClass :=
  match h : r.positions.get? (d.name, d.language) with
  | some i => (r, .added (handleAt i))
  | none =>
    -- the handle is taken before the push, so that the array is not copied
    let handle := handleAt r.added.size
    (r.append d h, .added handle)

/-- A class by its name: a core class, else the first added class of that name. -/
def byName? (r : Register) (n : String) : Option CodeClass :=
  match CoreClass.ofName? n with
  | some c => some (.core c)
  | none => r.toTaxonomy.byName? n

/-- The register of the classes that are always there. -/
def builtin : Register := (empty.register markupElement).1

theorem toTaxonomy_register (r : Register) (d : ClassDef) :
    ((r.register d).1.toTaxonomy, (r.register d).2) = r.toTaxonomy.register d := by
  have hfound := r.found_first d.name d.language
  unfold Taxonomy.register find? register
  split
  · rename_i i hi
    rw [hi] at hfound
    simp [toTaxonomy, ← hfound]
  · rename_i hnone
    rw [hnone] at hfound
    simp [toTaxonomy, append, ← hfound]

theorem byName?_eq (r : Register) (n : String) : r.byName? n = r.toTaxonomy.byName? n := by
  unfold byName? Taxonomy.byName?
  cases CoreClass.ofName? n <;> rfl

theorem toTaxonomy_builtin : builtin.toTaxonomy = Taxonomy.builtin :=
  congrArg Prod.fst (toTaxonomy_register empty markupElement)

end Register

end CodeChunks.Taxonomy
