/-!
# Sets of names

A set of names is kept as the strictly increasing list of its members, so that equal sets are
equal lists and are shown in order.
-/

namespace CodeChunks

abbrev Names := List String

namespace Names

def insert (x : String) : Names → Names
  | [] => [x]
  | y :: ys => if x < y then x :: y :: ys else if x = y then y :: ys else y :: insert x ys

def ofList (xs : List String) : Names := xs.foldr insert []

theorem mem_insert {x y : String} {s : Names} : y ∈ insert x s ↔ y = x ∨ y ∈ s := by
  induction s with
  | nil => simp [insert]
  | cons z zs ih =>
    simp only [insert]
    split
    · simp
    · split
      · rename_i h
        subst h
        simp
      · simp only [List.mem_cons, ih]
        constructor
        · rintro (h | h | h) <;> simp [h]
        · rintro (h | h | h) <;> simp [h]

@[simp] theorem mem_ofList {x : String} {xs : List String} : x ∈ ofList xs ↔ x ∈ xs := by
  induction xs with
  | nil => simp [ofList]
  | cons y ys ih => simp only [ofList, List.foldr_cons, mem_insert, List.mem_cons] at *; rw [ih]

end Names

end CodeChunks
