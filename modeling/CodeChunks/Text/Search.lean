/-!
# Looking for a piece of text
-/

namespace CodeChunks.Text

/-- Whether `piece` stands somewhere in the text. -/
def containsList (piece : List Char) : List Char → Bool
  | [] => piece == []
  | c :: cs => piece.isPrefixOf (c :: cs) || containsList piece cs

def contains (piece text : String) : Bool := containsList piece.toList text.toList

def endsWith (piece text : String) : Bool := piece.toList.isSuffixOf text.toList

def startsWith (piece text : String) : Bool := piece.toList.isPrefixOf text.toList

theorem containsList_iff {piece cs : List Char} :
    containsList piece cs = true ↔ ∃ pre post, cs = pre ++ piece ++ post := by
  induction cs with
  | nil =>
    simp only [containsList, beq_iff_eq]
    constructor
    · rintro rfl
      exact ⟨[], [], rfl⟩
    · rintro ⟨pre, post, h⟩
      have := congrArg List.length h
      simp only [List.length_nil, List.length_append] at this
      exact List.eq_nil_of_length_eq_zero (by omega)
  | cons c cs ih =>
    simp only [containsList, Bool.or_eq_true, List.isPrefixOf_iff_prefix, ih]
    constructor
    · rintro (⟨t, ht⟩ | ⟨pre, post, rfl⟩)
      · exact ⟨[], t, by simp [ht]⟩
      · exact ⟨c :: pre, post, rfl⟩
    · rintro ⟨pre, post, h⟩
      cases pre with
      | nil => exact .inl ⟨post, by simpa using h.symm⟩
      | cons a pre =>
        simp only [List.cons_append, List.cons.injEq] at h
        exact .inr ⟨pre, post, by simpa using h.2⟩

end CodeChunks.Text
