import CodeChunks.Text.Blank
import CodeChunks.Text.Lines

/-!
# Boundaries of characters

Only pieces between two offsets that are each an `IsBoundary` have a text. Pieces that share a
boundary are joined by appending their texts, so a piece that is not blank stays so when it is
widened to boundaries.
-/

namespace CodeChunks.Text

/-- A character starts at the offset, or the text ends there. -/
def IsBoundary (cs : List Char) (n : Nat) : Prop := (dropBytes n cs).isSome = true

instance (cs : List Char) (n : Nat) : Decidable (IsBoundary cs n) :=
  inferInstanceAs (Decidable (_ = true))

theorem isBoundary_iff {cs : List Char} {n : Nat} :
    IsBoundary cs n ↔ ∃ pre post, cs = pre ++ post ∧ byteLength pre = n := by
  unfold IsBoundary
  constructor
  · intro h
    obtain ⟨rest, hr⟩ := Option.isSome_iff_exists.1 h
    obtain ⟨pre, hpre⟩ := dropBytes_eq_some hr
    exact ⟨pre, rest, hpre⟩
  · rintro ⟨pre, post, rfl, rfl⟩
    rw [dropBytes_byteLength]
    rfl

theorem IsBoundary.zero (cs : List Char) : IsBoundary cs 0 := isBoundary_iff.2 ⟨[], cs, rfl, rfl⟩

theorem eq_nil_of_byteLength_eq_zero {cs : List Char} (h : byteLength cs = 0) : cs = [] := by
  cases cs with
  | nil => rfl
  | cons c cs =>
    have := c.utf8Size_pos
    rw [byteLength_cons] at h
    omega

theorem append_inj_of_byteLength {a b c d : List Char} (h : a ++ b = c ++ d)
    (hl : byteLength a = byteLength c) : a = c ∧ b = d := by
  rcases List.append_eq_append_iff.1 h with ⟨extra, rfl, hb⟩ | ⟨extra, rfl, hd⟩
  · have hextra : extra = [] := eq_nil_of_byteLength_eq_zero (by simp at hl; omega)
    simp_all
  · have hextra : extra = [] := eq_nil_of_byteLength_eq_zero (by simp at hl; omega)
    simp_all

theorem IsBoundary.cut {cs : List Char} {start stop : Nat} (hs : IsBoundary cs start)
    (he : IsBoundary cs stop) (h : start ≤ stop) :
    ∃ pre mid post, cs = pre ++ mid ++ post ∧ byteLength pre = start ∧
      byteLength pre + byteLength mid = stop := by
  obtain ⟨pre, rest, rfl, rfl⟩ := isBoundary_iff.1 hs
  obtain ⟨pre', post, heq, rfl⟩ := isBoundary_iff.1 he
  rcases List.append_eq_append_iff.1 heq with ⟨mid, rfl, rfl⟩ | ⟨extra, rfl, rfl⟩
  · exact ⟨pre, mid, post, by simp, rfl, by simp⟩
  · have hextra : extra = [] := eq_nil_of_byteLength_eq_zero (by simp at h; omega)
    subst hextra
    exact ⟨pre', [], rest, by simp, by simp, by simp⟩

theorem slice_eq_of_cut (pre mid post : List Char) :
    slice (pre ++ mid ++ post) (byteLength pre) (byteLength pre + byteLength mid) = mid := by
  rw [slice, slice?_eq_some_iff.2 ⟨pre, post, rfl, rfl, rfl⟩, Option.getD_some]

theorem byteLength_slice {cs : List Char} {start stop : Nat} (hs : IsBoundary cs start)
    (he : IsBoundary cs stop) (h : start ≤ stop) :
    byteLength (slice cs start stop) = stop - start := by
  obtain ⟨pre, mid, post, rfl, rfl, rfl⟩ := hs.cut he h
  rw [slice_eq_of_cut]
  omega

theorem byteLength_slice_le (cs : List Char) (start stop : Nat) :
    byteLength (slice cs start stop) ≤ stop - start := by
  unfold slice
  cases h : slice? cs start stop with
  | none => simp
  | some mid =>
    obtain ⟨pre, post, -, hp, hm⟩ := slice?_eq_some_iff.1 h
    simp only [Option.getD_some]
    omega

/-- Neighbouring pieces make up the piece from the start of one to the end of the other. -/
theorem slice_append {cs : List Char} {a b c : Nat} (ha : IsBoundary cs a) (hb : IsBoundary cs b)
    (hc : IsBoundary cs c) (hab : a ≤ b) (hbc : b ≤ c) :
    slice cs a b ++ slice cs b c = slice cs a c := by
  obtain ⟨pre, mid, rest, rfl, rfl, rfl⟩ := ha.cut hb hab
  obtain ⟨pre', mid', post, heq, hpre, rfl⟩ := hb.cut hc hbc
  rw [List.append_assoc pre' mid' post] at heq
  obtain ⟨rfl, rfl⟩ := append_inj_of_byteLength heq (by rw [hpre, byteLength_append])
  have h1 := slice_eq_of_cut pre mid (mid' ++ post)
  have h2 := slice_eq_of_cut (pre ++ mid) mid' post
  have h3 := slice_eq_of_cut pre (mid ++ mid') post
  simp only [List.append_assoc, byteLength_append, Nat.add_assoc] at h1 h2 h3 ⊢
  rw [h1, h2, h3]

/-- A piece with more than blanks stands between boundaries in order. -/
theorem isBoundary_of_slice {cs : List Char} {start stop : Nat}
    (h : isBlankText (slice cs start stop) = false) :
    IsBoundary cs start ∧ IsBoundary cs stop ∧ start ≤ stop := by
  unfold slice at h
  cases hs : slice? cs start stop with
  | none => simp [hs] at h
  | some mid =>
    obtain ⟨pre, post, rfl, rfl, rfl⟩ := slice?_eq_some_iff.1 hs
    refine ⟨isBoundary_iff.2 ⟨pre, mid ++ post, by simp, rfl⟩,
      isBoundary_iff.2 ⟨pre ++ mid, post, rfl, by simp⟩, by omega⟩

theorem slice?_eq_some_slice {cs : List Char} {start stop : Nat}
    (h : isBlankText (slice cs start stop) = false) :
    slice? cs start stop = some (slice cs start stop) := by
  unfold slice at h ⊢
  cases hs : slice? cs start stop with
  | none => simp [hs] at h
  | some mid => rfl

theorem isBlankText_slice_widen {cs : List Char} {a b start stop : Nat}
    (h : isBlankText (slice cs a b) = false) (hs : IsBoundary cs start) (he : IsBoundary cs stop)
    (ha : start ≤ a) (hb : b ≤ stop) : isBlankText (slice cs start stop) = false := by
  obtain ⟨hba, hbb, hab⟩ := isBoundary_of_slice h
  rw [← slice_append hs hba he ha (by omega), ← slice_append hba hbb he hab hb]
  simp [h]

end CodeChunks.Text
