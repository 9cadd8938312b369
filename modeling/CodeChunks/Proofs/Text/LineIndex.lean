import CodeChunks.Proofs.Text.Boundary

/-!
# The index of lines

Line starts are boundaries in increasing order. The line of a byte is looked up among them by
halving, which is `Lookup.Right`: it is the last one that starts at the byte or before, so lines
never run backwards. Counted from one, it is the number of `newlinesBefore` the byte.
`Source.lines_and_starts_agree` says that lines and their starts determine each other.
-/

namespace CodeChunks.Text

theorem lt_of_mem_laterLineStarts {cs : List Char} {offset x : Nat}
    (h : x ∈ laterLineStarts offset cs) : offset < x := by
  induction cs generalizing offset with
  | nil => cases h
  | cons c cs ih =>
    have hc := c.utf8Size_pos
    unfold laterLineStarts at h
    split at h
    · rcases List.mem_cons.1 h with rfl | h
      · omega
      · have := ih h
        omega
    · have := ih h
      omega

theorem length_laterLineStarts (cs : List Char) (offset : Nat) :
    (laterLineStarts offset cs).length = cs.count '\n' := by
  induction cs generalizing offset with
  | nil => rfl
  | cons c cs ih =>
    unfold laterLineStarts
    split
    · next hc => rw [hc, List.count_cons_self, List.length_cons, ih]
    · next hc => rw [List.count_cons_of_ne hc, ih]

theorem laterLineStarts_pairwise (cs : List Char) (offset : Nat) :
    (laterLineStarts offset cs).Pairwise (· < ·) := by
  induction cs generalizing offset with
  | nil => exact .nil
  | cons c cs ih =>
    unfold laterLineStarts
    split
    · exact .cons (fun x hx => lt_of_mem_laterLineStarts hx) (ih _)
    · exact ih _

theorem lineStarts_pairwise (cs : List Char) : (lineStarts cs).Pairwise (· < ·) :=
  .cons (fun _ hx => lt_of_mem_laterLineStarts hx) (laterLineStarts_pairwise cs 0)

/-- Every line starts right after some characters of the text. -/
theorem exists_cut_of_mem_laterLineStarts {cs : List Char} {offset x : Nat}
    (h : x ∈ laterLineStarts offset cs) :
    ∃ pre post, cs = pre ++ post ∧ offset + byteLength pre = x := by
  induction cs generalizing offset with
  | nil => cases h
  | cons c cs ih =>
    unfold laterLineStarts at h
    split at h
    · next hc =>
      have hsize : c.utf8Size = 1 := by subst hc; rfl
      rcases List.mem_cons.1 h with rfl | h
      · exact ⟨[c], cs, rfl, by simp [hsize]⟩
      · obtain ⟨pre, post, rfl, rfl⟩ := ih h
        exact ⟨c :: pre, post, rfl, by simp [hsize]; omega⟩
    · obtain ⟨pre, post, rfl, rfl⟩ := ih h
      exact ⟨c :: pre, post, rfl, by simp; omega⟩

theorem isBoundary_of_mem_lineStarts {cs : List Char} {x : Nat} (h : x ∈ lineStarts cs) :
    IsBoundary cs x := by
  rcases List.mem_cons.1 h with rfl | h
  · exact .zero cs
  · obtain ⟨pre, post, rfl, rfl⟩ := exists_cut_of_mem_laterLineStarts h
    exact isBoundary_iff.2 ⟨pre, post, rfl, by simp⟩

theorem lt_of_getElem?_of_lt {l : List Nat} (hl : l.Pairwise (· < ·)) {i j x y : Nat}
    (hx : l[i]? = some x) (hy : l[j]? = some y) (hij : i < j) : x < y := by
  obtain ⟨hi, rfl⟩ := List.getElem?_eq_some_iff.1 hx
  obtain ⟨hj, rfl⟩ := List.getElem?_eq_some_iff.1 hy
  exact List.pairwise_iff_getElem.1 hl i j hi hj hij

/-- In an increasing list the numbers up to `b` come first. -/
theorem lt_countP_iff {l : List Nat} (hl : l.Pairwise (· < ·)) {n x : Nat} (b : Nat)
    (hx : l[n]? = some x) : n < l.countP (· ≤ b) ↔ x ≤ b := by
  induction l generalizing n with
  | nil => cases hx
  | cons y l ih =>
    rw [List.pairwise_cons] at hl
    by_cases hy : y ≤ b
    · rw [List.countP_cons_of_pos (by simpa using hy)]
      cases n with
      | zero =>
        simp only [List.getElem?_cons_zero, Option.some.injEq] at hx
        omega
      | succ n =>
        rw [List.getElem?_cons_succ] at hx
        have := ih hl.2 hx
        omega
    · -- Nothing up to `b` can follow a greater number.
      have hzero : (y :: l).countP (· ≤ b) = 0 := by
        rw [List.countP_eq_zero]
        intro z hz
        rcases List.mem_cons.1 hz with rfl | hz
        · simpa using hy
        · have := hl.1 z hz
          simp only [decide_eq_true_eq]
          omega
      have hyx : y ≤ x := by
        rcases List.mem_cons.1 (List.mem_of_getElem? hx) with rfl | hz
        · exact Nat.le_refl _
        · exact Nat.le_of_lt (hl.1 x hz)
      omega

theorem countP_eq_of_lt_iff {l : List Nat} (hl : l.Pairwise (· < ·)) {n b : Nat}
    (hn : n ≤ l.length) (h : ∀ j x, l[j]? = some x → (j < n ↔ x ≤ b)) :
    l.countP (· ≤ b) = n := by
  have hle : l.countP (· ≤ b) ≤ l.length := List.countP_le_length
  rcases Nat.lt_trichotomy (l.countP (· ≤ b)) n with hlt | heq | hgt
  · have hx := List.getElem?_eq_getElem (show l.countP (· ≤ b) < l.length by omega)
    have := (lt_countP_iff hl b hx).2 ((h _ _ hx).1 hlt)
    omega
  · exact heq
  · have hx := List.getElem?_eq_getElem (show n < l.length by omega)
    have := (h _ _ hx).2 ((lt_countP_iff hl b hx).1 hgt)
    omega

/-! ## Looking up -/

/-- The number stands at the place that was found. If it is missing, the numbers before the place
are smaller and those from there on are larger. -/
def Lookup.Right (row : Array Nat) (x : Nat) : Lookup → Prop
  | .found i => row[i]? = some x
  | .missing i => i ≤ row.size ∧ ∀ j y, row[j]? = some y → (j < i ↔ y < x) ∧ (i ≤ j ↔ x < y)

/-- Halving keeps the number, if it is there, between the ends of what is left. -/
theorem right_bisect {row : Array Nat} {x lo hi : Nat} {hhi : hi ≤ row.size}
    (hrow : row.toList.Pairwise (· < ·)) (hle : lo ≤ hi)
    (hbelow : ∀ j y, row[j]? = some y → j < lo → y < x)
    (habove : ∀ j y, row[j]? = some y → hi ≤ j → x < y) :
    (bisect row x lo hi hhi).Right row x := by
  have hlt : ∀ {i j y z : Nat}, row[i]? = some y → row[j]? = some z → i < j → y < z := by
    intro i j y z hy hz hij
    rw [← Array.getElem?_toList] at hy hz
    exact lt_of_getElem?_of_lt hrow hy hz hij
  fun_induction bisect row x lo hi hhi with
  | case1 lo hi hhi h mid hmid heq => exact heq ▸ Array.getElem?_eq_getElem hmid
  | case2 lo hi hhi h mid hmid hne hless ih =>
    refine ih (by omega) (fun j y hy hj => ?_) habove
    rcases Nat.lt_or_eq_of_le (Nat.le_of_lt_succ hj) with hj | rfl
    · exact Nat.lt_trans (hlt hy (Array.getElem?_eq_getElem hmid) hj) hless
    · rw [Array.getElem?_eq_getElem hmid] at hy
      exact Option.some.inj hy ▸ hless
  | case3 lo hi hhi h mid hmid hne hless ih =>
    refine ih (by omega) hbelow fun j y hy hj => ?_
    rcases Nat.lt_or_eq_of_le hj with hj | rfl
    · have := hlt (Array.getElem?_eq_getElem hmid) hy hj
      omega
    · rw [Array.getElem?_eq_getElem hmid] at hy
      have := Option.some.inj hy
      omega
  | case4 lo hi hhi h =>
    obtain rfl : lo = hi := by omega
    refine ⟨hhi, fun j y hy => ?_⟩
    have := hbelow j y hy
    have := habove j y hy
    omega

theorem right_lookup {row : Array Nat} (hrow : row.toList.Pairwise (· < ·)) (x : Nat) :
    (lookup row x).Right row x := by
  refine right_bisect hrow (Nat.zero_le _) (fun j y _ hj => absurd hj (Nat.not_lt_zero j)) ?_
  intro j y hy hj
  rw [Array.getElem?_eq_none hj] at hy
  cases hy

/-! ## Line breaks in bytes -/

theorem not_mem_utf8EncodeChar {c : Char} (h : c ≠ '\n') :
    (10 : UInt8) ∉ String.utf8EncodeChar c := by
  have hval : c.val.toNat ≠ 10 := fun e => h (Char.ext (UInt32.toNat_inj.1 e))
  have hbyte : ∀ n : Nat, n < 256 → n ≠ 10 → (10 : UInt8) ≠ UInt8.ofNat n := by
    intro n hn hne he
    have hnat := congrArg UInt8.toNat he
    rw [UInt8.toNat_ofNat_of_lt' hn] at hnat
    exact hne hnat.symm
  unfold String.utf8EncodeChar
  dsimp only
  -- In a character of several bytes each of them is at least 128.
  split
  · rw [List.mem_singleton]
    exact hbyte _ (by omega) hval
  · split
    · simp only [List.mem_cons, List.not_mem_nil, or_false, not_or]
      exact ⟨hbyte _ (by omega) (by omega), hbyte _ (by omega) (by omega)⟩
    · split
      · simp only [List.mem_cons, List.not_mem_nil, or_false, not_or]
        exact ⟨hbyte _ (by omega) (by omega), hbyte _ (by omega) (by omega),
          hbyte _ (by omega) (by omega)⟩
      · simp only [List.mem_cons, List.not_mem_nil, or_false, not_or]
        exact ⟨hbyte _ (by omega) (by omega), hbyte _ (by omega) (by omega),
          hbyte _ (by omega) (by omega), hbyte _ (by omega) (by omega)⟩

/-- The lines that start up to a byte, after the first, are as many as the line breaks before it. -/
theorem countP_laterLineStarts (cs : List Char) (offset b : Nat) :
    (laterLineStarts offset cs).countP (· ≤ b) =
      ((cs.flatMap String.utf8EncodeChar).take (b - offset)).count 10 := by
  induction cs generalizing offset with
  | nil => simp [laterLineStarts]
  | cons c cs ih =>
    rw [List.flatMap_cons]
    unfold laterLineStarts
    split
    · next hc =>
      have hbytes : String.utf8EncodeChar c = [10] := by subst hc; rfl
      rw [hbytes, List.singleton_append, List.countP_cons, ih]
      cases hk : b - offset with
      | zero => simp [show b - (offset + 1) = 0 by omega, show ¬ offset + 1 ≤ b by omega]
      | succ k =>
        simp [show b - (offset + 1) = k by omega, show offset + 1 ≤ b by omega]
    · next hc =>
      have hnone : (List.take (b - offset) (String.utf8EncodeChar c)).count 10 = 0 :=
        List.count_eq_zero.2 fun hmem => not_mem_utf8EncodeChar hc (List.mem_of_mem_take hmem)
      rw [ih, List.take_append, List.count_append, hnone, String.length_utf8EncodeChar,
        Nat.zero_add, Nat.sub_sub]

end CodeChunks.Text

namespace CodeChunks.Source

open Text

/-- A character starts at the offset, or the text ends there. -/
def IsBoundary (s : Source) (n : Nat) : Prop := Text.IsBoundary s.chars n

instance (s : Source) (n : Nat) : Decidable (s.IsBoundary n) :=
  inferInstanceAs (Decidable (Text.IsBoundary _ _))

theorem lineStart?_succ (s : Source) (n : Nat) :
    s.lineStart? (n + 1) = (lineStarts s.chars)[n]? := by
  rw [lineStart?, s.starts_eq, List.getElem?_toArray]

theorem lineOf_eq_countP (s : Source) (b : Nat) :
    s.lineOf b = (lineStarts s.chars).countP (· ≤ b) := by
  have hpair := lineStarts_pairwise s.chars
  have hrow : s.starts.toList.Pairwise (· < ·) := by rwa [s.starts_eq]
  have hright := right_lookup hrow b
  unfold lineOf
  rw [s.starts_eq] at hright ⊢
  cases hlook : lookup (lineStarts s.chars).toArray b with
  | found i =>
    -- The line that starts at the byte is the last one that counts.
    rw [hlook, Lookup.Right, List.getElem?_toArray] at hright
    refine (countP_eq_of_lt_iff hpair (List.getElem?_eq_some_iff.1 hright).1 ?_).symm
    intro j x hx
    rcases Nat.lt_trichotomy j i with hj | rfl | hj
    · have := lt_of_getElem?_of_lt hpair hx hright hj
      omega
    · rw [hright] at hx
      have := Option.some.inj hx
      omega
    · have := lt_of_getElem?_of_lt hpair hright hx hj
      omega
  | missing i =>
    rw [hlook, Lookup.Right, List.size_toArray] at hright
    refine (countP_eq_of_lt_iff hpair hright.1 fun j x hx => ?_).symm
    have := hright.2 j x (by rwa [List.getElem?_toArray])
    omega

theorem lineOf_mono (s : Source) {a b : Nat} (h : a ≤ b) : s.lineOf a ≤ s.lineOf b := by
  simp only [lineOf_eq_countP]
  apply List.countP_mono_left
  intro x _ hx
  simp only [decide_eq_true_eq] at hx ⊢
  omega

theorem one_le_lineOf (s : Source) (b : Nat) : 1 ≤ s.lineOf b := by
  rw [lineOf_eq_countP, lineStarts, List.countP_cons_of_pos (by simp)]
  omega

theorem isBoundary_of_lineStart? {s : Source} {n x : Nat} (h : s.lineStart? n = some x) :
    s.IsBoundary x := by
  cases n with
  | zero => cases h
  | succ n =>
    rw [lineStart?_succ] at h
    exact isBoundary_of_mem_lineStarts (List.mem_of_getElem? h)

/-- A line up to that of a byte starts at the byte or before, and no other line does. -/
theorem le_lineOf_iff {s : Source} {n x : Nat} (b : Nat) (h : s.lineStart? n = some x) :
    n ≤ s.lineOf b ↔ x ≤ b := by
  cases n with
  | zero => cases h
  | succ n =>
    rw [lineStart?_succ] at h
    rw [lineOf_eq_countP]
    exact lt_countP_iff (lineStarts_pairwise _) b h

theorem lineStart?_lt {s : Source} {m n x y : Nat} (hx : s.lineStart? m = some x)
    (hy : s.lineStart? n = some y) (h : m < n) : x < y := by
  cases m with
  | zero => cases hx
  | succ m =>
    cases n with
    | zero => cases hy
    | succ n =>
      rw [lineStart?_succ] at hx hy
      exact lt_of_getElem?_of_lt (lineStarts_pairwise _) hx hy (Nat.lt_of_succ_lt_succ h)

theorem exists_lineStart?_iff {s : Source} {n : Nat} :
    (∃ x, s.lineStart? n = some x) ↔ 1 ≤ n ∧ n ≤ s.chars.count '\n' + 1 := by
  cases n with
  | zero => simp [lineStart?]
  | succ n =>
    rw [← Option.isSome_iff_exists, lineStart?_succ, isSome_getElem?, lineStarts,
      List.length_cons, length_laterLineStarts]
    omega

theorem lineOf_le (s : Source) (b : Nat) : s.lineOf b ≤ s.starts.size := by
  rw [lineOf_eq_countP, s.starts_eq, List.size_toArray]
  exact List.countP_le_length

theorem exists_lineStart?_lineOf (s : Source) (b : Nat) :
    ∃ x, s.lineStart? (s.lineOf b) = some x := by
  have hle := s.lineOf_le b
  rw [s.starts_eq, List.size_toArray, lineStarts, List.length_cons,
    length_laterLineStarts] at hle
  exact exists_lineStart?_iff.2 ⟨s.one_le_lineOf b, hle⟩

theorem lineOf_of_lineStart? {s : Source} {n x : Nat} (h : s.lineStart? n = some x) :
    s.lineOf x = n := by
  have hge : n ≤ s.lineOf x := (le_lineOf_iff x h).2 (Nat.le_refl x)
  obtain ⟨y, hy⟩ := s.exists_lineStart?_lineOf x
  have hyx : y ≤ x := (le_lineOf_iff x hy).1 (Nat.le_refl _)
  rcases Nat.lt_or_eq_of_le hge with hlt | heq
  · have := lineStart?_lt h hy hlt
    omega
  · exact heq.symm

/-- The byte before a line is on the line before. -/
theorem lineOf_pred {s : Source} {n x : Nat} (h : s.lineStart? (n + 2) = some x) :
    0 < x ∧ s.lineOf (x - 1) = n + 1 := by
  have hlines := exists_lineStart?_iff.1 ⟨x, h⟩
  obtain ⟨y, hy⟩ : ∃ y, s.lineStart? (n + 1) = some y := exists_lineStart?_iff.2 (by omega)
  have hyx : y < x := lineStart?_lt hy h (by omega)
  have hlower := le_lineOf_iff (x - 1) hy
  have hupper : n + 2 ≤ s.lineOf (x - 1) ↔ x ≤ x - 1 := le_lineOf_iff (x - 1) h
  omega

def newlinesBefore (s : Source) (b : Nat) : Nat :=
  ((s.chars.flatMap String.utf8EncodeChar).take b).count 10

theorem lineOf_eq_newlinesBefore (s : Source) (b : Nat) :
    s.lineOf b = 1 + s.newlinesBefore b := by
  rw [lineOf_eq_countP, lineStarts, List.countP_cons_of_pos (by simp), countP_laterLineStarts,
    Nat.add_comm]
  rfl

theorem IsBoundary.le_size {s : Source} {n : Nat} (h : s.IsBoundary n) : n ≤ s.size := by
  obtain ⟨pre, post, hcut, rfl⟩ := isBoundary_iff.1 h
  rw [s.size_eq, hcut, byteLength_append]
  omega

/-- The line of a byte is one more than the line breaks before the byte, it starts at the byte or
before, and the next line, if there is one, starts after the byte. Every line starts on itself, at a
boundary. There is a line for every number from one to one more than the line breaks, and lines
never run backwards. -/
theorem lines_and_starts_agree (s : Source) :
    (∀ b, s.lineOf b = 1 + s.newlinesBefore b ∧
      (∃ x, s.lineStart? (s.lineOf b) = some x ∧ x ≤ b) ∧
      ∀ x, s.lineStart? (s.lineOf b + 1) = some x → b < x) ∧
    (∀ n x, s.lineStart? n = some x → s.lineOf x = n ∧ x ≤ s.size ∧ s.IsBoundary x) ∧
    (∀ n, (∃ x, s.lineStart? n = some x) ↔ 1 ≤ n ∧ n ≤ s.chars.count '\n' + 1) ∧
    ∀ a b, a ≤ b → s.lineOf a ≤ s.lineOf b := by
  refine ⟨fun b => ⟨s.lineOf_eq_newlinesBefore b, ?_, fun x hx => ?_⟩, fun n x hx => ?_,
    fun _ => exists_lineStart?_iff, fun _ _ => s.lineOf_mono⟩
  · obtain ⟨x, hx⟩ := s.exists_lineStart?_lineOf b
    exact ⟨x, hx, (le_lineOf_iff b hx).1 (Nat.le_refl _)⟩
  · have := le_lineOf_iff b hx
    omega
  · have hbound := isBoundary_of_lineStart? hx
    exact ⟨lineOf_of_lineStart? hx, hbound.le_size, hbound⟩

/-- In a text with a letter of two bytes, an empty line and a line break at the end, the third line
starts at byte four, which is on the third line, and byte five is not on an earlier one. -/
theorem lines_of_accented_text :
    (Source.ofString "é\n\nb\n").lineStart? 3 = some 4 ∧
    (Source.ofString "é\n\nb\n").lineOf 4 = 3 ∧
    (Source.ofString "é\n\nb\n").IsBoundary 4 ∧
    (∃ x, (Source.ofString "é\n\nb\n").lineStart? 4 = some x) ∧
    (Source.ofString "é\n\nb\n").lineOf 4 ≤ (Source.ofString "é\n\nb\n").lineOf 5 := by
  obtain ⟨-, hstart, hcount, hmono⟩ := lines_and_starts_agree (Source.ofString "é\n\nb\n")
  have hthird : (Source.ofString "é\n\nb\n").lineStart? 3 = some 4 := by decide +kernel
  obtain ⟨hline, -, hbound⟩ := hstart 3 4 hthird
  exact ⟨hthird, hline, hbound, (hcount 4).2 (by decide +kernel), hmono 4 5 (by omega)⟩

end CodeChunks.Source
