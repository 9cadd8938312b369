/-!
# Pieces of a text by byte offset

Offsets into a text count the bytes of its UTF-8 form. An offset is a boundary when a character
starts there or the text ends there; only pieces between two boundaries have a text (`slice?`).
-/

namespace CodeChunks.Text

/-- The number of bytes of a text. -/
def byteLength : List Char → Nat
  | [] => 0
  | c :: cs => c.utf8Size + byteLength cs

/-- The text from byte offset `n` on, if `n` is a boundary. -/
def dropBytes : Nat → List Char → Option (List Char)
  | 0, cs => some cs
  | _ + 1, [] => none
  | n + 1, c :: cs => if c.utf8Size ≤ n + 1 then dropBytes (n + 1 - c.utf8Size) cs else none

/-- The first `n` bytes of a text, if they end at a boundary. -/
def takeBytes : Nat → List Char → Option (List Char)
  | 0, _ => some []
  | _ + 1, [] => none
  | n + 1, c :: cs =>
    if c.utf8Size ≤ n + 1 then (takeBytes (n + 1 - c.utf8Size) cs).map (c :: ·) else none

/-- The text between two offsets, if both are boundaries in order. -/
def slice? (cs : List Char) (start stop : Nat) : Option (List Char) :=
  if start ≤ stop then (dropBytes start cs).bind (takeBytes (stop - start)) else none

/-- The text between two offsets, empty where there is none. -/
def slice (cs : List Char) (start stop : Nat) : List Char := (slice? cs start stop).getD []

@[simp] theorem byteLength_nil : byteLength [] = 0 := rfl

@[simp] theorem byteLength_cons (c : Char) (cs : List Char) :
    byteLength (c :: cs) = c.utf8Size + byteLength cs := rfl

@[simp] theorem byteLength_append (xs ys : List Char) :
    byteLength (xs ++ ys) = byteLength xs + byteLength ys := by
  induction xs with
  | nil => simp
  | cons c cs ih => simp [ih, Nat.add_assoc]

@[simp] theorem dropBytes_zero (cs : List Char) : dropBytes 0 cs = some cs := by
  cases cs <;> rfl

@[simp] theorem takeBytes_zero (cs : List Char) : takeBytes 0 cs = some [] := by
  cases cs <;> rfl

/-- A boundary splits the text. -/
theorem dropBytes_eq_some {n : Nat} {cs rest : List Char} (h : dropBytes n cs = some rest) :
    ∃ pre, cs = pre ++ rest ∧ byteLength pre = n := by
  induction cs generalizing n with
  | nil =>
    cases n with
    | zero => exact ⟨[], by simp_all⟩
    | succ n => simp [dropBytes] at h
  | cons c cs ih =>
    cases n with
    | zero => exact ⟨[], by simp_all⟩
    | succ n =>
      simp only [dropBytes] at h
      split at h
      · obtain ⟨pre, rfl, hp⟩ := ih h
        exact ⟨c :: pre, by simp, by simp [hp]; omega⟩
      · simp at h

theorem dropBytes_byteLength (pre rest : List Char) :
    dropBytes (byteLength pre) (pre ++ rest) = some rest := by
  induction pre with
  | nil => simp
  | cons c cs ih =>
    have hc : 0 < c.utf8Size := c.utf8Size_pos
    obtain ⟨n, hn⟩ : ∃ n, c.utf8Size + byteLength cs = n + 1 := ⟨_, (Nat.succ_pred (by omega)).symm⟩
    rw [byteLength_cons, hn, List.cons_append, dropBytes, if_pos (by omega)]
    rw [← hn, Nat.add_sub_cancel_left, ih]

/-- The bytes taken are a leading part of the text, of the size asked for. -/
theorem takeBytes_eq_some {n : Nat} {cs pre : List Char} (h : takeBytes n cs = some pre) :
    ∃ rest, cs = pre ++ rest ∧ byteLength pre = n := by
  induction cs generalizing n pre with
  | nil =>
    cases n with
    | zero => exact ⟨[], by simp_all⟩
    | succ n => simp [takeBytes] at h
  | cons c cs ih =>
    cases n with
    | zero => exact ⟨c :: cs, by simp_all⟩
    | succ n =>
      simp only [takeBytes] at h
      split at h
      · obtain ⟨p, hp, rfl⟩ := Option.map_eq_some_iff.1 h
        obtain ⟨rest, rfl, hl⟩ := ih hp
        exact ⟨rest, by simp, by simp [hl]; omega⟩
      · simp at h

theorem takeBytes_byteLength (pre rest : List Char) :
    takeBytes (byteLength pre) (pre ++ rest) = some pre := by
  induction pre with
  | nil => simp
  | cons c cs ih =>
    have hc : 0 < c.utf8Size := c.utf8Size_pos
    obtain ⟨n, hn⟩ : ∃ n, c.utf8Size + byteLength cs = n + 1 := ⟨_, (Nat.succ_pred (by omega)).symm⟩
    rw [byteLength_cons, hn, List.cons_append, takeBytes, if_pos (by omega)]
    rw [← hn, Nat.add_sub_cancel_left, ih]
    rfl

/-- A piece stands between what comes before its start and what comes after its end. -/
theorem slice?_eq_some_iff {cs mid : List Char} {start stop : Nat} :
    slice? cs start stop = some mid ↔
      ∃ pre post, cs = pre ++ mid ++ post ∧ byteLength pre = start ∧
        byteLength pre + byteLength mid = stop := by
  constructor
  · intro h
    simp only [slice?] at h
    split at h
    · obtain ⟨rest, hd, ht⟩ := Option.bind_eq_some_iff.1 h
      obtain ⟨pre, rfl, hp⟩ := dropBytes_eq_some hd
      obtain ⟨post, rfl, hm⟩ := takeBytes_eq_some ht
      exact ⟨pre, post, by simp, hp, by omega⟩
    · simp at h
  · rintro ⟨pre, post, rfl, rfl, rfl⟩
    simp [slice?, dropBytes_byteLength, takeBytes_byteLength]

end CodeChunks.Text
