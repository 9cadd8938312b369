/-!
# Blank characters and trimming

A character is blank when it has the White_Space property. Trimming drops the blanks at both
ends of a text; a text is blank when nothing is left.
-/

namespace CodeChunks.Text

/-- The White_Space property. -/
def isBlank (c : Char) : Bool :=
  let n := c.toNat
  (9 ≤ n && n ≤ 13) || n == 0x20 || n == 0x85 || n == 0xA0 || n == 0x1680 ||
    (0x2000 ≤ n && n ≤ 0x200A) || n == 0x2028 || n == 0x2029 || n == 0x202F || n == 0x205F ||
    n == 0x3000

def trimStart (cs : List Char) : List Char := cs.dropWhile isBlank

def trimEnd (cs : List Char) : List Char := (cs.reverse.dropWhile isBlank).reverse

def trim (cs : List Char) : List Char := trimEnd (trimStart cs)

def trimString (s : String) : String := String.ofList (trim s.toList)

/-- A text with nothing but blanks. -/
def isBlankText (cs : List Char) : Bool := cs.all isBlank

theorem isBlank_of_isWhitespace {c : Char} (h : c.isWhitespace = true) : isBlank c = true := by
  simp only [Char.isWhitespace, Bool.or_eq_true, decide_eq_true_eq] at h
  rcases h with ((h | h) | h) | h <;> subst h <;> decide

@[simp] theorem isBlankText_nil : isBlankText [] = true := rfl

@[simp] theorem isBlankText_cons (c : Char) (cs : List Char) :
    isBlankText (c :: cs) = (isBlank c && isBlankText cs) := rfl

@[simp] theorem isBlankText_append (xs ys : List Char) :
    isBlankText (xs ++ ys) = (isBlankText xs && isBlankText ys) := by
  simp [isBlankText]

@[simp] theorem isBlankText_reverse (xs : List Char) :
    isBlankText xs.reverse = isBlankText xs := by
  simp [isBlankText]

theorem trimStart_eq_nil_iff {cs : List Char} : trimStart cs = [] ↔ isBlankText cs = true := by
  induction cs with
  | nil => simp [trimStart]
  | cons c cs ih => by_cases h : isBlank c = true <;> simp_all [trimStart]

theorem isBlankText_trimStart (cs : List Char) :
    isBlankText (trimStart cs) = isBlankText cs := by
  induction cs with
  | nil => rfl
  | cons c cs ih => by_cases h : isBlank c = true <;> simp_all [trimStart]

/-- Trimming leaves nothing exactly when there was nothing but blanks. -/
theorem trim_eq_nil_iff {cs : List Char} : trim cs = [] ↔ isBlankText cs = true := by
  have h : trimStart (trimStart cs).reverse = [] ↔ isBlankText (trimStart cs).reverse = true :=
    trimStart_eq_nil_iff
  simp only [trimStart, isBlankText_reverse] at h
  rw [trim, trimEnd, List.reverse_eq_nil_iff, trimStart, h]
  rw [← isBlankText_trimStart cs, trimStart]

end CodeChunks.Text
