import CodeChunks.Timestamp
import CodeChunks.Uuid
import Mathlib.Data.List.TakeDrop
import Mathlib.Data.List.TakeWhile

/-!
# Identifiers and points in time as text

An identifier is read back from its `grouped` digits, and so is a point in time from its numbers,
whatever the length of the year and however many digits of a second are written.
-/

namespace CodeChunks

/-! ## Rows of digits -/

namespace Decimal

theorem isDigit_of_isDigit {c : Char} (h : c.isDigit = true) : isDigit c = true := by
  simpa [isDigit, Char.isDigit, Char.le_def] using h

theorem not_isBlank_of_isDigit {c : Char} (h : isDigit c = true) : Text.isBlank c = false := by
  simp only [isDigit, Bool.and_eq_true, decide_eq_true_eq, Char.le_def, UInt32.le_iff_toNat_le] at h
  have hlow : 48 ≤ c.toNat := h.1
  have hhigh : c.toNat ≤ 57 := h.2
  simp only [Text.isBlank, Bool.or_eq_false_iff, Bool.and_eq_false_iff, decide_eq_false_iff_not,
    beq_eq_false_iff_ne]
  omega

theorem toList_padded (width n : Nat) : (padded width n).toList =
    List.replicate (width - (Nat.toDigits 10 n).length) '0' ++ Nat.toDigits 10 n := by
  have hlength : n.repr.length = (Nat.toDigits 10 n).length := by
    rw [← Nat.toList_repr, String.length_toList]
  simp [padded, hlength]

theorem isDigit_of_mem_padded {width n : Nat} {c : Char} (h : c ∈ (padded width n).toList) :
    isDigit c = true := by
  rw [toList_padded, List.mem_append] at h
  rcases h with h | h
  · rw [List.eq_of_mem_replicate h]
    decide
  · exact isDigit_of_isDigit (Nat.isDigit_of_mem_toDigits (by decide) (by decide) h)

theorem digitsValue_padded (width n : Nat) : digitsValue (padded width n).toList = n := by
  have hvalue : digitsValue (padded width n).toList =
      Nat.ofDigitChars 10 (padded width n).toList 0 := rfl
  rw [hvalue, toList_padded, Nat.ofDigitChars_append, Nat.ofDigitChars_replicate_zero, Nat.mul_zero,
    Nat.ofDigitChars_toDigits (by decide) (by decide)]

theorem length_padded {width n : Nat} (hwidth : 0 < width) (hn : n < Nat.pow 10 width) :
    (padded width n).toList.length = width := by
  have hlength := (Nat.length_toDigits_le_iff (by decide) hwidth).2 hn
  rw [toList_padded, List.length_append, List.length_replicate]
  omega

theorem padded_ne_nil (width n : Nat) : (padded width n).toList ≠ [] := by
  rw [toList_padded]
  exact List.append_ne_nil_of_right_ne_nil _ Nat.toDigits_ne_nil

theorem takeWhile_padded (width n : Nat) {rest : List Char}
    (hrest : ∀ c ∈ rest.head?, isDigit c = false) :
    ((padded width n).toList ++ rest).takeWhile isDigit = (padded width n).toList := by
  rw [List.takeWhile_append_of_pos fun c hc => isDigit_of_mem_padded hc]
  cases rest with
  | nil => simp
  | cons c rest => simp [hrest c rfl]

end Decimal

/-! ## Identifiers -/

namespace Uuid

theorem hexValue?_hexDigit (d : Fin 16) : Json.hexValue? (hexDigit d) = some d.val := by
  revert d
  decide

theorem hexDigit_ne_hyphen (d : Fin 16) : hexDigit d ≠ '-' := by
  revert d
  decide

theorem mapM_hexDigit (ds : List (Fin 16)) :
    (ds.map hexDigit).mapM Json.hexValue? = some (ds.map (·.val)) := by
  induction ds with
  | nil => rfl
  | cons d ds ih => simp [List.mapM_cons, hexValue?_hexDigit, ih]

theorem ofDigits?_map_hexDigit (u : Uuid) : ofDigits? (u.digits.toList.map hexDigit) = some u := by
  obtain ⟨⟨⟨ds⟩, hsize⟩⟩ := u
  have hback : (ds.map (·.val)).map (Fin.ofNat 16) = ds := by
    rw [List.map_map]
    exact List.map_id'' (fun d => Fin.ofNat_val_eq_self d) _
  show ofDigits? (ds.map hexDigit) = _
  simp only [ofDigits?, mapM_hexDigit, Option.bind_eq_bind, Option.bind_some, hback]
  exact dif_pos hsize

/-- Digits in hyphenated groups. -/
def grouped (ds : List Char) : List Char :=
  ds.take 8 ++ '-' :: (ds.drop 8).take 4 ++ '-' :: (ds.drop 12).take 4 ++
    '-' :: (ds.drop 16).take 4 ++ '-' :: (ds.drop 20).take 12

variable {ds : List Char}

theorem filter_grouped (hlength : ds.length = 32) (hhyphen : ∀ c ∈ ds, c ≠ '-') :
    (grouped ds).filter (· != '-') = ds := by
  have hgroup : ∀ i n, ((ds.drop i).take n).filter (· != '-') = (ds.drop i).take n := by
    intro i n
    refine List.filter_eq_self.2 fun c hc => ?_
    exact bne_iff_ne.2 (hhyphen c (List.mem_of_mem_drop (List.mem_of_mem_take hc)))
  have hfirst : (ds.take 8).filter (· != '-') = ds.take 8 := hgroup 0 8
  have hmark : ∀ cs : List Char, ('-' :: cs).filter (· != '-') = cs.filter (· != '-') :=
    fun cs => List.filter_cons_of_neg (by decide)
  simp only [grouped, List.filter_append, hmark, hgroup, hfirst]
  rw [← List.take_add, ← List.take_add, ← List.take_add, ← List.take_add]
  exact List.take_of_length_le (Nat.le_of_eq hlength)

theorem ofGroups?_grouped (hlength : ds.length = 32) (hhyphen : ∀ c ∈ ds, c ≠ '-') :
    ofGroups? (grouped ds) = ofDigits? ds := by
  have hmarks : ([8, 13, 18, 23].all fun i => (grouped ds)[i]? == some '-') = true := by
    simp [grouped, List.getElem?_append, hlength]
  have htotal : ((grouped ds).length == 36) = true := by simp [grouped, hlength]
  rw [ofGroups?, htotal, hmarks, filter_grouped hlength hhyphen]
  rfl

theorem ofText?_text (u : Uuid) : ofText? u.text = some u := by
  have hlength : (u.digits.toList.map hexDigit).length = 32 := by simp
  have hhyphen : ∀ c ∈ u.digits.toList.map hexDigit, c ≠ '-' := by
    intro c hc
    obtain ⟨d, -, rfl⟩ := List.mem_map.1 hc
    exact hexDigit_ne_hyphen d
  have htext : u.text.toList = grouped (u.digits.toList.map hexDigit) := String.toList_ofList
  have htotal : u.text.toList.length = 36 := by rw [htext]; simp [grouped]
  rw [ofText?]
  simp only [htotal]
  rw [htext]
  exact (ofGroups?_grouped hlength hhyphen).trans (ofDigits?_map_hexDigit u)

end Uuid

/-! ## Points in time -/

namespace Timestamp

open Decimal (padded isDigit)

theorem trimStart_padded (width n : Nat) (rest : List Char) :
    Text.trimStart ((padded width n).toList ++ rest) = (padded width n).toList ++ rest := by
  obtain ⟨c, cs, hcs⟩ := List.exists_cons_of_ne_nil (Decimal.padded_ne_nil width n)
  have hdigit : isDigit c = true := Decimal.isDigit_of_mem_padded (hcs ▸ List.mem_cons_self)
  have hblank : ¬ Text.isBlank c = true := by simp [Decimal.not_isBlank_of_isDigit hdigit]
  rw [hcs, List.cons_append, Text.trimStart, List.dropWhile_cons_of_neg hblank]

theorem readNumber_padded {width n : Nat} (hwidth : 0 < width) (hn : n < Nat.pow 10 width)
    (rest : List Char) :
    readNumber width ((padded width n).toList ++ rest) = some (n, rest) := by
  have hlength := Decimal.length_padded hwidth hn
  have hdigits : (((padded width n).toList ++ rest).take width).takeWhile isDigit =
      (padded width n).toList := by
    rw [List.take_left' hlength]
    exact List.takeWhile_eq_self_iff.2 fun c hc => Decimal.isDigit_of_mem_padded hc
  have hsome : ((padded width n).toList == []) = false :=
    beq_false_of_ne (Decimal.padded_ne_nil width n)
  unfold readNumber
  simp only [trimStart_padded, hdigits, hsome, Decimal.digitsValue_padded]
  rw [List.drop_left' rfl]
  rfl

theorem readMark_cons {c : Char} (h : Text.isBlank c = false) (rest : List Char) :
    readMark c (c :: rest) = some rest := by
  simp [readMark, Text.trimStart, h]

theorem isDigit_of_head?_padded {width n : Nat} {rest : List Char} {c : Char}
    (h : ((padded width n).toList ++ rest).head? = some c) : isDigit c = true := by
  obtain ⟨d, ds, hds⟩ := List.exists_cons_of_ne_nil (Decimal.padded_ne_nil width n)
  rw [hds, List.cons_append, List.head?_cons] at h
  obtain rfl := Option.some.inj h
  exact Decimal.isDigit_of_mem_padded (hds ▸ List.mem_cons_self)

theorem readYear_cons (n : Nat) {rest : List Char} (hrest : ∀ c ∈ rest.head?, isDigit c = false) :
    readYear ('-' :: ((padded 4 n).toList ++ rest)) = some (-(n : Int), rest) ∧
      readYear ('+' :: ((padded 4 n).toList ++ rest)) = some ((n : Int), rest) := by
  have hdigits := Decimal.takeWhile_padded 4 n hrest
  have hsome : ((padded 4 n).toList == []) = false := beq_false_of_ne (Decimal.padded_ne_nil 4 n)
  have hminus : Text.trimStart ('-' :: ((padded 4 n).toList ++ rest)) =
      '-' :: ((padded 4 n).toList ++ rest) := rfl
  have hplus : Text.trimStart ('+' :: ((padded 4 n).toList ++ rest)) =
      '+' :: ((padded 4 n).toList ++ rest) := rfl
  unfold readYear
  simp only [hminus, hplus, hdigits, hsome, Decimal.digitsValue_padded, List.drop_left' rfl]
  exact ⟨rfl, rfl⟩

theorem readYear_padded {n : Nat} (hn : n ≤ 9999) (rest : List Char) :
    readYear ((padded 4 n).toList ++ rest) = some ((n : Int), rest) := by
  have hnumber := readNumber_padded (show 0 < 4 by decide) (show n < Nat.pow 10 4 by
    have : Nat.pow 10 4 = 10000 := rfl
    omega) rest
  unfold readYear
  rw [trimStart_padded]
  dsimp only
  split
  · rename_i hcs
    have hdigit := isDigit_of_head?_padded (congrArg List.head? hcs)
    exact absurd hdigit (by decide)
  · rename_i hcs
    have hdigit := isDigit_of_head?_padded (congrArg List.head? hcs)
    exact absurd hdigit (by decide)
  · rw [hnumber]
    rfl

theorem readYear_yearText (y : Int) {rest : List Char}
    (hrest : ∀ c ∈ rest.head?, isDigit c = false) :
    readYear ((yearText y).toList ++ rest) = some (y, rest) := by
  have hsigned := readYear_cons y.natAbs hrest
  have hminus : "-".toList = ['-'] := rfl
  have hplus : "+".toList = ['+'] := rfl
  unfold yearText
  split
  · rename_i hy
    simp only [Bool.and_eq_true, decide_eq_true_eq] at hy
    rw [readYear_padded (by omega), Int.toNat_of_nonneg hy.1]
  · split
    · rename_i hneg
      have hy : -(y.natAbs : Int) = y := by omega
      rw [String.toList_append, hminus, List.append_assoc, List.singleton_append, hsigned.1, hy]
    · rename_i hneg
      have hy : (y.natAbs : Int) = y := by omega
      rw [String.toList_append, hplus, List.append_assoc, List.singleton_append, hsigned.2, hy]

/-- A fraction is read back from as many digits as it is a whole number of. -/
theorem readFraction_pointed {width nanos unit : Nat} (hwidth : 0 < width) (hnine : width ≤ 9)
    (hunit : Nat.pow 10 (9 - width) = unit) (hwhole : nanos % unit = 0)
    (hn : nanos / unit < Nat.pow 10 width) {rest : List Char}
    (hrest : ∀ c ∈ rest.head?, isDigit c = false) :
    readFraction (("." ++ padded width (nanos / unit)).toList ++ rest) = some (nanos, rest) := by
  have hmark : ".".toList = ['.'] := rfl
  have hdigits := Decimal.takeWhile_padded width (nanos / unit) hrest
  have hlength := Decimal.length_padded hwidth hn
  have hkept : (padded width (nanos / unit)).toList.take 9 = (padded width (nanos / unit)).toList :=
    List.take_of_length_le (by omega)
  have hsome : ((padded width (nanos / unit)).toList == []) = false :=
    beq_false_of_ne (Decimal.padded_ne_nil width _)
  rw [String.toList_append, hmark, List.append_assoc, List.singleton_append]
  simp only [readFraction, hdigits, hkept, hsome, Decimal.digitsValue_padded, hlength, hunit]
  rw [List.drop_left' hlength, Nat.div_mul_cancel (Nat.dvd_of_mod_eq_zero hwhole)]
  rfl

theorem readFraction_fractionText {nanos : Nat} (h : nanos ≤ 999999999) {rest : List Char}
    (hrest : ∀ c ∈ rest.head?, isDigit c = false) (hpoint : rest.head? ≠ some '.') :
    readFraction ((fractionText nanos).toList ++ rest) = some (nanos, rest) := by
  have hthree : Nat.pow 10 3 = 1000 := rfl
  have hsix : Nat.pow 10 6 = 1000000 := rfl
  have hnine : Nat.pow 10 9 = 1000000000 := rfl
  unfold fractionText
  simp only [beq_iff_eq]
  split
  · rename_i hzero
    subst hzero
    unfold readFraction
    split
    · rename_i hcs
      exact absurd (congrArg List.head? hcs) hpoint
    · rfl
  · split
    · rename_i hmillis
      have hunit : Nat.pow 10 (9 - 3) = 1000000 := rfl
      exact readFraction_pointed (by decide) (by decide) hunit hmillis (by omega) hrest
    · split
      · rename_i hmicros
        have hunit : Nat.pow 10 (9 - 6) = 1000 := rfl
        exact readFraction_pointed (by decide) (by decide) hunit hmicros (by omega) hrest
      · have hunit : Nat.pow 10 (9 - 9) = 1 := rfl
        have hall :=
          readFraction_pointed (by decide) (by decide) hunit (Nat.mod_one nanos) (by omega) hrest
        rwa [Nat.div_one] at hall

theorem toUniversal_zero {t : Timestamp} (hhour : t.hour ≤ 23) (hminute : t.minute ≤ 59) :
    t.toUniversal 0 = t := by
  have hday : ¬ (1440 : Int) ≤ 60 * t.hour + t.minute - 0 := by omega
  have hnonneg : ¬ 60 * (t.hour : Int) + t.minute - 0 < 0 := by omega
  have hsame : ((60 * (t.hour : Int) + t.minute - 0) % 1440).toNat = 60 * t.hour + t.minute := by
    omega
  have hhours : (60 * t.hour + t.minute) / 60 = t.hour := by omega
  have hminutes : (60 * t.hour + t.minute) % 60 = t.minute := by omega
  simp only [toUniversal, if_neg hday, if_neg hnonneg, hsame, hhours, hminutes]

theorem toList_text (t : Timestamp) : t.text.toList =
    (yearText t.date.year).toList ++ '-' :: ((padded 2 t.date.month).toList ++
      '-' :: ((padded 2 t.date.day).toList ++ 'T' :: ((padded 2 t.hour).toList ++
        ':' :: ((padded 2 t.minute).toList ++ ':' :: ((padded 2 t.second).toList ++
          ((fractionText t.nanos).toList ++ ['Z'])))))) := by
  simp [text]

theorem isValid_iff {t : Timestamp} : t.isValid = true ↔
    t.date.isValid = true ∧ t.hour ≤ 23 ∧ t.minute ≤ 59 ∧ t.second ≤ 60 ∧ t.nanos ≤ 999999999 := by
  simp [isValid, and_assoc]

theorem daysInMonth_le (year : Int) (month : Nat) : Date.daysInMonth year month ≤ 31 := by
  unfold Date.daysInMonth
  split
  · split <;> decide
  all_goals decide

/-- A point in time is read back from its text. -/
theorem ofText?_text {t : Timestamp} (h : t.isValid = true) : ofText? t.text = some t := by
  obtain ⟨hdate, hhour, hminute, hsecond, hnanos⟩ := isValid_iff.1 h
  have hdays := daysInMonth_le t.date.year t.date.month
  simp only [Date.isValid, Bool.and_eq_true, decide_eq_true_eq] at hdate
  have htwo : 0 < 2 := Nat.two_pos
  have hpow : Nat.pow 10 2 = 100 := rfl
  have hmonth : t.date.month < Nat.pow 10 2 := by omega
  have hday : t.date.day < Nat.pow 10 2 := by omega
  have hhour' : t.hour < Nat.pow 10 2 := by omega
  have hminute' : t.minute < Nat.pow 10 2 := by omega
  have hsecond' : t.second < Nat.pow 10 2 := by omega
  have hyear : ∀ rest, readYear ((yearText t.date.year).toList ++ '-' :: rest) =
      some (t.date.year, '-' :: rest) := fun rest =>
    readYear_yearText _ fun c hc => by cases hc; decide
  have hfraction : readFraction ((fractionText t.nanos).toList ++ ['Z']) = some (t.nanos, ['Z']) :=
    readFraction_fractionText hnanos (fun c hc => by cases hc; decide) (by decide)
  have hhyphen : Text.isBlank '-' = false := by decide
  have hcolon : Text.isBlank ':' = false := by decide
  have hzone : readZone (Text.trimStart ['Z']) = some (0, []) := rfl
  have hend : (Text.trimStart [] == ([] : List Char)) = true := rfl
  rw [ofText?, toList_text]
  -- each part is read off the front of what the parts before it have left
  refine Option.bind_eq_some_iff.2 ⟨_, hyear _, ?_⟩
  refine Option.bind_eq_some_iff.2 ⟨_, readMark_cons hhyphen _, ?_⟩
  refine Option.bind_eq_some_iff.2 ⟨_, readNumber_padded htwo hmonth _, ?_⟩
  refine Option.bind_eq_some_iff.2 ⟨_, readMark_cons hhyphen _, ?_⟩
  refine Option.bind_eq_some_iff.2 ⟨_, readNumber_padded htwo hday _, ?_⟩
  dsimp only
  rw [if_pos (by decide)]
  refine Option.bind_eq_some_iff.2 ⟨_, rfl, ?_⟩
  refine Option.bind_eq_some_iff.2 ⟨_, readNumber_padded htwo hhour' _, ?_⟩
  refine Option.bind_eq_some_iff.2 ⟨_, readMark_cons hcolon _, ?_⟩
  refine Option.bind_eq_some_iff.2 ⟨_, readNumber_padded htwo hminute' _, ?_⟩
  refine Option.bind_eq_some_iff.2 ⟨_, readMark_cons hcolon _, ?_⟩
  refine Option.bind_eq_some_iff.2 ⟨_, readNumber_padded htwo hsecond' _, ?_⟩
  refine Option.bind_eq_some_iff.2 ⟨_, hfraction, ?_⟩
  refine Option.bind_eq_some_iff.2 ⟨_, hzone, ?_⟩
  simp only [toUniversal_zero hhour hminute, hend, h, Bool.and_true, if_true]

end Timestamp

end CodeChunks
