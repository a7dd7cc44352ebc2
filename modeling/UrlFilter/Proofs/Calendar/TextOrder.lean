import UrlFilter.Proofs.Calendar.IsoText

namespace UrlFilter

open UrlFilter.Text UrlFilter.Calendar

/-!
# The order of written dates

Texts are ordered by their characters.  Numbers that are written with equally many digits are in the
order of their texts, and so are dates.

* `Text.compare_toList` — texts are ordered as lists of characters.
* `Text.compare_append` — two texts in parts.
* `Text.compare_ofDigitChars` — digits of equal number compare as what they denote.
* `Calendar.Date.compare_text` — the order of written dates is that of the calendar.
-/

namespace Text

/-! ### Characters and lists -/

theorem compare_char (c d : Char) : compare c d = compare c.toNat d.toNat := by
  have hlt : c < d ↔ c.toNat < d.toNat := Iff.rfl
  have heq : c = d ↔ c.toNat = d.toNat := Char.toNat_inj.symm
  show compareOfLessAndEq c d = compareOfLessAndEq c.toNat d.toNat
  simp only [compareOfLessAndEq, hlt, heq]

/-- Lists of characters are ordered by the first characters that differ.  A list in front of a
longer one is the smaller of the two. -/
theorem compareOfLessAndEq_chars (xs ys : List Char) :
    compareOfLessAndEq xs ys = compare xs ys := by
  induction xs generalizing ys with
  | nil => cases ys <;> rfl
  | cons x xs ih =>
    cases ys with
    | nil => rfl
    | cons y ys =>
      have hlt : x :: xs < y :: ys ↔ x < y ∨ x = y ∧ xs < ys := List.cons_lt_cons_iff
      rw [List.compare_cons_cons, ← ih]
      -- The first characters decide, unless they are the same.
      rcases Nat.lt_trichotomy x.toNat y.toNat with h | h | h
      · have hxy : x < y := h
        rw [compare_char, Nat.compare_eq_lt.2 h, compareOfLessAndEq, if_pos (hlt.2 (.inl hxy))]
        rfl
      · obtain rfl := Char.toNat_inj.1 h
        rw [compare_char, Nat.compare_eq_eq.2 rfl]
        simp [compareOfLessAndEq, hlt]
      · have hxy : ¬ (x < y ∨ x = y ∧ xs < ys) := by
          rintro (hxy | ⟨rfl, -⟩)
          · exact Nat.lt_asymm h hxy
          · exact Nat.lt_irrefl _ h
        have hne : x :: xs ≠ y :: ys := by
          rintro heq
          obtain ⟨rfl, -⟩ := List.cons.inj heq
          exact Nat.lt_irrefl _ h
        rw [compare_char, Nat.compare_eq_gt.2 h, compareOfLessAndEq, if_neg (mt hlt.1 hxy),
          if_neg hne]
        rfl

/-- **Texts are ordered as lists of characters.**  So the order does not depend on how a text is
stored. -/
theorem compare_toList (s t : String) : compare s t = compare s.toList t.toList := by
  rw [← compareOfLessAndEq_chars]
  have hlt : s < t ↔ s.toList < t.toList := Iff.rfl
  show compareOfLessAndEq s t = _
  simp only [compareOfLessAndEq, hlt, String.toList_inj]

/-- Texts in parts are ordered by their first parts, if these are equally long, and then by their
second ones.  Parts of different lengths would be compared across their ends. -/
theorem compare_append {xs ys : List Char} (h : xs.length = ys.length) (zs ws : List Char) :
    compare (xs ++ zs) (ys ++ ws) = (compare xs ys).then (compare zs ws) := by
  -- The first parts are compared character by character.
  induction xs generalizing ys with
  | nil =>
    obtain rfl := List.length_eq_zero_iff.1 h.symm
    rfl
  | cons x xs ih =>
    obtain ⟨y, ys, rfl⟩ := List.exists_cons_of_length_eq_add_one h.symm
    rw [List.cons_append, List.cons_append, List.compare_cons_cons, List.compare_cons_cons,
      ih (Nat.succ.inj h), Ordering.then_assoc]

/-! ### Digits -/

/-- One more digit decides only between equal numbers.  It stands behind the others, so it counts
least. -/
theorem compare_shifted {a b : Nat} (ha : a < 10) (hb : b < 10) (m n : Nat) :
    compare (10 * m + a) (10 * n + b) = (compare m n).then (compare a b) := by
  rcases Nat.lt_trichotomy m n with h | rfl | h
  · rw [Nat.compare_eq_lt.2 h, Nat.compare_eq_lt.2 (by omega)]
    rfl
  · rw [Nat.compare_eq_eq.2 rfl, Ordering.eq_then, Nat.compare_eq_ite_lt, Nat.compare_eq_ite_lt]
    simp only [Nat.add_lt_add_iff_left]
  · rw [Nat.compare_eq_gt.2 h, Nat.compare_eq_gt.2 (by omega)]
    rfl

/-- Digits are ordered by what they denote.  Their code points follow each other. -/
theorem compare_digit {c d : Char} (hc : c.isDigit = true) (hd : d.isDigit = true) :
    compare (c.toNat - '0'.toNat) (d.toNat - '0'.toNat) = compare c d := by
  obtain ⟨hc, -⟩ := toNat_of_isDigit hc
  obtain ⟨hd, -⟩ := toNat_of_isDigit hd
  have hzero : '0'.toNat = 0x30 := rfl
  rw [compare_char, Nat.compare_eq_ite_lt, Nat.compare_eq_ite_lt, hzero]
  have hlt : c.toNat - 0x30 < d.toNat - 0x30 ↔ c.toNat < d.toNat := by omega
  have hgt : d.toNat - 0x30 < c.toNat - 0x30 ↔ d.toNat < c.toNat := by omega
  simp only [hlt, hgt]

/-- **Digits of equal number compare as what they denote.**  Zeros in front count as digits here. -/
theorem compare_ofDigitChars {xs ys : List Char} (h : xs.length = ys.length)
    (hx : ∀ c ∈ xs, c.isDigit = true) (hy : ∀ c ∈ ys, c.isDigit = true) (m n : Nat) :
    compare (Nat.ofDigitChars 10 xs m) (Nat.ofDigitChars 10 ys n)
      = (compare m n).then (compare xs ys) := by
  -- The numbers `m` and `n` are what the digits in front denote.
  induction xs generalizing ys m n with
  | nil =>
    obtain rfl := List.length_eq_zero_iff.1 h.symm
    exact Ordering.then_eq.symm
  | cons x xs ih =>
    obtain ⟨y, ys, rfl⟩ := List.exists_cons_of_length_eq_add_one h.symm
    rw [List.forall_mem_cons] at hx hy
    have hlt : ∀ c : Char, c.isDigit = true → c.toNat - '0'.toNat < 10 := by
      intro c hc
      obtain ⟨-, hc⟩ := toNat_of_isDigit hc
      have hzero : '0'.toNat = 0x30 := rfl
      omega
    rw [Nat.ofDigitChars_cons, Nat.ofDigitChars_cons, ih (Nat.succ.inj h) hx.2 hy.2,
      compare_shifted (hlt x hx.1) (hlt y hy.1), compare_digit hx.1 hy.1, Ordering.then_assoc,
      List.compare_cons_cons]

section Padded

variable {width m n : Nat} (hwidth : 0 < width) (hm : m < 10 ^ width) (hn : n < 10 ^ width)

include hwidth hm hn

theorem length_padded_eq : (padded width m).length = (padded width n).length := by
  rw [length_padded hwidth hm, length_padded hwidth hn]

/-- Numbers that are padded to one width are in the order of their texts.  Without padding, a longer
number could stand in front of a shorter one. -/
theorem compare_padded : compare (padded width m) (padded width n) = compare m n := by
  have h := compare_ofDigitChars (length_padded_eq hwidth hm hn)
    (fun c hc => isDigit_of_mem_padded hc) (fun c hc => isDigit_of_mem_padded hc) 0 0
  rw [ofDigitChars_padded, ofDigitChars_padded] at h
  exact h.symm

end Padded

end Text

namespace Calendar.Date

/-- **The order of written dates is that of the calendar.**  The year comes first in both, then the
month and the day. -/
theorem compare_text (d e : Date) :
    Ord.compare (String.ofList d.text) (String.ofList e.text) = d.compare e := by
  obtain ⟨hyear, hmonth, hday⟩ := d.lt_of_mem
  obtain ⟨hyear', hmonth', hday'⟩ := e.lt_of_mem
  have hparts : ∀ f : Date, f.text
      = padded 4 f.year ++ (['-'] ++ (padded 2 f.month ++ (['-'] ++ padded 2 f.day))) := by
    intro f
    simp [text]
  -- The hyphens stand in the same places, so they never decide.
  have hdash : Ord.compare ['-'] ['-'] = .eq := rfl
  rw [compare_toList, String.toList_ofList, String.toList_ofList, hparts d, hparts e,
    compare_append (length_padded_eq (by decide) hyear hyear'), compare_append rfl,
    compare_append (length_padded_eq (by decide) hmonth hmonth'), compare_append rfl,
    compare_padded (by decide) hyear hyear', compare_padded (by decide) hmonth hmonth',
    compare_padded (by decide) hday hday', hdash, Ordering.eq_then, Ordering.eq_then, Date.compare,
    Ordering.then_assoc]

end Calendar.Date

end UrlFilter
