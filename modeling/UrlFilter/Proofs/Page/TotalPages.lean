import UrlFilter.Proofs.Page.Jump

namespace UrlFilter.Page

open UrlFilter.Number

/-!
# The number of pages

The number of pages is computed by a division in floating point, while the number of a page and the
question whether there is a next one are answered by exact ones.  So they agree as long as the
quotient keeps its ceiling when it is rounded.

* `Page.totalPages_eq` — the number of pages that is computed.
* `Page.number_lastRow`, `Page.hasNext_eq_false_iff` — the exact number in the other answers.
* `Page.totalPages_exact_iff` — when the number that is computed is exact.
-/

variable {p : Page} {n : Int} (hlimit : 0 < p.limit)

include hlimit

/-- No sign is lost with the one of the quotient.  The computation has the sign apart from the two
magnitudes. -/
theorem ratio_natAbs (hn : 0 ≤ n) : (n : ℚ) / p.limit = n.natAbs / p.limit.natAbs := by
  rw [Nat.cast_natAbs, Nat.cast_natAbs, abs_of_nonneg hn, abs_of_pos hlimit]

/-- **The number of pages that is computed** is the ceiling of the rounded quotient, and there is
none if the quotient is too large.  No number is given there, not even a wrong one. -/
theorem totalPages_eq (htotal : p.total = some n) (hn : 0 ≤ n) :
    p.totalPages = if Binary.overflow ≤ (n : ℚ) / p.limit then .error .tooLarge
      else .ok (some ⌈(Binary.mantissa n.natAbs p.limit.natAbs : ℚ)
        * Binary.spacing (n / p.limit)⌉) := by
  -- A total below zero is excluded, so the quotient has no sign.
  have hsign : decide (n < 0) = false := by simpa using hn
  rw [totalPages, htotal]
  dsimp only
  rw [hsign, Binary.ceil?_ofRatio n.natAbs (Int.natAbs_pos.2 hlimit.ne'),
    ← ratio_natAbs hlimit hn]
  by_cases hlarge : Binary.overflow ≤ (n : ℚ) / p.limit
  · rw [if_pos hlarge, if_pos hlarge]
  · rw [if_neg hlarge, if_neg hlarge]

/-- The last row is on the last page.  Without rows both are zero. -/
theorem number_lastRow :
    ({ p with offset := n - 1 } : Page).number = pageCount p.limit n := by
  rw [pageCount_eq hlimit]
  exact number_eq hlimit

/-- The page behind some whole pages has the next number. -/
theorem number_mul (k : Int) : ({ p with offset := k * p.limit } : Page).number = k + 1 := by
  conv_rhs => rw [← Int.mul_ediv_cancel k hlimit.ne']
  exact number_eq hlimit

/-- There is a next page before the last one only.  Here pages begin at multiples of the limit. -/
theorem hasNext_eq_false_iff (htotal : p.total = some n) (k : Int) :
    ({ p with offset := k * p.limit } : Page).hasNext = false ↔
      pageCount p.limit n ≤ ({ p with offset := k * p.limit } : Page).number := by
  rw [number_mul hlimit, pageCount_le_iff hlimit, Int.add_mul, Int.one_mul]
  simp [hasNext, htotal]

omit hlimit

/-- **When the number of pages is exact.**  The exact number is the least number of pages that hold
all rows.  It is the number of the page of the last row, and the pages that begin where another one
ends have no next one exactly if their number is not less than it.

What is computed is the ceiling of a number that is within half the distance of the binary numbers
from the quotient, and an error exactly if the quotient is too large.  It is exact if and only if
the quotient is not too large and keeps its ceiling when it is rounded; this holds for all totals of
at most 53 binary digits with limits of at most 1075. -/
theorem totalPages_exact_iff (hlimit : 0 < p.limit) (htotal : p.total = some n) (hn : 0 ≤ n) :
    IsLeast {k | n ≤ k * p.limit} (pageCount p.limit n) ∧
      (p.totalPages = .error .tooLarge ↔ Binary.overflow ≤ (n : ℚ) / p.limit) ∧
      ((n : ℚ) / p.limit < Binary.overflow →
        ∃ x : ℚ, |(n : ℚ) / p.limit - x| ≤ Binary.spacing (n / p.limit) / 2 ∧
          p.totalPages = .ok (some ⌈x⌉)) ∧
      (p.totalPages = .ok (some (pageCount p.limit n)) ↔
        (n : ℚ) / p.limit < Binary.overflow ∧ Binary.KeepsCeil (n / p.limit)) ∧
      (n < 2 ^ 53 → p.limit < 2 ^ 1075 → p.totalPages = .ok (some (pageCount p.limit n))) ∧
      ({ p with offset := n - 1 } : Page).number = pageCount p.limit n ∧
      ∀ k : Int, ({ p with offset := k * p.limit } : Page).hasNext = false ↔
        pageCount p.limit n ≤ ({ p with offset := k * p.limit } : Page).number := by
  have hpos : 0 < p.limit.natAbs := Int.natAbs_pos.2 hlimit.ne'
  have hcast := ratio_natAbs hlimit hn
  have hpages := totalPages_eq hlimit htotal hn
  -- The computed number is a ceiling, and it is the exact one if the quotient keeps its own.
  have hexact : p.totalPages = .ok (some (pageCount p.limit n)) ↔
      (n : ℚ) / p.limit < Binary.overflow ∧ Binary.KeepsCeil (n / p.limit) := by
    have hkeeps := Binary.ceil_mantissa_eq_iff n.natAbs hpos
    rw [← hcast] at hkeeps
    rw [hpages, ← hkeeps, ← not_le, pageCount]
    by_cases hlarge : Binary.overflow ≤ (n : ℚ) / p.limit <;> simp [hlarge]
  refine ⟨isLeast_pageCount hlimit n, ?_, fun hsmall => ?_, hexact, fun hn' hlimit' => ?_,
    number_lastRow hlimit, hasNext_eq_false_iff hlimit htotal⟩
  · rw [hpages]
    by_cases hlarge : Binary.overflow ≤ (n : ℚ) / p.limit <;> simp [hlarge]
  · have hnear := Binary.abs_sub_mantissa_le (n := n.natAbs) hpos
    rw [← hcast] at hnear
    exact ⟨_, hnear, by rw [hpages, if_neg hsmall.not_ge]⟩
  · have hkeeps := Binary.keepsCeil_of_lt (n := n.natAbs) (by omega) hpos (by omega)
    rw [← hcast] at hkeeps
    exact hexact.2 hkeeps

/-- A result whose rows need one digit more than a binary number has, in pages of one row.  The
total is two to the 53 and one. -/
def manyRows : Page :=
  ⟨1, 0, some 9007199254740993, defaultLimitOptions, defaultMaxLimit⟩

/-- The last page of many rows is not counted: there is a page behind the one that has the number of
pages for its number.  The six pages of a hundred and twenty-seven rows are counted. -/
theorem manyRows_totalPages :
    manyRows.totalPages = .ok (some 9007199254740992) ∧
      ({ manyRows with offset := 9007199254740992 } : Page).number = 9007199254740993 ∧
      ({ manyRows with offset := 9007199254740991 } : Page).number = 9007199254740992 ∧
      ({ manyRows with offset := 9007199254740991 } : Page).hasNext = true ∧
      ¬ Binary.KeepsCeil 9007199254740993 ∧
      ({ manyRows with limit := 25, total := some 127 } : Page).totalPages = .ok (some 6) := by
  have hmany : manyRows.totalPages = .ok (some 9007199254740992) := rfl
  obtain ⟨-, hlarge, -, hexact, -, hlast, hnext⟩ :=
    totalPages_exact_iff (p := manyRows) (n := 9007199254740993) (by decide) rfl (by decide)
  obtain ⟨-, -, -, -, hsmall, hsix, -⟩ :=
    totalPages_exact_iff (p := { manyRows with limit := 25, total := some 127 }) (n := 127)
      (by decide) rfl (by decide)
  -- The exact numbers are read off the pages of the last rows.
  have hcount : pageCount manyRows.limit 9007199254740993 = 9007199254740993 := by
    rw [← hlast]
    decide
  have hcount' : pageCount 25 127 = 6 := by
    rw [← hsix]
    decide
  rw [hmany, hcount] at hexact
  have hkeeps : ¬ Binary.KeepsCeil (((9007199254740993 : Int) : ℚ) / manyRows.limit) := by
    intro h
    have hbound := not_le.1 fun hle => absurd (hlarge.2 hle) (by simp [hmany])
    exact absurd (hexact.2 ⟨hbound, h⟩) (by simp)
  have hbehind := hnext 9007199254740991
  rw [hcount] at hbehind
  refine ⟨hmany, hlast.trans hcount, by decide, ?_, by simpa [manyRows] using hkeeps, ?_⟩
  · exact Bool.eq_true_of_not_eq_false fun h => absurd (hbehind.1 h) (by decide)
  · rw [← hcount']
    exact hsmall (by decide) (by decide +kernel)

end UrlFilter.Page
