import UrlFilter.Proofs.Number.Rounding

namespace UrlFilter.Number.Binary

/-!
# The ceiling of a rounded fraction

The least integer that is not below a fraction is lost if the fraction is rounded down to an integer
first, or to an integer that is too far away.

* `ceil_div_le_iff`, `ceil_div_eq` — the ceiling of a fraction.
* `ceil?_finite`, `ceil?_ofRatio` — the ceiling of a binary number, and of a rounded fraction.
* `KeepsCeil` — the fractions whose ceiling is not lost.
* `ceil_mantissa_eq_iff` — they are those that a rounded fraction has its ceiling from.
* `keepsCeil_of_lt` — fractions of numbers that are not too large.
-/

variable {n d : Nat}

/-! ### Ceilings of binary numbers -/

/-- A number is not below the ceiling of a fraction if its multiple is not below the numerator.
This is how a ceiling is compared without computing it. -/
theorem ceil_div_le_iff {a b k : Int} (hb : 0 < b) : ⌈(a : ℚ) / b⌉ ≤ k ↔ a ≤ k * b := by
  have hpos : (0 : ℚ) < b := Int.cast_pos.2 hb
  -- Multiplying by the denominator leads back to integers.
  rw [Int.ceil_le, div_le_iff₀ hpos]
  exact_mod_cast Iff.rfl

/-- The ceiling of a fraction, without fractions. -/
theorem ceil_div_eq (n : Nat) (hd : 0 < d) : ⌈(n : ℚ) / d⌉ = ((n + (d - 1)) / d : Nat) := by
  have hpos : (0 : Int) < d := by exact_mod_cast hd
  refine eq_of_forall_ge_iff fun k => ?_
  have hceil := ceil_div_le_iff (a := n) (k := k) hpos
  rw [Int.cast_natCast, Int.cast_natCast] at hceil
  have hround :
      (((n + (d - 1)) / d : Nat) : Int) ≤ k ↔ ((n + (d - 1) : Nat) : Int) < k * d + d := by
    rw [← Int.lt_add_one_iff, Int.natCast_ediv, Int.ediv_lt_iff_lt_mul hpos, Int.add_mul,
      Int.one_mul]
  rw [hceil, hround]
  omega

/-- The ceiling of a number that is not negative.  The number may be far below one or far above all
integers of a machine. -/
theorem ceil?_finite (m : Nat) (e : Int) :
    ceil? (.finite false m e) = some ⌈(m : ℚ) * 2 ^ e⌉ := by
  have hdown : 0 < 2 ^ (-e).toNat := Nat.pow_pos (show 0 < 2 by decide)
  have hfraction : (m : ℚ) * 2 ^ e = (m * 2 ^ e.toNat : Nat) / (2 ^ (-e).toNat : Nat) := by
    rw [two_zpow_eq, ← mul_div_assoc]
    push_cast
    rfl
  rw [hfraction, ceil_div_eq _ hdown]
  rfl

theorem mantissa_zero (hd : 0 < d) : mantissa 0 d = 0 := by
  by_contra h
  have hpos := spacing_pos (((0 : Nat) : ℚ) / d)
  have hvalue : ((0 : Nat) : ℚ) / d = 0 := by simp
  rcases (lt_mantissa_iff hd 0).1 (Nat.pos_of_ne_zero h) with h | ⟨h, -⟩ <;>
    rw [hvalue] at h hpos <;> push_cast at h <;> linarith

/-- **The ceiling of a fraction that is rounded first.**  There is none if the fraction rounds to
infinity. -/
theorem ceil?_ofRatio (n : Nat) (hd : 0 < d) :
    (ofRatio false n d).ceil? = if overflow ≤ (n : ℚ) / d then none
      else some ⌈(mantissa n d : ℚ) * spacing (n / d)⌉ := by
  -- Zero has no first digit, so it is written apart.
  by_cases hn : n = 0
  · subst hn
    have hoverflow : ¬ overflow ≤ ((0 : Nat) : ℚ) / d := by
      have hpos : 0 < overflow := mul_pos (by norm_num) (zpow_pos two_pos _)
      simpa using hpos
    have hzero : ofRatio false 0 d = .finite false 0 minExponent := rfl
    rw [if_neg hoverflow, hzero, ceil?_finite, mantissa_zero hd]
    simp
  rw [ofRatio_eq false hn hd, if_congr (overflow_le_iff hn hd) rfl rfl]
  by_cases hcarry : mantissa n d = 2 * leastFullMantissa
  · -- The carry leaves the value as it is.
    have hvalue : (mantissa n d : ℚ) * spacing (n / d)
        = leastFullMantissa * 2 ^ (lastPlace (n / d) + 1) := by
      rw [hcarry, zpow_add_one₀ two_ne_zero, spacing]
      push_cast
      ring
    rw [if_pos hcarry, hvalue]
    by_cases hmax : maxExponent < lastPlace ((n : ℚ) / d) + 1
    · rw [if_pos hmax, if_pos (.inr ⟨by omega, hcarry⟩)]
      rfl
    · rw [if_neg hmax, if_neg (by omega), ceil?_finite]
  · rw [if_neg hcarry]
    by_cases hmax : maxExponent < lastPlace ((n : ℚ) / d)
    · rw [if_pos hmax, if_pos (.inl hmax)]
      rfl
    · rw [if_neg hmax, if_neg (not_or.2 ⟨hmax, fun h => hcarry h.2⟩), ceil?_finite, spacing]

/-! ### Fractions whose ceiling is not lost -/

/-- The ceiling of the fraction is not lost when the fraction is rounded.  Where binary numbers are
no farther apart than integers, the fraction is nearer to the next binary number than to the integer
below it; halfway between two integers, it is rounded to the upper one if this is even.  Where
binary numbers are farther apart, the ceiling is one of them.  Only the spacing at the fraction is
asked for. -/
def KeepsCeil (q : ℚ) : Prop :=
  if spacing q ≤ 1 then
    (⌈q⌉ : ℚ) - 1 + spacing q / 2 < q ∨
      spacing q = 1 ∧ (⌈q⌉ : ℚ) - 1 / 2 = q ∧ Even ⌈q⌉
  else ∃ k : Int, (⌈q⌉ : ℚ) = k * spacing q

/-- The spacing divides one, or it is an even number.  It divides one as long as the fraction is
below the power of two behind 53 digits. -/
theorem spacing_cases (q : ℚ) :
    (∃ s : Nat, 2 ^ s * spacing q = 1) ∨ ∃ s : Nat, spacing q = 2 * 2 ^ s := by
  rcases le_or_gt (lastPlace q) 0 with h | h
  · refine .inl ⟨(-lastPlace q).toNat, ?_⟩
    have hzero : ((-lastPlace q).toNat : Int) + lastPlace q = 0 := by omega
    rw [spacing, ← zpow_natCast, ← zpow_add₀ two_ne_zero, hzero, zpow_zero]
  · refine .inr ⟨(lastPlace q - 1).toNat, ?_⟩
    have hplace : lastPlace q = ((lastPlace q - 1).toNat : Int) + 1 := by omega
    rw [spacing, hplace, zpow_add_one₀ two_ne_zero, zpow_natCast, mul_comm]
    congr 3
    omega

/-- The mantissa of an integer is odd only if binary numbers are as far apart as integers, and then
the next integer is even.  This settles the case halfway between two mantissas. -/
theorem odd_mul_pow_iff {k s : Nat} {u : ℚ} (hs : 2 ^ s * u = 1) :
    Odd (k * 2 ^ s) ↔ u = 1 ∧ Even ((k : Int) + 1) := by
  have hone : u = 1 ↔ s = 0 := by
    constructor
    · intro h
      by_contra hne
      have hpow : (1 : ℚ) < 2 ^ s := one_lt_pow₀ one_lt_two hne
      rw [h] at hs
      linarith
    · rintro rfl
      simpa using hs
  rw [hone, Nat.odd_mul, Int.even_add_one, Int.not_even_iff_odd, Int.odd_coe_nat, and_comm]
  refine and_congr_left fun _ => ?_
  cases s with
  | zero => simp
  | succ s => simp [Nat.odd_pow_iff]

/-- Where integers are binary numbers, a fraction keeps its ceiling unless it is rounded down to the
integer below it.  Rounding up never goes past the integer above it. -/
theorem ceil_mantissa_eq_iff_of_fine (hn : n ≠ 0) (hd : 0 < d) {s : Nat}
    (hs : 2 ^ s * spacing (n / d) = 1) :
    ⌈(mantissa n d : ℚ) * spacing (n / d)⌉ = ⌈(n : ℚ) / d⌉ ↔
      (⌈(n : ℚ) / d⌉ : ℚ) - 1 + spacing (n / d) / 2 < n / d ∨
        spacing (n / d) = 1 ∧ (⌈(n : ℚ) / d⌉ : ℚ) - 1 / 2 = n / d ∧ Even ⌈(n : ℚ) / d⌉ := by
  have hq : (0 : ℚ) < n / d := ratio_pos hn hd
  have hspacing := spacing_pos ((n : ℚ) / d)
  obtain ⟨k, hk⟩ : ∃ k : Nat, ⌈(n : ℚ) / d⌉ = k + 1 :=
    ⟨(⌈(n : ℚ) / d⌉ - 1).toNat, by have := Int.ceil_pos.2 hq; omega⟩
  have hle : (n : ℚ) / d ≤ k + 1 := by exact_mod_cast hk ▸ Int.le_ceil ((n : ℚ) / d)
  have hlt := lt_mantissa_iff (n := n) hd
  generalize (n : ℚ) / d = q at *
  generalize mantissa n d = m at *
  generalize spacing q = u at *
  -- The mantissas of the two integers around the fraction.
  have hbelow : ((k * 2 ^ s : Nat) : ℚ) * u = k := by
    push_cast
    rw [mul_assoc, hs, mul_one]
  have habove : (((k + 1) * 2 ^ s : Nat) : ℚ) * u = k + 1 := by
    push_cast
    rw [mul_assoc, hs, mul_one]
  have hupper : (m : ℚ) * u ≤ k + 1 := by
    rw [← habove]
    refine mul_le_mul_of_nonneg_right ?_ hspacing.le
    rw [Nat.cast_le]
    by_contra h
    rcases (hlt _).1 (not_le.1 h) with h | ⟨h, -⟩ <;> rw [add_mul, habove] at h <;> linarith
  have hlower : (k : ℚ) < m * u ↔ k * 2 ^ s < m := by
    rw [← hbelow, mul_lt_mul_iff_left₀ hspacing, Nat.cast_lt]
  have hceil : ⌈(m : ℚ) * u⌉ = k + 1 ↔ (k : ℚ) < m * u := by
    rw [Int.ceil_eq_iff]
    push_cast
    rw [add_sub_cancel_right]
    exact and_iff_left hupper
  have hhalf : (((k * 2 ^ s : Nat) : ℚ) + 1 / 2) * u = k + u / 2 := by
    rw [add_mul, hbelow]
    ring
  rw [hk, hceil, hlower, hlt, hhalf, odd_mul_pow_iff hs]
  push_cast
  constructor
  · rintro (h | ⟨h, hu, heven⟩)
    · exact .inl (by linarith)
    · exact .inr ⟨hu, by linarith, heven⟩
  · rintro (h | ⟨hu, h, heven⟩)
    · exact .inl (by linarith)
    · exact .inr ⟨by linarith, hu, heven⟩

/-- Where not all integers are binary numbers, a fraction keeps its ceiling if it is one of them.
The rounded fraction is an integer then. -/
theorem ceil_mantissa_eq_iff_of_coarse (hd : 0 < d) {s : Nat}
    (hs : spacing (n / d) = 2 * 2 ^ s) :
    ⌈(mantissa n d : ℚ) * spacing (n / d)⌉ = ⌈(n : ℚ) / d⌉ ↔
      ∃ k : Int, (⌈(n : ℚ) / d⌉ : ℚ) = k * spacing (n / d) := by
  have hnear := abs_le.1 (abs_sub_mantissa_le (n := n) hd)
  have hle := Int.le_ceil ((n : ℚ) / d)
  have hlt := Int.ceil_lt_add_one ((n : ℚ) / d)
  generalize ⌈(n : ℚ) / d⌉ = c at *
  generalize (n : ℚ) / d = q at *
  generalize mantissa n d = m at *
  have hwhole : (m : ℚ) * spacing q = ((m * (2 * 2 ^ s) : Nat) : Int) := by
    rw [hs]
    push_cast
    ring
  have hone : (1 : ℚ) ≤ 2 ^ s := one_le_pow₀ one_le_two
  rw [hwhole, Int.ceil_intCast]
  constructor
  · rintro rfl
    exact ⟨m, by rw [← hwhole]; push_cast; rfl⟩
  · rintro ⟨k, hk⟩
    -- The ceiling is nearer to the fraction than half the spacing, so it is the nearest multiple.
    have hpos := spacing_pos q
    have hbelow : ((k : ℚ) - m) * spacing q < 1 * spacing q := by linarith
    have habove : (-1 : ℚ) * spacing q < (k - m) * spacing q := by linarith
    have hkm : k = m := by
      have h₁ : (k : ℚ) - m < 1 := lt_of_mul_lt_mul_right hbelow hpos.le
      have h₂ : (-1 : ℚ) < k - m := lt_of_mul_lt_mul_right habove hpos.le
      have h₁' : k - m < 1 := by exact_mod_cast h₁
      have h₂' : -1 < k - m := by exact_mod_cast h₂
      omega
    rw [hkm, Int.cast_natCast, hwhole] at hk
    exact_mod_cast hk.symm

/-- **When a rounded fraction has the ceiling of the fraction.**  The fraction zero keeps its
ceiling. -/
theorem ceil_mantissa_eq_iff (n : Nat) (hd : 0 < d) :
    ⌈(mantissa n d : ℚ) * spacing (n / d)⌉ = ⌈(n : ℚ) / d⌉ ↔ KeepsCeil (n / d) := by
  have hpow : ∀ s : Nat, (1 : ℚ) ≤ 2 ^ s := fun s => one_le_pow₀ one_le_two
  -- The spacing decides which of the two forms applies.
  rcases spacing_cases ((n : ℚ) / d) with ⟨s, hs⟩ | ⟨s, hs⟩
  · have hle : spacing ((n : ℚ) / d) ≤ 1 := by
      rw [← hs]
      exact le_mul_of_one_le_left (spacing_pos _).le (hpow s)
    by_cases hn : n = 0
    · subst hn
      have hvalue : ((0 : Nat) : ℚ) / d = 0 := by simp
      rw [KeepsCeil, if_pos hle, mantissa_zero hd, hvalue]
      rw [hvalue] at hle
      refine iff_of_true (by simp) (.inl ?_)
      rw [Int.ceil_zero, Int.cast_zero]
      linarith
    · rw [KeepsCeil, if_pos hle]
      exact ceil_mantissa_eq_iff_of_fine hn hd hs
  · have hgt : ¬ spacing ((n : ℚ) / d) ≤ 1 := by
      have hone := hpow s
      rw [hs]
      linarith
    rw [KeepsCeil, if_neg hgt]
    exact ceil_mantissa_eq_iff_of_coarse hd hs

/-! ### Numbers that are not too large -/

/-- Below the power of two behind 53 digits all integers are binary numbers.  So there the ceiling
can be lost only by rounding down. -/
theorem spacing_le_one {q : ℚ} (hq : 0 < q) (h : q < 2 ^ 53) : spacing q ≤ 1 := by
  have hlog : Int.log 2 q < 53 :=
    (Int.lt_zpow_iff_log_lt (by decide) hq).1 (by exact_mod_cast h)
  exact zpow_le_one_of_nonpos₀ one_le_two (max_le (by decide) (by omega))

theorem lt_overflow {q : ℚ} (h : q < 2 ^ 53) : q < overflow := by
  -- The largest binary numbers are far above two to the 53.
  have htwo : (2 : ℚ) ^ (1 : Int) ≤ 2 ^ maxExponent :=
    zpow_le_zpow_right₀ one_le_two (by decide)
  rw [zpow_one] at htwo
  rw [overflow]
  linarith

/-- The spacing is less than two parts of a fraction of numbers of 53 digits, as long as the least
binary number is.  Twice the rounding error is less than the step between fractions with this
denominator. -/
theorem spacing_mul_lt (hzero : n ≠ 0) (hn : n < 2 ^ 53) (hd : 0 < d) (hd' : d < 2 ^ 1075) :
    spacing (n / d) * d < 2 := by
  have hdpos : (0 : ℚ) < d := Nat.cast_pos.2 hd
  have hq : (0 : ℚ) < n / d := ratio_pos hzero hd
  have hn' : (n : ℚ) < 2 ^ 53 := by exact_mod_cast hn
  rcases max_choice minExponent (Int.log 2 ((n : ℚ) / d) - 52) with h | h
  · have hleast : (2 : ℚ) ^ minExponent * 2 ^ 1075 = 2 := by
      rw [← zpow_natCast, ← zpow_add₀ two_ne_zero]
      exact zpow_one 2
    have hlt : (d : ℚ) < (2 ^ 1075 : Nat) := Nat.cast_lt.2 hd'
    rw [Nat.cast_pow, Nat.cast_ofNat] at hlt
    calc spacing (n / d) * d = 2 ^ minExponent * d := by rw [spacing, lastPlace, h]
      _ < 2 ^ minExponent * 2 ^ 1075 := mul_lt_mul_of_pos_left hlt (zpow_pos two_pos _)
      _ = 2 := hleast
  · -- The first digit of the fraction has 52 places behind it.
    have hfirst : (2 : ℚ) ^ Int.log 2 ((n : ℚ) / d) * d ≤ n := by
      rw [← le_div_iff₀ hdpos]
      exact_mod_cast Int.zpow_log_le_self (by decide) hq
    have hplaces : (2 : ℚ) ^ Int.log 2 ((n : ℚ) / d)
        = 2 ^ (Int.log 2 ((n : ℚ) / d) - 52) * 2 ^ 52 := by
      rw [← zpow_natCast, ← zpow_add₀ two_ne_zero, Nat.cast_ofNat, Int.sub_add_cancel]
    rw [hplaces] at hfirst
    rw [spacing, lastPlace, h]
    linarith

/-- **Fractions of numbers of 53 digits keep their ceiling,** as long as they are above half of the
least binary number.  So the number of pages is right for all totals of 53 binary digits. -/
theorem keepsCeil_of_lt (hn : n < 2 ^ 53) (hd : 0 < d) (hd' : d < 2 ^ 1075) :
    (n : ℚ) / d < overflow ∧ KeepsCeil (n / d) := by
  have hlt : (n : ℚ) / d < 2 ^ 53 := by
    have hle : (n : ℚ) / d ≤ n := div_le_self (Nat.cast_nonneg n) (by exact_mod_cast hd)
    exact hle.trans_lt (by exact_mod_cast hn)
  refine ⟨lt_overflow hlt, ?_⟩
  by_cases hzero : n = 0
  · subst hzero
    exact (ceil_mantissa_eq_iff 0 hd).1 (by simp [mantissa_zero hd])
  have hdpos : (0 : ℚ) < d := Nat.cast_pos.2 hd
  have hq : (0 : ℚ) < n / d := ratio_pos hzero hd
  have hspacing := spacing_mul_lt hzero hn hd hd'
  rw [KeepsCeil, if_pos (spacing_le_one hq hlt)]
  refine .inl ?_
  -- A fraction is at least one part above the integer below it.
  have hpart : (((⌈(n : ℚ) / d⌉ - 1) * d + 1 : Int) : ℚ) ≤ n := by
    have hbelow : ((⌈(n : ℚ) / d⌉ : ℚ) - 1) * d < n := by
      rw [← lt_div_iff₀ hdpos]
      linarith [Int.ceil_lt_add_one ((n : ℚ) / d)]
    have hbelow' : (⌈(n : ℚ) / d⌉ - 1) * d < n := by exact_mod_cast hbelow
    exact_mod_cast hbelow'
  push_cast at hpart
  rw [lt_div_iff₀ hdpos]
  linarith

end UrlFilter.Number.Binary
