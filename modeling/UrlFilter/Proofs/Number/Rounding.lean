import Mathlib.Algebra.Order.Field.Power
import Mathlib.Data.Int.Log
import Mathlib.Data.Rat.Floor
import Mathlib.Tactic.FieldSimp
import Mathlib.Tactic.Linarith
import UrlFilter.Number.Binary

namespace UrlFilter.Number.Binary

/-!
# The binary number nearest to a fraction

A fraction is rounded to a multiple of a power of two, which depends on how large it is.

* `lt_roundDiv_iff` — what the rounded quotient of two numbers is.
* `lastPlace`, `spacing` — the power of two that a fraction is rounded to a multiple of.
* `mantissa`, `lt_mantissa_iff`, `abs_sub_mantissa_le` — the multiple that is nearest.
* `ofRatio_eq` — the binary number has this mantissa, with a carry taken over.
* `overflow`, `overflow_le_iff` — the fractions that are too large.
-/

/-! ### Rounding to integers -/

variable {n d : Nat}

/-- **The rounded quotient is above a number** if the quotient is nearer to the next number, or
halfway and the next number is even.  This says how halves are rounded: to the even one of the two
numbers. -/
theorem lt_roundDiv_iff (hd : 0 < d) (k : Nat) :
    k < roundDiv n d ↔ (k : ℚ) + 1 / 2 < n / d ∨ (k : ℚ) + 1 / 2 = n / d ∧ Odd k := by
  have hpos : (0 : ℚ) < d := Nat.cast_pos.2 hd
  have hlt : (k : ℚ) + 1 / 2 < n / d ↔ 2 * (d * k) + d < 2 * n := by
    rw [lt_div_iff₀ hpos, ← Nat.cast_lt (α := ℚ)]
    push_cast
    constructor <;> intro h <;> linarith
  have heq : (k : ℚ) + 1 / 2 = n / d ↔ 2 * (d * k) + d = 2 * n := by
    rw [eq_div_iff hpos.ne', ← Nat.cast_inj (R := ℚ)]
    push_cast
    constructor <;> intro h <;> linarith
  have hdiv := Nat.div_add_mod n d
  have hmod := Nat.mod_lt n hd
  rw [hlt, heq, Nat.odd_iff]
  unfold roundDiv
  dsimp only
  -- The number is below the whole quotient, equal to it or above it.
  rcases lt_trichotomy k (n / d) with h | rfl | h
  · have hmul : d * (k + 1) ≤ d * (n / d) := Nat.mul_le_mul_left d h
    rw [Nat.mul_add, Nat.mul_one] at hmul
    split <;> omega
  · split <;> omega
  · have hmul : d * (n / d + 1) ≤ d * k := Nat.mul_le_mul_left d h
    rw [Nat.mul_add, Nat.mul_one] at hmul
    split <;> omega

/-! ### The place of the last digit -/

/-- The exponent of the last digit of the binary number that is nearest to a fraction: the number
has 53 digits, or as many as the least exponent leaves.  Small numbers have fewer digits, since no
place lies behind the least exponent. -/
def lastPlace (q : ℚ) : Int :=
  max minExponent (Int.log 2 q - 52)

/-- The distance of the binary numbers that are as large as a fraction.  It doubles with each power
of two, except among the smallest numbers. -/
def spacing (q : ℚ) : ℚ :=
  2 ^ lastPlace q

theorem spacing_pos (q : ℚ) : 0 < spacing q :=
  zpow_pos two_pos _

/-- A fraction has no more than 53 digits before its last place.  Rounding up can still give the
first number that has more. -/
theorem lt_mul_spacing (q : ℚ) : q < 2 ^ 53 * spacing q := by
  calc q < 2 ^ (Int.log 2 q + 1) := by exact_mod_cast Int.lt_zpow_succ_log_self (by decide) q
    _ = 2 ^ 53 * 2 ^ (Int.log 2 q - 52) := by
      rw [← zpow_natCast, ← zpow_add₀ two_ne_zero]
      congr 1
      push_cast
      ring
    _ ≤ 2 ^ 53 * spacing q := by
      refine mul_le_mul_of_nonneg_left (zpow_le_zpow_right₀ one_le_two ?_) (by positivity)
      exact le_max_right _ _

theorem ratio_pos (hn : n ≠ 0) (hd : 0 < d) : (0 : ℚ) < n / d :=
  div_pos (Nat.cast_pos.2 (Nat.pos_of_ne_zero hn)) (Nat.cast_pos.2 hd)

/-- A power of two is a fraction of two numbers of which one is one.  So a scaled fraction is again
one of two natural numbers. -/
theorem two_zpow_eq (e : Int) : (2 : ℚ) ^ e = 2 ^ e.toNat / 2 ^ (-e).toNat := by
  have he : e = (e.toNat : Int) - ((-e).toNat : Int) := by omega
  conv_lhs => rw [he, zpow_sub₀ two_ne_zero, zpow_natCast, zpow_natCast]

theorem scaled_pos (hd : 0 < d) (e : Int) : 0 < (scaled n d e).2 :=
  Nat.mul_pos hd (Nat.pow_pos (by decide))

/-- A fraction is scaled by a power of two.  Either the numerator or the denominator takes the
power. -/
theorem scaled_ratio (n d : Nat) (e : Int) :
    ((scaled n d e).1 : ℚ) / (scaled n d e).2 = n / d / 2 ^ e := by
  have hnum : ((scaled n d e).1 : ℚ) = n * 2 ^ (-e).toNat := by
    simp [scaled]
  have hden : ((scaled n d e).2 : ℚ) = d * 2 ^ e.toNat := by
    simp [scaled]
  rw [hnum, hden, two_zpow_eq]
  field_simp

/-- The comparison that tells the place of the first digit of a fraction.  Only natural numbers are
compared. -/
theorem scaled_lt_iff (hd : 0 < d) (e : Int) :
    (scaled n d e).1 < leastFullMantissa * (scaled n d e).2
      ↔ (n : ℚ) / d < 2 ^ (e + 52) := by
  have hpos : (0 : ℚ) < (scaled n d e).2 := by exact_mod_cast scaled_pos hd e
  have hfull : (leastFullMantissa : ℚ) = 2 ^ (52 : Int) := by norm_num [leastFullMantissa]
  rw [← Nat.cast_lt (α := ℚ), Nat.cast_mul, ← div_lt_iff₀ hpos, scaled_ratio, hfull,
    div_lt_iff₀ (zpow_pos two_pos e), ← zpow_add₀ two_ne_zero, add_comm (52 : Int)]

/-- **The first digit of a fraction** is at the place that its numerator and its denominator have
it, or at the place behind.  Their quotient loses at most one place to a denominator with large
digits. -/
theorem log_mem (hn : n ≠ 0) (hd : 0 < d) :
    (Nat.log2 n : Int) - Nat.log2 d - 1 ≤ Int.log 2 ((n : ℚ) / d) ∧
      Int.log 2 ((n : ℚ) / d) < (Nat.log2 n : Int) - Nat.log2 d + 1 := by
  have hdpos : (0 : ℚ) < d := Nat.cast_pos.2 hd
  have hq : (0 : ℚ) < n / d := ratio_pos hn hd
  -- Each of the two numbers is between two powers of two.
  have hnlow : (2 : ℚ) ^ (Nat.log2 n : Int) ≤ n := by exact_mod_cast Nat.log2_self_le hn
  have hnhigh : (n : ℚ) < 2 ^ ((Nat.log2 n : Int) + 1) := by exact_mod_cast Nat.lt_log2_self
  have hdlow : (2 : ℚ) ^ (Nat.log2 d : Int) ≤ d := by exact_mod_cast Nat.log2_self_le hd.ne'
  have hdhigh : (d : ℚ) < 2 ^ ((Nat.log2 d : Int) + 1) := by exact_mod_cast Nat.lt_log2_self
  have hlow : (2 : ℚ) ^ ((Nat.log2 n : Int) - Nat.log2 d - 1) ≤ n / d := by
    rw [le_div_iff₀ hdpos]
    calc (2 : ℚ) ^ ((Nat.log2 n : Int) - Nat.log2 d - 1) * d
        ≤ 2 ^ ((Nat.log2 n : Int) - Nat.log2 d - 1) * 2 ^ ((Nat.log2 d : Int) + 1) := by gcongr
      _ = 2 ^ (Nat.log2 n : Int) := by
        rw [← zpow_add₀ two_ne_zero]
        congr 1
        ring
      _ ≤ n := hnlow
  have hhigh : (n : ℚ) / d < 2 ^ ((Nat.log2 n : Int) - Nat.log2 d + 1) := by
    rw [div_lt_iff₀ hdpos]
    calc (n : ℚ) < 2 ^ ((Nat.log2 n : Int) + 1) := hnhigh
      _ = 2 ^ ((Nat.log2 n : Int) - Nat.log2 d + 1) * 2 ^ (Nat.log2 d : Int) := by
        rw [← zpow_add₀ two_ne_zero]
        congr 1
        ring
      _ ≤ 2 ^ ((Nat.log2 n : Int) - Nat.log2 d + 1) * d := by gcongr
  exact ⟨(Int.zpow_le_iff_le_log (by decide) hq).1 (by exact_mod_cast hlow),
    (Int.lt_zpow_iff_log_lt (by decide) hq).1 (by exact_mod_cast hhigh)⟩

/-- One comparison tells which of the two places it is.  So the place of the first digit is found
without dividing. -/
theorem guess_eq_log (hn : n ≠ 0) (hd : 0 < d) {guess : Int}
    (hguess : guess = (Nat.log2 n : Int) - Nat.log2 d - 52) :
    (if (scaled n d guess).1 < leastFullMantissa * (scaled n d guess).2 then guess - 1 else guess)
      = Int.log 2 ((n : ℚ) / d) - 52 := by
  have hq : (0 : ℚ) < n / d := ratio_pos hn hd
  -- The test asks whether the first digit is behind the guessed place.
  have hplace : (n : ℚ) / d < 2 ^ (guess + 52) ↔ Int.log 2 ((n : ℚ) / d) < guess + 52 := by
    rw [← Int.lt_zpow_iff_log_lt (by decide) hq]
    norm_cast
  have hmem := log_mem hn hd
  rw [if_congr ((scaled_lt_iff hd guess).trans hplace) rfl rfl]
  split <;> omega

/-! ### The mantissa -/

/-- The multiple of the spacing that is nearest to a fraction; of two it is the even one.  It is a
natural number, as the sign is kept apart. -/
def mantissa (n d : Nat) : Nat :=
  roundDiv (scaled n d (lastPlace (n / d : ℚ))).1 (scaled n d (lastPlace (n / d : ℚ))).2

/-- **The mantissa is above a number** if the fraction is nearer to the next multiple, or halfway
and the next number is even.  All that is used of the mantissa below follows from this. -/
theorem lt_mantissa_iff (hd : 0 < d) (k : Nat) :
    k < mantissa n d ↔ ((k : ℚ) + 1 / 2) * spacing (n / d) < n / d ∨
      ((k : ℚ) + 1 / 2) * spacing (n / d) = n / d ∧ Odd k := by
  have hpos := spacing_pos ((n : ℚ) / d)
  rw [mantissa, lt_roundDiv_iff (scaled_pos hd _), scaled_ratio, ← spacing, lt_div_iff₀ hpos,
    eq_div_iff hpos.ne']

/-- **The mantissa is the nearest multiple.**  Half the spacing is the most that a fraction is moved
by. -/
theorem abs_sub_mantissa_le (hd : 0 < d) :
    |(n : ℚ) / d - mantissa n d * spacing (n / d)| ≤ spacing (n / d) / 2 := by
  -- Were the fraction farther above, the next multiple would be nearer.
  have habove : (n : ℚ) / d ≤ (mantissa n d + 1 / 2) * spacing (n / d) := by
    by_contra h
    exact lt_irrefl _ ((lt_mantissa_iff hd _).2 (.inl (not_le.1 h)))
  -- And below a mantissa of zero there is nothing to be nearer to.
  have hbelow : (mantissa n d - 1 / 2) * spacing (n / d) ≤ (n : ℚ) / d := by
    have hpos := spacing_pos ((n : ℚ) / d)
    cases hm : mantissa n d with
    | zero =>
      have hnonneg : (0 : ℚ) ≤ n / d := by positivity
      push_cast
      linarith
    | succ k =>
      have hle : ((k : ℚ) + 1 / 2) * spacing (n / d) ≤ n / d := by
        have hlt : k < mantissa n d := by omega
        rcases (lt_mantissa_iff hd k).1 hlt with h | ⟨h, -⟩
        · exact h.le
        · exact h.le
      push_cast
      linarith
  rw [abs_le]
  constructor <;> linarith

/-- The mantissa has at most 53 digits, or it is the first number that has more.  The latter is a
power of two, which a carry turns into the least full mantissa. -/
theorem mantissa_le (hd : 0 < d) : mantissa n d ≤ 2 * leastFullMantissa := by
  by_contra h
  have hpos := spacing_pos ((n : ℚ) / d)
  have hlt := lt_mul_spacing ((n : ℚ) / d)
  have hfull : ((2 * leastFullMantissa : Nat) : ℚ) = 2 ^ 53 := by norm_num [leastFullMantissa]
  rcases (lt_mantissa_iff hd _).1 (not_le.1 h) with h | ⟨h, -⟩ <;> rw [hfull] at h <;> linarith

/-- **The binary number nearest to a fraction** has the mantissa and the last place of the fraction;
a carry moves the place by one.  Zero is left out, as it has no first digit. -/
theorem ofRatio_eq (negative : Bool) (hn : n ≠ 0) (hd : 0 < d) :
    ofRatio negative n d =
      if mantissa n d = 2 * leastFullMantissa then
        if maxExponent < lastPlace (n / d) + 1 then .infinite negative
        else .finite negative leastFullMantissa (lastPlace (n / d) + 1)
      else if maxExponent < lastPlace (n / d) then .infinite negative
      else .finite negative (mantissa n d) (lastPlace (n / d)) := by
  unfold ofRatio
  rw [if_neg hn]
  dsimp only
  rw [guess_eq_log hn hd rfl, ← lastPlace, ← mantissa]
  split <;> rfl

/-! ### Fractions that are too large -/

/-- The least fraction that is too large: it lies halfway between the largest number, which has 53
ones, and the power of two behind it.  A fraction at this place is rounded away from the largest
number, whose mantissa is odd. -/
def overflow : ℚ :=
  (2 ^ 53 - 1 / 2) * 2 ^ maxExponent

/-- The place of the first digit of a fraction tells how it compares with the large powers of two.
Its first digit must be so many places in front of the largest exponent. -/
theorem mul_maxExponent_le_iff {q : ℚ} (hq : 0 < q) (k : Nat) :
    2 ^ k * 2 ^ maxExponent ≤ q ↔ k + maxExponent ≤ Int.log 2 q := by
  rw [← zpow_natCast, ← zpow_add₀ two_ne_zero, ← Int.zpow_le_iff_le_log (by decide) hq,
    Nat.cast_ofNat]

/-- **A fraction is too large** if its last place is behind the largest one, or if it gets there by
a carry.  Both are read off the place of its last digit and its mantissa. -/
theorem overflow_le_iff (hn : n ≠ 0) (hd : 0 < d) :
    overflow ≤ (n : ℚ) / d ↔ maxExponent < lastPlace (n / d) ∨
      maxExponent ≤ lastPlace (n / d) ∧ mantissa n d = 2 * leastFullMantissa := by
  have hq : (0 : ℚ) < n / d := ratio_pos hn hd
  have hmax : (0 : ℚ) < 2 ^ maxExponent := zpow_pos two_pos _
  have hplaces : minExponent < maxExponent := by decide
  have hplace : lastPlace ((n : ℚ) / d) = max minExponent (Int.log 2 ((n : ℚ) / d) - 52) := rfl
  -- The mantissa is carried over where the fraction is no less than 53 ones and a half.
  have hcarry : mantissa n d = 2 * leastFullMantissa ↔
      (2 ^ 53 - 1 / 2) * spacing (n / d) ≤ (n : ℚ) / d := by
    have hones : ((2 * leastFullMantissa - 1 : Nat) : ℚ) + 1 / 2 = 2 ^ 53 - 1 / 2 := by
      norm_num [leastFullMantissa]
    have hodd : Odd (2 * leastFullMantissa - 1) := by decide
    have hfull : 0 < leastFullMantissa := by decide
    have hlt := lt_mantissa_iff (n := n) hd (2 * leastFullMantissa - 1)
    have hle := mantissa_le (n := n) hd
    rw [hones, and_iff_left hodd, ← le_iff_lt_or_eq] at hlt
    rw [← hlt]
    omega
  rw [hcarry, overflow]
  constructor
  · intro hlow
    have hfirst : (2 : ℚ) ^ 52 * 2 ^ maxExponent ≤ n / d := by linarith
    have hlog := (mul_maxExponent_le_iff hq 52).1 hfirst
    by_cases hhigh : maxExponent < lastPlace (n / d)
    · exact .inl hhigh
    · have heq : lastPlace ((n : ℚ) / d) = maxExponent := by omega
      exact .inr ⟨heq.ge, by rwa [spacing, heq]⟩
  · rintro (hhigh | ⟨hle, hlow⟩)
    · have hfirst := (mul_maxExponent_le_iff hq 53).2 (by omega)
      linarith
    · have hspacing : (2 : ℚ) ^ maxExponent ≤ spacing (n / d) :=
        zpow_le_zpow_right₀ one_le_two hle
      linarith

end UrlFilter.Number.Binary
