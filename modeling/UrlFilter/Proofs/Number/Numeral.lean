import Mathlib.Algebra.Group.Int.Defs
import UrlFilter.Number.Decimal
import UrlFilter.Proofs.Text.Digit

namespace UrlFilter.Number

open UrlFilter.Text

/-!
# Written numbers

* `splitSign_sign` — the sign of a number is read as it was written.
* `Integer.isWritable_of_read?` — an integer that is read can be written.
* `Integer.read?_text` — an integer of limited length comes back from its text.
* `ExponentText` — what may stand behind the digits of a numeral.
* `Numeral.read?_withPoint` — digits with a point among them and an exponent behind them.
-/

/-! ### Signs -/

/-- **The sign in front of digits is read as it was written.**  A plus sign is read as well, but
never written. -/
theorem splitSign_sign (negative : Bool) {cs : List Char} (h : StartsWithDigit cs) :
    splitSign (Decimal.sign negative ++ cs) = (negative, cs) := by
  cases negative with
  | true => rfl
  | false =>
    rw [Decimal.sign, if_neg Bool.false_ne_true, List.nil_append]
    unfold splitSign
    split
    · exact absurd rfl (h.ne_cons (by decide) _)
    · exact absurd rfl (h.ne_cons (by decide) _)
    · rfl

theorem graphic_sign (negative : Bool) : Graphic (Decimal.sign negative) := by
  cases negative <;> simp [Decimal.sign, Graphic, isGraphic]

theorem not_mem_sign (negative : Bool) {c : Char} (h : c ≠ '-') : c ∉ Decimal.sign negative := by
  cases negative <;> simp [Decimal.sign, h]

/-! ### Integers -/

/-- A number is its magnitude with its sign.  The sign is written apart from the digits, so it is
put back in front. -/
theorem signed_natAbs (n : Int) :
    (if decide (n < 0) = true then -(n.natAbs : Int) else n.natAbs) = n := by
  by_cases hn : n < 0
  · rw [if_pos (by simpa using hn)]
    omega
  · rw [if_neg (by simpa using hn)]
    omega

/-- Blanks around an integer do not matter.  They are taken off before anything else is looked
at. -/
theorem Integer.read?_trim (cs : List Char) : Integer.read? (trim cs) = Integer.read? cs := by
  rw [Integer.read?, trim_trim, ← Integer.read?]

theorem Integer.isWritable_iff {n : Int} :
    Integer.isWritable n = true ↔ (Nat.toDigits 10 n.natAbs).length ≤ maxIntegerDigits := by
  rw [Integer.isWritable, decide_eq_true_eq]

/-- The least integer that cannot be written.  Its digits are a one and as many zeros as there may
be digits. -/
theorem Integer.isWritable_pow : Integer.isWritable (10 ^ maxIntegerDigits) = false := by
  have hpos : 0 < maxIntegerDigits := by decide
  have hten : (10 : Int).natAbs = 10 := rfl
  rw [← Bool.not_eq_true, Integer.isWritable_iff, Int.natAbs_pow, hten,
    Nat.length_toDigits_le_iff (by decide) hpos]
  exact lt_irrefl _

/-- **An integer that is read can be written:** both have the same limit.  Zeros in front count for
the reader, so what is read may have fewer digits. -/
theorem Integer.isWritable_of_read? {cs : List Char} {n : Int} (h : Integer.read? cs = some n) :
    Integer.isWritable n = true := by
  simp only [Integer.read?, Option.bind_eq_bind, Option.bind_eq_some_iff] at h
  obtain ⟨digits, -, h⟩ := h
  split at h
  · exact absurd h (by simp)
  next hlength =>
  obtain ⟨value, hvalue, hsigned⟩ := Option.bind_eq_some_iff.1 h
  -- The number has the magnitude that the digits denote.
  have habs : n.natAbs = value := by
    obtain rfl := Option.some.inj hsigned
    split <;> simp
  rw [Integer.isWritable_iff, habs]
  exact (length_toDigits_le_of_digitsValue? hvalue).trans (Nat.not_lt.1 hlength)

/-- **An integer of limited length comes back from its text.**  The limit is that of the digits
without the sign. -/
theorem Integer.read?_text {n : Int} (h : (Nat.toDigits 10 n.natAbs).length ≤ maxIntegerDigits) :
    Integer.read? (Integer.text n) = some n := by
  have htext : Integer.text n = Decimal.sign (n < 0) ++ Nat.toDigits 10 n.natAbs := by
    by_cases hn : n < 0 <;> simp [Integer.text, Decimal.sign, hn]
  have hgraphic := (graphic_sign (n < 0)).append (graphic_toDigits n.natAbs)
  have hsplit := splitSign_sign (n < 0)
    (startsWithDigit_of_isDigit (Nat.toDigits_ne_nil (n := n.natAbs) (b := 10))
      fun c hc => isDigit_of_mem_toDigits hc)
  have hplain : withoutSeparators? Char.isDigit false (Nat.toDigits 10 n.natAbs)
      = some (Nat.toDigits 10 n.natAbs) :=
    withoutSeparators?_of_not_mem Nat.underscore_not_in_toDigits false
  rw [Integer.read?, htext, trim_of_graphic hgraphic, toAsciiDigits_of_graphic hgraphic, hsplit]
  simp only [hplain, Option.bind_eq_bind, Option.bind_some, if_neg (Nat.not_lt.2 h),
    digitsValue?_toDigits, Option.pure_def]
  exact congrArg some (signed_natAbs n)

/-! ### Digits with a point -/

/-- What may stand behind the digits of a numeral: nothing, or the letter and an exponent.  The
letter is in lower case, as the text is brought to it before. -/
def ExponentText (cs : List Char) (exponent : Int) : Prop :=
  cs = [] ∧ exponent = 0 ∨ ∃ more, cs = 'e' :: more ∧ readExponent? more = some exponent

theorem ExponentText.takeWhile {cs : List Char} {exponent : Int} (h : ExponentText cs exponent) :
    cs.takeWhile Char.isDigit = [] ∧ cs.dropWhile Char.isDigit = cs := by
  rcases h with ⟨rfl, -⟩ | ⟨more, rfl, -⟩
  · exact ⟨rfl, rfl⟩
  · exact ⟨rfl, rfl⟩

/-- An exponent with its sign.  The sign may be a plus. -/
theorem exponentText_cons (n : Int) :
    ExponentText ('e' :: (if n < 0 then '-' else '+') :: Nat.toDigits 10 n.natAbs) n := by
  have hsplit : splitSign ((if n < 0 then '-' else '+') :: Nat.toDigits 10 n.natAbs)
      = (decide (n < 0), Nat.toDigits 10 n.natAbs) := by
    by_cases hn : n < 0 <;> simp [hn, splitSign]
  refine .inr ⟨_, rfl, ?_⟩
  simp only [readExponent?, hsplit, digitsValue?_toDigits]
  exact congrArg some (signed_natAbs n)

/-- Digits without a point.  The exponent is the one behind them. -/
theorem Numeral.read?_digits {digits tail : List Char} {exponent : Int} (hne : digits ≠ [])
    (h : ∀ c ∈ digits, c.isDigit = true) (htail : ExponentText tail exponent) :
    Numeral.read? (digits ++ tail) = some ⟨Nat.ofDigitChars 10 digits 0, exponent⟩ := by
  obtain ⟨htake, hdrop⟩ := htail.takeWhile
  have hempty : digits.isEmpty = false := by simpa using hne
  unfold Numeral.read?
  rw [List.takeWhile_append_of_pos h, List.dropWhile_append_of_pos h, htake, hdrop,
    List.append_nil]
  -- Behind the digits there is nothing, or an exponent.
  rcases htail with ⟨rfl, rfl⟩ | ⟨more, rfl, hread⟩
  · simp [hempty]
  · simp [hempty, hread]

/-- Digits on both sides of a point.  The digits behind the point may be none. -/
theorem Numeral.read?_point {whole fraction tail : List Char} {exponent : Int} (hne : whole ≠ [])
    (hwhole : ∀ c ∈ whole, c.isDigit = true) (hfraction : ∀ c ∈ fraction, c.isDigit = true)
    (htail : ExponentText tail exponent) :
    Numeral.read? (whole ++ '.' :: (fraction ++ tail))
      = some ⟨Nat.ofDigitChars 10 (whole ++ fraction) 0, exponent - fraction.length⟩ := by
  obtain ⟨htake, hdrop⟩ := htail.takeWhile
  have hempty : whole.isEmpty = false := by simpa using hne
  have hpoint : ∀ cs, List.takeWhile Char.isDigit ('.' :: cs) = [] ∧
      List.dropWhile Char.isDigit ('.' :: cs) = '.' :: cs := fun _ => ⟨rfl, rfl⟩
  unfold Numeral.read?
  rw [List.takeWhile_append_of_pos hwhole, List.dropWhile_append_of_pos hwhole, (hpoint _).1,
    (hpoint _).2, List.append_nil]
  simp only [List.takeWhile_append_of_pos hfraction, List.dropWhile_append_of_pos hfraction, htake,
    hdrop, List.append_nil, hempty, Bool.false_and, Bool.false_eq_true, if_false]
  rcases htail with ⟨rfl, rfl⟩ | ⟨more, rfl, hread⟩
  · rfl
  · simp [hread]

namespace Decimal

/-! ### The place of the point -/

/-- Digits with a point are the digits themselves, or digits on both sides of the point.  At least
one digit stands in front of the point. -/
theorem withPoint_cases (digits : List Char) (places : Nat) :
    (places = 0 ∧ withPoint digits places = digits) ∨
      ∃ whole fraction, withPoint digits places = whole ++ '.' :: fraction ∧ whole ≠ [] ∧
        fraction.length = places ∧
        whole ++ fraction = List.replicate (places + 1 - digits.length) '0' ++ digits := by
  by_cases hplaces : places = 0
  · exact .inl ⟨hplaces, by rw [withPoint, if_pos hplaces]⟩
  refine .inr ?_
  -- Zeros in front leave at least one digit before the point.
  generalize hfilled : List.replicate (places + 1 - digits.length) '0' ++ digits = filled
  have hlen : places < filled.length := by
    rw [← hfilled, List.length_append, List.length_replicate]
    omega
  -- The point stands as many places before the end as are asked for.
  refine ⟨filled.take (filled.length - places), filled.drop (filled.length - places), ?_, ?_, ?_,
    List.take_append_drop _ _⟩
  · rw [withPoint, if_neg hplaces, hfilled]
  · rw [← List.length_pos_iff, List.length_take]
    omega
  · rw [List.length_drop]
    omega

/-- The characters of digits with a point.  Zeros that fill up the places are digits, too. -/
theorem mem_withPoint {digits : List Char} (h : ∀ c ∈ digits, c.isDigit = true) {places : Nat}
    {c : Char} (hc : c ∈ withPoint digits places) : c.isDigit = true ∨ c = '.' := by
  rcases withPoint_cases digits places with ⟨-, heq⟩ | ⟨whole, fraction, heq, -, -, happend⟩
  · rw [heq] at hc
    exact .inl (h c hc)
  -- On both sides of the point there are digits.
  have hdigit : ∀ d ∈ whole ++ fraction, d.isDigit = true := by
    rw [happend, List.forall_mem_append]
    exact ⟨fun d hd => isDigit_of_mem_replicate hd, h⟩
  rw [heq, List.mem_append, List.mem_cons] at hc
  rcases hc with hc | rfl | hc
  · exact .inl (hdigit c (List.mem_append_left _ hc))
  · exact .inr rfl
  · exact .inl (hdigit c (List.mem_append_right _ hc))

end Decimal

/-- **Digits with a point and an exponent** have the value of the digits, and the exponent less the
places behind the point.  Zeros in front do not change the value. -/
theorem Numeral.read?_withPoint {digits tail : List Char} {exponent : Int} (hne : digits ≠ [])
    (h : ∀ c ∈ digits, c.isDigit = true) (places : Nat) (htail : ExponentText tail exponent) :
    Numeral.read? (Decimal.withPoint digits places ++ tail)
      = some ⟨Nat.ofDigitChars 10 digits 0, exponent - places⟩ := by
  rcases Decimal.withPoint_cases digits places with
    ⟨rfl, heq⟩ | ⟨whole, fraction, heq, hwhole, hlen, happend⟩
  · rw [heq, read?_digits hne h htail]
    simp
  have hdigit : ∀ d ∈ whole ++ fraction, d.isDigit = true := by
    rw [happend, List.forall_mem_append]
    exact ⟨fun d hd => isDigit_of_mem_replicate hd, h⟩
  rw [List.forall_mem_append] at hdigit
  rw [heq, List.append_assoc, List.cons_append,
    read?_point hwhole hdigit.1 hdigit.2 htail, happend, hlen, Nat.ofDigitChars_append,
    Nat.ofDigitChars_replicate_zero, Nat.mul_zero]

/-- Digits with a point start with a digit.  So a reader does not take them for a word. -/
theorem Decimal.startsWithDigit_withPoint {digits : List Char} (hne : digits ≠ [])
    (h : ∀ c ∈ digits, c.isDigit = true) (places : Nat) :
    StartsWithDigit (withPoint digits places) := by
  rcases withPoint_cases digits places with ⟨-, heq⟩ | ⟨whole, fraction, heq, hwhole, -, happend⟩
  · rw [heq]
    exact startsWithDigit_of_isDigit hne h
  · rw [heq]
    refine (startsWithDigit_of_isDigit hwhole fun c hc => ?_).append _
    have hmem : c ∈ whole ++ fraction := List.mem_append_left _ hc
    rw [happend, List.mem_append] at hmem
    exact hmem.elim isDigit_of_mem_replicate (h c)

end UrlFilter.Number
