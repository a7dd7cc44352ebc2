import UrlFilter.Proofs.Number.Numeral

namespace UrlFilter.Number.Decimal

open UrlFilter.Text

/-!
# Written decimal numbers

A finite number comes back from its text with an exponent as it is, and from its text without one
as an equal number.

* `Finite` — the numbers that have a first and a last digit, both within bounds.
* `positional` — the number with its zeros written out.
* `read?_scientific`, `read?_plain` — what the texts of a number denote.
* `Readable`, `read?_scientific_iff` — the numbers that come back, among them infinities and NaNs.
* `compare?_positional` — the zeros make no difference.
-/

/-- The number is finite, with the exponents of its first and of its last digit within bounds.  A
finite number that is read always has them so. -/
def Finite : Decimal → Prop
  | .finite _ coefficient exponent => inBounds coefficient exponent = true
  | _ => False

/-- The number with the zeros behind its last digit written out, if there are any before the point.
The digits behind the point stay where they are. -/
def positional : Decimal → Decimal
  | .finite negative coefficient exponent =>
    if 0 < exponent then .finite negative (coefficient * 10 ^ exponent.toNat) 0
    else .finite negative coefficient exponent
  | x => x

/-! ### Reading -/

/-- Blanks around a number do not matter.  The reader takes them off itself. -/
theorem read?_trim (cs : List Char) : read? (trim cs) = read? cs := by
  rw [read?, trim_trim, ← read?]

/-- A text that starts with a digit is no word for an infinity or a NaN.  The words start with one
of three letters. -/
theorem readUnsigned?_of_startsWithDigit (negative : Bool) {cs : List Char}
    (h : StartsWithDigit cs) {coefficient : Nat} {exponent : Int}
    (hread : Numeral.read? cs = some ⟨coefficient, exponent⟩)
    (hbounds : inBounds coefficient exponent = true) :
    readUnsigned? negative cs = some (.finite negative coefficient exponent) := by
  -- Each word is tried before the digits.
  unfold readUnsigned?
  split
  · exact absurd rfl (h.ne_cons (by decide) _)
  · exact absurd rfl (h.ne_cons (by decide) _)
  · exact absurd rfl (h.ne_cons (by decide) _)
  · simp [hread, hbounds]

/-- A visible text without underscores is read as it is, in lower case behind its sign.  Only digits
of other scripts and blanks would be changed before. -/
theorem read?_of_graphic {cs : List Char} (h : Graphic cs) (hscore : '_' ∉ cs) :
    read? cs = readUnsigned? (splitSign cs).1 ((splitSign cs).2.map Char.toLower) := by
  have hkeep : cs.filter (· != '_') = cs := by
    rw [List.filter_eq_self]
    intro c hc
    rw [bne_iff_ne]
    rintro rfl
    exact hscore hc
  rw [read?, trim_of_graphic h, toAsciiDigits_of_graphic h, hkeep]

/-- A text that starts with a digit is read behind its sign.  No sign stands for a number that is
not negative. -/
theorem read?_sign_append (negative : Bool) {cs : List Char} (hstart : StartsWithDigit cs)
    (hgraphic : Graphic cs) (hscore : '_' ∉ cs) :
    read? (sign negative ++ cs) = readUnsigned? negative (cs.map Char.toLower) := by
  have hmem : '_' ∉ sign negative ++ cs := by
    rw [List.mem_append, not_or]
    exact ⟨not_mem_sign negative (by decide), hscore⟩
  rw [read?_of_graphic ((graphic_sign negative).append hgraphic) hmem,
    splitSign_sign negative hstart]

/-! ### Lower case -/

theorem toLower_of_isDigit {c : Char} (h : c.isDigit = true) : c.toLower = c := by
  have hrange := toNat_of_isDigit h
  have hlower : ¬ (c.val ≥ 65 ∧ c.val ≤ 90) := by
    simp only [ge_iff_le, UInt32.le_iff_toNat_le, Char.toNat_val, UInt32.reduceToNat]
    omega
  exact dif_neg hlower

theorem map_toLower_toDigits (n : Nat) :
    (Nat.toDigits 10 n).map Char.toLower = Nat.toDigits 10 n := by
  conv_rhs => rw [← List.map_id (Nat.toDigits 10 n)]
  exact List.map_congr_left fun c hc => toLower_of_isDigit (isDigit_of_mem_toDigits hc)

/-- An exponent is written with its letter and its sign, and not at all if it is zero.  The letter
is a capital one and is read in lower case. -/
theorem exponentText_written (top : Int) {tail : List Char}
    (htail : tail = if top = 0 then [] else
      'E' :: (if top < 0 then '-' else '+') :: Nat.toDigits 10 top.natAbs) :
    Graphic tail ∧ '_' ∉ tail ∧ ExponentText (tail.map Char.toLower) top := by
  -- An exponent of zero leaves no text.
  by_cases htop : top = 0
  · rw [htail, if_pos htop]
    exact ⟨Graphic.nil, List.not_mem_nil, .inl ⟨rfl, htop⟩⟩
  rw [htail, if_neg htop]
  have hsign : (if top < 0 then '-' else '+').toLower = (if top < 0 then '-' else '+') ∧
      isGraphic (if top < 0 then '-' else '+') = true ∧
      '_' ≠ (if top < 0 then '-' else '+') := by
    split <;> decide
  refine ⟨.cons (by decide) (.cons hsign.2.1 (graphic_toDigits _)), ?_, ?_⟩
  · rw [List.mem_cons, List.mem_cons, not_or, not_or]
    exact ⟨by decide, hsign.2.2, Nat.underscore_not_in_toDigits⟩
  · rw [List.map_cons, List.map_cons, hsign.1, map_toLower_toDigits]
    exact exponentText_cons top

/-! ### Digits with a point -/

section WithPoint

variable {digits : List Char} (h : ∀ c ∈ digits, c.isDigit = true) (places : Nat)

include h

theorem graphic_withPoint : Graphic (withPoint digits places) := by
  intro c hc
  -- Each character is a digit or the point.
  rcases mem_withPoint h hc with hc | rfl
  · exact isGraphic_of_isDigit hc
  · decide

theorem not_mem_withPoint {c : Char} (hdigit : c.isDigit = false) (hpoint : c ≠ '.') :
    c ∉ withPoint digits places := by
  intro hc
  rcases mem_withPoint h hc with hc | rfl
  · rw [hdigit] at hc
    exact absurd hc (by decide)
  · exact hpoint rfl

theorem map_toLower_withPoint :
    (withPoint digits places).map Char.toLower = withPoint digits places := by
  conv_rhs => rw [← List.map_id (withPoint digits places)]
  refine List.map_congr_left fun c hc => ?_
  rcases mem_withPoint h hc with hc | rfl
  · exact toLower_of_isDigit hc
  · rfl

end WithPoint

/-- What is written behind the digits, and what is read of it.  This is the one form behind both
texts of a finite number. -/
theorem read?_sign_withPoint_append (negative : Bool) {digits tail : List Char} {places : Nat}
    {exponent : Int} (hne : digits ≠ []) (h : ∀ c ∈ digits, c.isDigit = true)
    (hgraphic : Graphic tail) (hscore : '_' ∉ tail)
    (htail : ExponentText (tail.map Char.toLower) exponent)
    (hbounds : inBounds (Nat.ofDigitChars 10 digits 0) (exponent - places) = true) :
    read? (sign negative ++ (withPoint digits places ++ tail))
      = some (.finite negative (Nat.ofDigitChars 10 digits 0) (exponent - places)) := by
  have hstart := startsWithDigit_withPoint hne h places
  have hmem : '_' ∉ withPoint digits places ++ tail := by
    rw [List.mem_append, not_or]
    exact ⟨not_mem_withPoint h places (by decide) (by decide), hscore⟩
  rw [read?_sign_append negative (hstart.append tail)
    ((graphic_withPoint h places).append hgraphic) hmem, List.map_append,
    map_toLower_withPoint h places]
  exact readUnsigned?_of_startsWithDigit negative (hstart.append _)
    (Numeral.read?_withPoint hne h places htail) hbounds

/-! ### Texts of numbers -/

variable (negative : Bool) {coefficient : Nat} {exponent : Int}

/-- **A finite number comes back from its text.**  Its zeros and its exponent are kept, not only its
value. -/
theorem read?_scientific (hbounds : inBounds coefficient exponent = true) :
    read? (scientific (.finite negative coefficient exponent))
      = some (.finite negative coefficient exponent) := by
  have hne : Nat.toDigits 10 coefficient ≠ [] := Nat.toDigits_ne_nil
  have hdigit : ∀ c ∈ Nat.toDigits 10 coefficient, c.isDigit = true :=
    fun c hc => isDigit_of_mem_toDigits hc
  have hlen : 0 < (Nat.toDigits 10 coefficient).length := Nat.length_toDigits_pos
  have hread := @read?_sign_withPoint_append negative (Nat.toDigits 10 coefficient)
  simp only [Nat.ofDigitChars_ten_toDigits] at hread
  unfold scientific
  dsimp only
  split
  · next hplain =>
    -- The point stands as many places before the end as the exponent says.
    have hplaces : (0 : Int) - ((-exponent).toNat : Nat) = exponent := by omega
    have htext := hread hne hdigit Graphic.nil List.not_mem_nil (.inl ⟨rfl, rfl⟩)
      (by rwa [hplaces])
    rwa [List.append_nil, hplaces] at htext
  · next hshown =>
    -- One digit stands before the point, so the exponent is that of the first digit.
    generalize htop : exponent + ((Nat.toDigits 10 coefficient).length : Int) - 1 = top
    have hplaces : top - ((Nat.toDigits 10 coefficient).length - 1 : Nat) = exponent := by omega
    obtain ⟨hgraphic, hscore, htail⟩ := exponentText_written top rfl
    have htext := hread hne hdigit hgraphic hscore htail (by rwa [hplaces])
    rwa [hplaces] at htext

/-- The digits behind the word for a NaN; there are none if the payload is zero.  A payload starts
with no zero. -/
theorem readPayload?_written (payload : Nat) {digits : List Char}
    (hdigits : digits = if payload = 0 then [] else Nat.toDigits 10 payload) :
    Graphic digits ∧ '_' ∉ digits ∧ digits.map Char.toLower = digits ∧
      readPayload? digits = some payload := by
  by_cases hzero : payload = 0
  · rw [hdigits, if_pos hzero, hzero]
    exact ⟨Graphic.nil, List.not_mem_nil, rfl, rfl⟩
  · have hempty : (Nat.toDigits 10 payload).isEmpty = false := by simp
    rw [hdigits, if_neg hzero, readPayload?, hempty, if_neg Bool.false_ne_true,
      digitsValue?_toDigits]
    exact ⟨graphic_toDigits _, Nat.underscore_not_in_toDigits, map_toLower_toDigits _, rfl⟩

/-- **A NaN comes back from its text,** with its sign, its kind and its payload.  A NaN that signals
is told apart by one letter. -/
theorem read?_nan (signaling : Bool) (payload : Nat) :
    read? (scientific (.nan negative signaling payload))
      = some (.nan negative signaling payload) := by
  rw [scientific, nanText]
  generalize hdigits : (if payload = 0 then [] else Nat.toDigits 10 payload) = digits
  obtain ⟨hgraphic, hscore, hlower, hpayload⟩ := readPayload?_written payload hdigits.symm
  -- The word with its sign is read before the digits.
  have hread : ∀ word : List Char, Graphic (sign negative ++ word) → '_' ∉ sign negative ++ word →
      splitSign (sign negative ++ (word ++ digits)) = (negative, word ++ digits) →
      read? (sign negative ++ (word ++ digits))
        = readUnsigned? negative (word.map Char.toLower ++ digits) := by
    intro word hword hnot hsplit
    have hmem : '_' ∉ sign negative ++ word ++ digits := by
      rw [List.mem_append, not_or]
      exact ⟨hnot, hscore⟩
    rw [← List.append_assoc, read?_of_graphic (hword.append hgraphic) hmem, List.append_assoc,
      hsplit, List.map_append, hlower]
  have hword : readUnsigned? negative ((if signaling then "snan" else "nan").toList ++ digits)
      = some (.nan negative signaling payload) := by
    cases signaling <;> exact congrArg (Option.map _) hpayload
  rw [← hword]
  cases signaling <;> cases negative <;> exact hread _ (by decide) (by decide) rfl

/-! ### Numbers that come back -/

/-- The number is infinite or a NaN, or the exponents of its first and of its last digit are within
bounds.  The payload of a NaN may be any. -/
def Readable : Decimal → Prop
  | .finite _ coefficient exponent => inBounds coefficient exponent = true
  | _ => True

/-- Reading gives no other numbers.  A number out of bounds is refused. -/
theorem readable_of_readUnsigned? {cs : List Char} {x : Decimal}
    (h : readUnsigned? negative cs = some x) : x.Readable := by
  -- A word for an infinity, two words for NaNs, or a numeral within bounds.
  unfold readUnsigned? at h
  split at h
  · split at h
    · rw [← Option.some.inj h]
      trivial
    · exact absurd h (by simp)
  · obtain ⟨payload, -, rfl⟩ := Option.map_eq_some_iff.1 h
    trivial
  · obtain ⟨payload, -, rfl⟩ := Option.map_eq_some_iff.1 h
    trivial
  · split at h
    · split at h
      · next hbounds =>
        rw [← Option.some.inj h]
        exact hbounds
      · exact absurd h (by simp)
    · exact absurd h (by simp)

/-- **The numbers that come back from their text are those that can be read at all.**  So a second
trip through the text changes nothing. -/
theorem read?_scientific_iff {x : Decimal} :
    read? (scientific x) = some x ↔ ∃ cs, read? cs = some x := by
  refine ⟨fun h => ⟨_, h⟩, fun ⟨cs, h⟩ => ?_⟩
  have hreadable : x.Readable := readable_of_readUnsigned? _ h
  cases x with
  | finite negative coefficient exponent => exact read?_scientific negative hreadable
  | infinite negative => cases negative <;> decide
  | nan negative signaling payload => exact read?_nan negative signaling payload

/-! ### Texts without an exponent -/

/-- The zeros of a power of ten are the last digits of its multiples.  Zero has only one digit, so
it is left out. -/
theorem toDigits_mul_pow (hne : coefficient ≠ 0) (k : Nat) :
    Nat.toDigits 10 (coefficient * 10 ^ k)
      = Nat.toDigits 10 coefficient ++ List.replicate k '0' := by
  -- Each factor of ten adds one zero at the end.
  induction k with
  | zero => simp
  | succ k ih =>
    have hpos : 0 < coefficient * 10 ^ k :=
      Nat.mul_pos (Nat.pos_of_ne_zero hne) (Nat.pow_pos (by decide))
    have hstep : coefficient * 10 ^ (k + 1) = 10 * (coefficient * 10 ^ k) + 0 := by
      rw [Nat.pow_succ, Nat.add_zero, ← Nat.mul_assoc, Nat.mul_comm]
    rw [hstep, ← Nat.toDigits_append_toDigits (by decide) hpos (by decide), ih, Nat.toDigits_zero,
      List.append_assoc, List.replicate_succ']

theorem digitCount_mul_pow (hne : coefficient ≠ 0) (k : Nat) :
    digitCount (coefficient * 10 ^ k) = digitCount coefficient + k := by
  rw [digitCount, toDigits_mul_pow hne, List.length_append, List.length_replicate, digitCount]

/-- Zeros that are written out keep the first digit where it is.  The last digit moves up to the
point, which is within bounds. -/
theorem inBounds_positional (hexp : 0 < exponent) (hbounds : inBounds coefficient exponent = true) :
    inBounds (coefficient * 10 ^ exponent.toNat) 0 = true := by
  simp only [inBounds, Bool.and_eq_true, decide_eq_true_eq] at hbounds ⊢
  by_cases hzero : coefficient = 0
  · rw [hzero, Nat.zero_mul, if_pos rfl]
    decide
  have hne : coefficient * 10 ^ exponent.toNat ≠ 0 :=
    Nat.mul_ne_zero hzero (Nat.pow_pos (by decide)).ne'
  rw [if_neg hzero] at hbounds
  rw [if_neg hne, digitCount_mul_pow hzero]
  simp only [minExponent, maxExponent] at hbounds ⊢
  omega

/-- **The text without an exponent denotes the number with its zeros written out.**  A number
without zeros to write out comes back as it is. -/
theorem read?_plain (hbounds : inBounds coefficient exponent = true) :
    read? (plain (.finite negative coefficient exponent))
      = some (positional (.finite negative coefficient exponent)) := by
  have hread : ∀ n places, inBounds n (0 - (places : Nat)) = true →
      read? (sign negative ++ withPoint (Nat.toDigits 10 n) places)
        = some (.finite negative n (0 - (places : Nat))) := by
    intro n places h
    have htext := @read?_sign_withPoint_append negative (Nat.toDigits 10 n) [] places 0
      Nat.toDigits_ne_nil (fun c hc => isDigit_of_mem_toDigits hc) Graphic.nil
      List.not_mem_nil (.inl ⟨rfl, rfl⟩) (by rwa [Nat.ofDigitChars_ten_toDigits])
    rwa [Nat.ofDigitChars_ten_toDigits, List.append_nil] at htext
  unfold plain positional
  dsimp only
  by_cases hexp : 0 < exponent
  · rw [if_pos hexp, if_pos hexp]
    -- The digits of zero stay as they are, all other ones get their zeros.
    have hdigits : (if coefficient = 0 then Nat.toDigits 10 coefficient
        else Nat.toDigits 10 coefficient ++ List.replicate exponent.toNat '0')
          = withPoint (Nat.toDigits 10 (coefficient * 10 ^ exponent.toNat)) 0 := by
      rw [withPoint, if_pos rfl]
      split
      · next hzero => rw [hzero, Nat.zero_mul]
      · next hne => rw [toDigits_mul_pow hne]
    rw [hdigits, hread _ 0 (by simpa using inBounds_positional hexp hbounds)]
    simp
  · have hplaces : (0 : Int) - ((-exponent).toNat : Nat) = exponent := by omega
    rw [if_neg hexp, if_neg hexp, hread _ _ (by rwa [hplaces]), hplaces]

/-! ### Equality -/

/-- A number and the number with its zeros written out have the same magnitude.  Only the exponents
differ. -/
theorem compareMagnitude_positional (hexp : 0 < exponent) :
    compareMagnitude (coefficient * 10 ^ exponent.toNat) 0 coefficient exponent = .eq := by
  unfold compareMagnitude
  by_cases hzero : coefficient = 0
  · simp [hzero]
  have hne : coefficient * 10 ^ exponent.toNat ≠ 0 :=
    Nat.mul_ne_zero hzero (Nat.pow_pos (by decide)).ne'
  have htop : (0 : Int) + digitCount (coefficient * 10 ^ exponent.toNat)
      = exponent + digitCount coefficient := by
    rw [digitCount_mul_pow hzero]
    omega
  -- The first digits are at the same place, so the coefficients are compared at the lower exponent.
  have hdown : (0 - exponent).toNat = 0 := by omega
  have hup : (exponent - 0).toNat = exponent.toNat := by omega
  rw [if_neg (by simp [hne, hzero]), htop]
  dsimp only
  rw [if_neg (Int.lt_irrefl _), if_neg (Int.lt_irrefl _), hdown, hup]
  simp

/-- A finite number is equal to itself.  Its sign does not matter. -/
theorem compare?_finite_self (coefficient : Nat) (exponent : Int) :
    compare? (.finite negative coefficient exponent) (.finite negative coefficient exponent)
      = some .eq := by
  have hsame : ∀ n, compareSigned n n .eq = .eq := by decide
  by_cases hzero : coefficient = 0
  · simp [compare?, hzero]
  · simp [compare?, hzero, compareMagnitude, hsame]

/-- **Written zeros make no difference.**  So a number is equal to what its plain text reads as. -/
theorem compare?_positional {x : Decimal} (h : Finite x) :
    compare? (positional x) x = some .eq := by
  cases x with
  | finite negative coefficient exponent =>
    have hsame : ∀ n, compareSigned n n .eq = .eq := by decide
    -- Without zeros to write out the two numbers are the same.
    by_cases hexp : 0 < exponent
    · by_cases hzero : coefficient = 0
      · simp [positional, hexp, compare?, hzero]
      have hne : coefficient * 10 ^ exponent.toNat ≠ 0 :=
        Nat.mul_ne_zero hzero (Nat.pow_pos (by decide)).ne'
      simp [positional, hexp, compare?, hzero, compareMagnitude_positional hexp,
        bne_iff_ne.2 hne, bne_iff_ne.2 hzero, hsame]
    · rw [positional, if_neg hexp, compare?_finite_self]
  | _ => exact absurd h id

/-- A finite number takes part in comparisons.  Only a NaN that signals would refuse. -/
theorem isSignaling_of_finite {x : Decimal} (h : Finite x) :
    x.isSignaling = false ∧ x.positional.isSignaling = false := by
  cases x with
  | finite negative coefficient exponent =>
    by_cases hexp : 0 < exponent <;> simp [positional, isSignaling, hexp]
  | _ => exact absurd h id

end UrlFilter.Number.Decimal
