import Mathlib.Algebra.Group.Nat.Defs
import UrlFilter.Proofs.Text.Trimming
import UrlFilter.Text.Digit

namespace UrlFilter.Text

/-!
# Written digits

Numbers are written in visible characters of ASCII, which a reader leaves as they are.

* `isGraphic` — the visible characters of ASCII.
* `trim_of_graphic`, `toAsciiDigits_of_graphic` — nothing is dropped and no digit is replaced.
* `digitsValue?_toDigits`, `ofDigitChars_padded` — written digits have the value that was written.
* `length_toDigits_le_of_digitsValue?` — a number has at most as many digits as it is read of.
* `hexValue?_hexPadded` — so do written digits of base sixteen.
-/

/-! ### Visible characters -/

/-- A visible character of ASCII.  The blank is none of them. -/
def isGraphic (c : Char) : Bool :=
  0x20 < c.toNat && c.toNat < 0x7F

theorem isGraphic_iff {c : Char} : isGraphic c = true ↔ 0x20 < c.toNat ∧ c.toNat < 0x7F := by
  simp only [isGraphic, Bool.and_eq_true, decide_eq_true_eq]

/-- All characters of a text are visible characters of ASCII.  This is so of all that is written of
numbers, dates and identifiers. -/
def Graphic (cs : List Char) : Prop :=
  ∀ c ∈ cs, isGraphic c = true

instance (cs : List Char) : Decidable (Graphic cs) :=
  decidable_of_iff (cs.all isGraphic = true) List.all_eq_true

theorem Graphic.nil : Graphic [] := by
  simp [Graphic]

theorem Graphic.cons {c : Char} {cs : List Char} (hc : isGraphic c = true) (h : Graphic cs) :
    Graphic (c :: cs) :=
  List.forall_mem_cons.2 ⟨hc, h⟩

theorem Graphic.append {xs ys : List Char} (hx : Graphic xs) (hy : Graphic ys) :
    Graphic (xs ++ ys) :=
  List.forall_mem_append.2 ⟨hx, hy⟩

theorem not_isBlank_of_isGraphic {c : Char} (h : isGraphic c = true) : isBlank c = false := by
  have hrange := isGraphic_iff.1 h
  simp only [isBlank, isWhiteSpace, isSeparator, Bool.or_eq_false_iff, Bool.and_eq_false_iff,
    beq_eq_false_iff_ne, decide_eq_false_iff_not]
  omega

/-- A visible text has no blanks to drop.  So blanks around a text can be told from the text. -/
theorem trim_of_graphic {cs : List Char} (h : Graphic cs) : trim cs = cs :=
  dropBoth_of_forall fun c hc => not_isBlank_of_isGraphic (h c hc)

/-- A visible text has no digits of other scripts.  Those of ASCII stay as they are. -/
theorem toAsciiDigits_of_graphic {cs : List Char} (h : Graphic cs) : toAsciiDigits cs = cs := by
  unfold toAsciiDigits
  conv_rhs => rw [← List.map_id cs]
  refine List.map_congr_left fun c hc => ?_
  have hrange := isGraphic_iff.1 (h c hc)
  rw [if_pos (by omega), id]

/-- Without underscores nothing is dropped between digits.  An underscore may stand only between two
digits. -/
theorem withoutSeparators?_of_not_mem {isDigit : Char → Bool} {cs : List Char} (h : '_' ∉ cs)
    (afterDigit : Bool) : withoutSeparators? isDigit afterDigit cs = some cs := by
  -- Whether a digit came before matters only at an underscore.
  induction cs generalizing afterDigit with
  | nil => rfl
  | cons c cs ih =>
    rw [List.mem_cons, not_or] at h
    rw [withoutSeparators?, if_neg (Ne.symm h.1), ih h.2, Option.map_some]

/-! ### Decimal digits -/

theorem toNat_of_isDigit {c : Char} (h : c.isDigit = true) : 0x30 ≤ c.toNat ∧ c.toNat ≤ 0x39 := by
  simpa [Char.isDigit, UInt32.le_iff_toNat_le] using h

theorem isGraphic_of_isDigit {c : Char} (h : c.isDigit = true) : isGraphic c = true := by
  have hrange := toNat_of_isDigit h
  exact isGraphic_iff.2 (by omega)

/-- The digits of a number.  None of them is a digit of another script. -/
theorem isDigit_of_mem_toDigits {n : Nat} {c : Char} (h : c ∈ Nat.toDigits 10 n) :
    c.isDigit = true :=
  Nat.isDigit_of_mem_toDigits (by decide) (by decide) h

theorem graphic_toDigits (n : Nat) : Graphic (Nat.toDigits 10 n) :=
  fun _ hc => isGraphic_of_isDigit (isDigit_of_mem_toDigits hc)

/-- Digits have a value.  Zeros in front are allowed. -/
theorem digitsValue?_of_isDigit {cs : List Char} (hne : cs ≠ []) (h : ∀ c ∈ cs, c.isDigit = true) :
    digitsValue? cs = some (Nat.ofDigitChars 10 cs 0) := by
  have hall : cs.all Char.isDigit = true := List.all_eq_true.2 h
  have hempty : cs.isEmpty = false := by simpa using hne
  rw [digitsValue?, hall, hempty]
  rfl

/-- Digits behind a number shift it by as many places, and stay below its successor there.  The
largest such number has only nines behind it. -/
theorem ofDigitChars_lt {cs : List Char} (h : ∀ c ∈ cs, c.isDigit = true) (n : Nat) :
    Nat.ofDigitChars 10 cs n < (n + 1) * 10 ^ cs.length := by
  -- Along the digits, the number in front takes in one digit at a time.
  induction cs generalizing n with
  | nil => simp
  | cons c cs ih =>
    rw [List.forall_mem_cons] at h
    have hdigit : c.toNat - '0'.toNat < 10 := by
      have hrange := toNat_of_isDigit h.1
      show c.toNat - 0x30 < 10
      omega
    calc Nat.ofDigitChars 10 (c :: cs) n
        = Nat.ofDigitChars 10 cs (10 * n + (c.toNat - '0'.toNat)) := Nat.ofDigitChars_cons
      _ < (10 * n + (c.toNat - '0'.toNat) + 1) * 10 ^ cs.length := ih h.2 _
      _ ≤ ((n + 1) * 10) * 10 ^ cs.length := Nat.mul_le_mul_right _ (by omega)
      _ = (n + 1) * 10 ^ (c :: cs).length := by
        rw [List.length_cons, Nat.pow_succ, Nat.mul_assoc, Nat.mul_comm 10]

/-- The value of digits has no more digits than these.  It has fewer if there are zeros in front. -/
theorem length_toDigits_le_of_digitsValue? {cs : List Char} {n : Nat}
    (h : digitsValue? cs = some n) : (Nat.toDigits 10 n).length ≤ cs.length := by
  rw [digitsValue?] at h
  split at h
  · exact absurd h (by simp)
  · next hdigits =>
    obtain ⟨hne, hall⟩ : cs ≠ [] ∧ ∀ c ∈ cs, c.isDigit = true := by simpa using hdigits
    -- A number below a power of ten has no more digits than its exponent.
    have hlt := ofDigitChars_lt hall 0
    rw [Option.some.inj h, Nat.zero_add, Nat.one_mul] at hlt
    exact (Nat.length_toDigits_le_iff (by decide) (List.length_pos_iff.2 hne)).2 hlt

/-- **The digits of a number have its value.**  There is at least one, also for zero. -/
theorem digitsValue?_toDigits (n : Nat) : digitsValue? (Nat.toDigits 10 n) = some n := by
  rw [digitsValue?_of_isDigit Nat.toDigits_ne_nil fun c hc => isDigit_of_mem_toDigits hc,
    Nat.ofDigitChars_ten_toDigits]

/-- Zeros in front of digits do not change their value.  This is what padding relies on. -/
theorem ofDigitChars_zeros_append (k n : Nat) :
    Nat.ofDigitChars 10 (List.replicate k '0' ++ Nat.toDigits 10 n) 0 = n := by
  rw [Nat.ofDigitChars_append, Nat.ofDigitChars_replicate_zero, Nat.mul_zero,
    Nat.ofDigitChars_ten_toDigits]

theorem isDigit_of_mem_replicate {k : Nat} {c : Char} (h : c ∈ List.replicate k '0') :
    c.isDigit = true := by
  rw [(List.mem_replicate.1 h).2]
  rfl

/-! ### Texts that start with a digit -/

/-- The text starts with a digit.  Such a text has no sign in front, and is no word. -/
def StartsWithDigit (cs : List Char) : Prop :=
  ∃ c rest, cs = c :: rest ∧ c.isDigit = true

theorem StartsWithDigit.append {xs : List Char} (h : StartsWithDigit xs) (ys : List Char) :
    StartsWithDigit (xs ++ ys) := by
  obtain ⟨c, rest, rfl, hc⟩ := h
  exact ⟨c, rest ++ ys, rfl, hc⟩

theorem startsWithDigit_of_isDigit {cs : List Char} (hne : cs ≠ [])
    (h : ∀ c ∈ cs, c.isDigit = true) : StartsWithDigit cs := by
  obtain ⟨c, rest, rfl⟩ := List.exists_cons_of_ne_nil hne
  exact ⟨c, rest, rfl, h c List.mem_cons_self⟩

theorem StartsWithDigit.ne_nil {cs : List Char} (h : StartsWithDigit cs) : cs ≠ [] := by
  obtain ⟨c, rest, rfl, -⟩ := h
  exact List.cons_ne_nil c rest

theorem StartsWithDigit.ne_cons {cs : List Char} (h : StartsWithDigit cs) {d : Char}
    (hd : d.isDigit = false) (rest : List Char) : cs ≠ d :: rest := by
  obtain ⟨c, others, rfl, hc⟩ := h
  rintro heq
  obtain ⟨rfl, -⟩ := List.cons.inj heq
  rw [hd] at hc
  exact absurd hc (by decide)

/-! ### Padded numbers -/

theorem isDigit_of_mem_padded {width n : Nat} {c : Char} (h : c ∈ padded width n) :
    c.isDigit = true := by
  rcases List.mem_append.1 h with h | h
  · exact isDigit_of_mem_replicate h
  · exact isDigit_of_mem_toDigits h

/-- A number that is small enough is padded to the width.  A larger number keeps all its digits and
is longer. -/
theorem length_padded {width n : Nat} (hwidth : 0 < width) (h : n < 10 ^ width) :
    (padded width n).length = width := by
  have hlen := (Nat.length_toDigits_le_iff (by decide) hwidth).2 h
  rw [padded, List.length_append, List.length_replicate]
  omega

/-- A padded number has its value.  This is so whatever the width is. -/
theorem ofDigitChars_padded (width n : Nat) : Nat.ofDigitChars 10 (padded width n) 0 = n :=
  ofDigitChars_zeros_append _ n

/-! ### Base sixteen -/

/-- A digit of base sixteen has its value, and it is visible and no separator. -/
theorem hexDigit?_digitChar {d : Nat} (h : d < 16) :
    hexDigit? d.digitChar = some d ∧ isGraphic d.digitChar = true ∧ d.digitChar ≠ '_' ∧
      d.digitChar ≠ '-' ∧ d.digitChar ≠ 'x' ∧ d.digitChar ≠ 'X' := by
  revert d
  decide

theorem length_hexPadded (width n : Nat) : (hexPadded width n).length = width := by
  induction width generalizing n with
  | zero => rfl
  | succ width ih => rw [hexPadded, List.length_append, ih, List.length_singleton]

/-- The digits of a number in base sixteen.  They are in lower case. -/
theorem exists_of_mem_hexPadded {width n : Nat} {c : Char} (h : c ∈ hexPadded width n) :
    ∃ d < 16, c = d.digitChar := by
  induction width generalizing n with
  | zero => exact absurd h List.not_mem_nil
  | succ width ih =>
    rcases List.mem_append.1 h with h | h
    · exact ih h
    · exact ⟨n % 16, Nat.mod_lt _ (by decide), List.mem_singleton.1 h⟩

/-- **The digits of a number in base sixteen have its value.**  Here the width is exact, so the
number must fit. -/
theorem hexValue?_hexPadded {width n : Nat} (h : n < 16 ^ width) :
    hexValue? (hexPadded width n) = some n := by
  -- The last digit is the remainder, and the digits before it are those of the quotient.
  induction width generalizing n with
  | zero =>
    obtain rfl : n = 0 := by simpa using h
    rfl
  | succ width ih =>
    have hfront : n / 16 < 16 ^ width := by
      rw [Nat.div_lt_iff_lt_mul (by decide), ← Nat.pow_succ]
      exact h
    have hlast := (hexDigit?_digitChar (Nat.mod_lt n (show 0 < 16 by decide))).1
    have hvalue := ih hfront
    rw [hexValue?] at hvalue
    rw [hexPadded, hexValue?, List.foldl_append, hvalue, List.foldl_cons, List.foldl_nil,
      Option.bind_some, hlast, Option.map_some, Nat.div_add_mod]

end UrlFilter.Text
