import Mathlib.Algebra.GroupWithZero.Nat
import UrlFilter.Proofs.Text.Digit
import UrlFilter.Uuid

namespace UrlFilter.Uuid

open UrlFilter.Text

/-!
# Written identifiers

* `filter_grouped` — without the hyphens, groups are the digits again.
* `removeWord_of_not_mem` — a text without a character of a word does not hold the word.
* `readHex?_hexPadded` — the digits of an identifier have its value.
* `read?_text` — an identifier comes back from its text.
-/

/-! ### Hyphens -/

/-- **Without the hyphens, groups are the digits again.**  The last group takes whatever is left, so
the sizes must add up. -/
theorem filter_grouped {sizes : List Nat} (hne : sizes ≠ []) {digits : List Char}
    (hlen : digits.length = sizes.sum) (h : '-' ∉ digits) :
    (grouped sizes digits).filter (· != '-') = digits := by
  -- Each group but the last one is followed by a hyphen, which is dropped again.
  induction sizes generalizing digits with
  | nil => exact absurd rfl hne
  | cons n sizes ih =>
    have hkeep : ∀ part : List Char, part ⊆ digits → part.filter (· != '-') = part := by
      intro part hpart
      rw [List.filter_eq_self]
      intro c hc
      rw [bne_iff_ne]
      rintro rfl
      exact h (hpart hc)
    cases sizes with
    | nil =>
      rw [grouped, List.take_of_length_le (by simp [hlen])]
      exact hkeep digits (List.Subset.refl _)
    | cons m sizes =>
      have hlen' : (digits.drop n).length = (m :: sizes).sum := by
        rw [List.length_drop, hlen, List.sum_cons, Nat.add_sub_cancel_left]
      have hrest := ih (List.cons_ne_nil m sizes) hlen' fun hmem => h (List.mem_of_mem_drop hmem)
      rw [grouped, List.filter_append, List.filter_cons_of_neg (by simp), hrest,
        hkeep _ (List.take_subset n digits), List.take_append_drop]
      exact List.cons_ne_nil m sizes

/-- The characters of groups are hyphens and digits.  So what holds of hyphens and of digits holds
of the whole text. -/
theorem mem_of_mem_grouped {sizes : List Nat} {digits : List Char} {c : Char}
    (h : c ∈ grouped sizes digits) : c = '-' ∨ c ∈ digits := by
  -- The characters are those of the first group, its hyphen, or those of the other groups.
  induction sizes generalizing digits with
  | nil => exact absurd h List.not_mem_nil
  | cons n sizes ih =>
    cases sizes with
    | nil => exact .inr (List.mem_of_mem_take h)
    | cons m sizes =>
      rw [grouped, List.mem_append, List.mem_cons] at h
      · rcases h with h | h | h
        · exact .inr (List.mem_of_mem_take h)
        · exact .inl h
        · exact (ih h).imp_right List.mem_of_mem_drop
      · exact List.cons_ne_nil m sizes

/-! ### Words -/

/-- **A text without a character of a word does not hold the word.**  The prefixes of identifiers
hold a colon, which no written identifier does. -/
theorem removeWord_of_not_mem {word cs : List Char} {d : Char} (hword : d ∈ word) (h : d ∉ cs) :
    removeWord word 0 cs = cs := by
  induction cs with
  | nil => rfl
  | cons c cs ih =>
    have hprefix : word.isPrefixOf (c :: cs) = false := by
      rw [Bool.eq_false_iff]
      intro hpre
      exact h ((List.isPrefixOf_iff_prefix.1 hpre).subset hword)
    rw [removeWord, hprefix, if_neg Bool.false_ne_true,
      ih fun hmem => h (List.mem_cons_of_mem c hmem)]

/-! ### Digits -/

variable {width n : Nat}

theorem graphic_hexPadded : Graphic (hexPadded width n) := by
  intro c hc
  obtain ⟨d, hd, rfl⟩ := exists_of_mem_hexPadded hc
  exact (hexDigit?_digitChar hd).2.1

/-- The marks that a reader looks for are no digits.  The underscore separates digits and the
letters mark base sixteen. -/
theorem not_mem_hexPadded {c : Char} (h : c = '_' ∨ c = '-' ∨ c = 'x' ∨ c = 'X') :
    c ∉ hexPadded width n := by
  intro hc
  obtain ⟨d, hd, rfl⟩ := exists_of_mem_hexPadded hc
  obtain ⟨-, -, hscore, hhyphen, hlower, hupper⟩ := hexDigit?_digitChar hd
  tauto

/-- Digits without the letter of the mark have no mark in front of them. -/
theorem dropHexMark_of_not_mem {cs : List Char} (hlower : 'x' ∉ cs) (hupper : 'X' ∉ cs) :
    dropHexMark cs = cs := by
  unfold dropHexMark
  split
  · next x rest =>
    rw [if_neg]
    rintro (rfl | rfl)
    · exact hlower (by simp)
    · exact hupper (by simp)
  · rfl

/-- **The digits of a number are read as that number.**  Zeros in front fill up the width and do not
change the value. -/
theorem readHex?_hexPadded (hwidth : 0 < width) (h : n < 16 ^ width) :
    readHex? (hexPadded width n) = some n := by
  have hwhite : ∀ c ∈ hexPadded width n, isWhiteSpace c = false := by
    intro c hc
    have hblank := not_isBlank_of_isGraphic (graphic_hexPadded c hc)
    rw [isBlank, Bool.or_eq_false_iff] at hblank
    exact hblank.1
  have hinner : dropEndWhile isWhiteSpace ((hexPadded width n).dropWhile isWhiteSpace)
      = hexPadded width n := dropBoth_of_forall hwhite
  have hne : hexPadded width n ≠ [] := by
    rw [← List.length_pos_iff, length_hexPadded]
    exact hwidth
  -- A plus in front would be dropped, but it is no digit.
  have hplus : ∀ rest, hexPadded width n ≠ '+' :: rest := by
    intro rest heq
    have hmem : '+' ∈ hexPadded width n := by simp [heq]
    obtain ⟨d, hd, hplus⟩ := exists_of_mem_hexPadded hmem
    have hvalue := (hexDigit?_digitChar hd).1
    have hnone : hexDigit? '+' = none := rfl
    rw [← hplus, hnone] at hvalue
    exact absurd hvalue (by simp)
  unfold readHex?
  simp only [hinner, toAsciiDigits_of_graphic graphic_hexPadded]
  rw [dropHexMark_of_not_mem (not_mem_hexPadded (by simp)) (not_mem_hexPadded (by simp)),
    withoutSeparators?_of_not_mem (not_mem_hexPadded (by simp))]
  simp [hne, hexValue?_hexPadded h]

/-! ### Texts -/

/-- The characters of a written identifier.  Only digits in lower case are written. -/
theorem exists_of_mem_text {u : Uuid} {c : Char} (h : c ∈ u.text) :
    c = '-' ∨ ∃ d < 16, c = d.digitChar :=
  (mem_of_mem_grouped h).imp_right exists_of_mem_hexPadded

theorem graphic_text (u : Uuid) : Graphic u.text := by
  intro c hc
  rcases exists_of_mem_text hc with rfl | ⟨d, hd, rfl⟩
  · decide
  · exact (hexDigit?_digitChar hd).2.1

/-- **An identifier comes back from its text.**  Other texts of the same identifier are read as
well, with braces, with a prefix or in capitals. -/
theorem read?_text (u : Uuid) : read? u.text = some u := by
  have hdigit : ∀ d < 16, d.digitChar ≠ ':' ∧ isBrace d.digitChar = false := by decide
  have hcolon : ':' ∉ u.text := by
    intro hc
    rcases exists_of_mem_text hc with h | ⟨d, hd, h⟩
    · exact absurd h (by decide)
    · exact (hdigit d hd).1 h.symm
  have hbrace : ∀ c ∈ u.text, isBrace c = false := by
    intro c hc
    rcases exists_of_mem_text hc with rfl | ⟨d, hd, rfl⟩
    · rfl
    · exact (hdigit d hd).2
  -- Neither a prefix nor braces are written, and the hyphens are all that is dropped.
  have hbare : removeWord "uuid:".toList 0 (removeWord "urn:".toList 0 u.text) = u.text := by
    rw [removeWord_of_not_mem (d := ':') (by decide) hcolon,
      removeWord_of_not_mem (d := ':') (by decide) hcolon]
  have hinner : dropEndWhile isBrace (u.text.dropWhile isBrace) = u.text :=
    dropBoth_of_forall hbrace
  have hfilter : u.text.filter (· != '-') = hexPadded 32 u.value :=
    filter_grouped (by simp) (by rw [length_hexPadded]; rfl) (not_mem_hexPadded (by simp))
  have hvalue : u.value < 16 ^ 32 := u.value_lt
  rw [read?]
  simp only [hbare, hinner, hfilter, length_hexPadded, if_true,
    readHex?_hexPadded (show 0 < 32 by decide) hvalue, Option.bind_eq_bind, Option.bind_some,
    of?_self]

end UrlFilter.Uuid
