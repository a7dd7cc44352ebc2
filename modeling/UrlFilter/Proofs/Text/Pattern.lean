import Mathlib.Data.List.Infix
import UrlFilter.Text.Pattern

namespace UrlFilter.Text.Pattern

/-!
# What a pattern fits

The rules of patterns, one for each kind of character, and what follows from them.

* `Fits` — the text fits the pattern, by recursion on the pattern.
* `fits_append_iff` — a text fits two patterns in a row if it can be cut between them.
* `fits_substring_iff`, `Fits.exists_infix` — a pattern between two `%` fits the texts in which a
  stretch fits it, and a part of a pattern fits a part of each such stretch.
* `matchesAll_iff`, `accepts_iff` — what the two tests of a pattern say in terms of the rules.
-/

variable {same : Char → Char → Bool}

/-- The whole text fits the pattern: `%` stands for any stretch, `_` for any one character, any
other character for one that is the same, and nothing is left over on either side.  There is no way
to ask for the two special characters themselves. -/
inductive Fits (same : Char → Char → Bool) : List Char → List Char → Prop where
  | nil : Fits same [] []
  | stretch (front : List Char) {ps cs : List Char} :
      Fits same ps cs → Fits same ('%' :: ps) (front ++ cs)
  | any (c : Char) {ps cs : List Char} : Fits same ps cs → Fits same ('_' :: ps) (c :: cs)
  | letter {p c : Char} {ps cs : List Char} : p ≠ '%' → p ≠ '_' → same p c = true →
      Fits same ps cs → Fits same (p :: ps) (c :: cs)

/-! ### Rules read backwards -/

theorem fits_nil_iff {cs : List Char} : Fits same [] cs ↔ cs = [] := by
  constructor
  · rintro ⟨⟩
    rfl
  · rintro rfl
    exact .nil

theorem fits_stretch_iff {ps cs : List Char} :
    Fits same ('%' :: ps) cs ↔ ∃ front back, cs = front ++ back ∧ Fits same ps back := by
  constructor
  · intro h
    cases h with
    | stretch front h => exact ⟨front, _, rfl, h⟩
    | letter hne => exact absurd rfl hne
  · rintro ⟨front, back, rfl, h⟩
    exact .stretch front h

/-- Any character but `%` takes one character of the text.  Which one depends on the character
alone, not on what follows. -/
theorem fits_cons_iff {p : Char} (hp : p ≠ '%') {ps cs : List Char} :
    Fits same (p :: ps) cs ↔
      ∃ c back, cs = c :: back ∧ (p = '_' ∨ same p c = true) ∧ Fits same ps back := by
  constructor
  · intro h
    cases h with
    | stretch => exact absurd rfl hp
    | any c h => exact ⟨c, _, rfl, .inl rfl, h⟩
    | letter _ _ hsame h => exact ⟨_, _, rfl, .inr hsame, h⟩
  · rintro ⟨c, back, rfl, hc, h⟩
    by_cases hany : p = '_'
    · subst hany
      exact .any c h
    · exact .letter hp hany (hc.resolve_left hany) h

/-! ### Patterns in a row -/

/-- **A text fits two patterns in a row** exactly if it can be cut into two that fit them.  There
may be several such places. -/
theorem fits_append_iff {ps qs cs : List Char} :
    Fits same (ps ++ qs) cs ↔
      ∃ front back, cs = front ++ back ∧ Fits same ps front ∧ Fits same qs back := by
  -- The first character of the first pattern is taken off, and the cut moves behind what it takes.
  induction ps generalizing cs with
  | nil =>
    constructor
    · exact fun h => ⟨[], cs, rfl, .nil, h⟩
    · rintro ⟨front, back, rfl, hfront, hback⟩
      rwa [fits_nil_iff.1 hfront]
  | cons p ps ih =>
    rw [List.cons_append]
    by_cases hp : p = '%'
    · subst hp
      rw [fits_stretch_iff]
      constructor
      · rintro ⟨skipped, rest, rfl, h⟩
        obtain ⟨front, back, rfl, hfront, hback⟩ := ih.1 h
        exact ⟨skipped ++ front, back, by rw [List.append_assoc], .stretch skipped hfront, hback⟩
      · rintro ⟨front, back, rfl, hfront, hback⟩
        obtain ⟨skipped, rest, rfl, hrest⟩ := fits_stretch_iff.1 hfront
        exact ⟨skipped, rest ++ back, List.append_assoc .., ih.2 ⟨rest, back, rfl, hrest, hback⟩⟩
    · rw [fits_cons_iff hp]
      constructor
      · rintro ⟨c, rest, rfl, hc, h⟩
        obtain ⟨front, back, rfl, hfront, hback⟩ := ih.1 h
        exact ⟨c :: front, back, rfl, (fits_cons_iff hp).2 ⟨c, front, rfl, hc, hfront⟩, hback⟩
      · rintro ⟨front, back, rfl, hfront, hback⟩
        obtain ⟨c, rest, rfl, hc, hrest⟩ := (fits_cons_iff hp).1 hfront
        exact ⟨c, rest ++ back, rfl, hc, ih.2 ⟨rest, back, rfl, hrest, hback⟩⟩

/-- A lone `%` fits every text.  The empty text is one of them. -/
theorem fits_stretch (same : Char → Char → Bool) (cs : List Char) : Fits same ['%'] cs :=
  fits_stretch_iff.2 ⟨cs, [], (List.append_nil cs).symm, .nil⟩

/-- **A pattern between two `%`** fits the texts in which some stretch fits it.  This is the form in
which a search is written. -/
theorem fits_substring_iff {ps cs : List Char} :
    Fits same ('%' :: (ps ++ ['%'])) cs ↔ ∃ part, part <:+: cs ∧ Fits same ps part := by
  rw [fits_stretch_iff]
  constructor
  · rintro ⟨front, rest, rfl, h⟩
    obtain ⟨part, back, rfl, hpart, -⟩ := fits_append_iff.1 h
    exact ⟨part, ⟨front, back, List.append_assoc ..⟩, hpart⟩
  · rintro ⟨part, ⟨front, back, rfl⟩, hpart⟩
    exact ⟨front, part ++ back, List.append_assoc ..,
      fits_append_iff.2 ⟨part, back, rfl, hpart, fits_stretch same back⟩⟩

/-- **A part of a pattern fits a part of each text** that the whole pattern fits, whatever the
characters on either side of it stand for.  So a longer pattern never fits where a part of it fits
nothing. -/
theorem Fits.exists_infix {ps qs cs : List Char} (h : Fits same qs cs) (hpart : ps <:+: qs) :
    ∃ part, part <:+: cs ∧ Fits same ps part := by
  obtain ⟨before, after, rfl⟩ := hpart
  obtain ⟨rest, back, rfl, hrest, -⟩ := fits_append_iff.1 h
  obtain ⟨front, part, rfl, -, hpart⟩ := fits_append_iff.1 hrest
  exact ⟨part, ⟨front, back, rfl⟩, hpart⟩

/-! ### The tests of a pattern -/

/-- **The test of the whole text follows the rules.**  The test tries each place where a stretch may
end. -/
theorem matchesAll_iff {ps cs : List Char} : matchesAll same ps cs = true ↔ Fits same ps cs := by
  -- The test and the rules take the same character of the pattern at a time.
  induction ps generalizing cs with
  | nil => rw [matchesAll, List.isEmpty_iff, fits_nil_iff]
  | cons p ps ih =>
    unfold matchesAll
    by_cases hp : p = '%'
    · subst hp
      -- What is left behind a stretch is a suffix of the text.
      have hsuffix : (∃ back, back <:+ cs ∧ matchesAll same ps back = true)
          ↔ ∃ front back, cs = front ++ back ∧ Fits same ps back := by
        constructor
        · rintro ⟨back, ⟨front, rfl⟩, h⟩
          exact ⟨front, back, rfl, ih.1 h⟩
        · rintro ⟨front, back, rfl, h⟩
          exact ⟨back, List.suffix_append front back, ih.2 h⟩
      rw [if_pos rfl, anySuffix_iff, hsuffix, fits_stretch_iff]
    · rw [if_neg hp, fits_cons_iff hp]
      cases cs with
      | nil => simp
      | cons c cs => simp [ih]

theorem withoutFinalBreak?_eq_some_iff {cs front : List Char} :
    withoutFinalBreak? cs = some front ↔ cs = front ++ ['\n'] := by
  rw [withoutFinalBreak?]
  constructor
  · intro h
    split at h
    · next hlast =>
      obtain ⟨front', rfl⟩ := List.getLast?_eq_some_iff.1 hlast
      rw [← Option.some.inj h, List.dropLast_concat]
    · exact absurd h (by simp)
  · rintro rfl
    rw [if_pos List.getLast?_concat, List.dropLast_concat]

/-- **A pattern is accepted** if it fits the text, or the text without a line break at its end.
Only one line break is overlooked. -/
theorem accepts_iff {ps cs : List Char} :
    accepts same ps cs = true ↔
      Fits same ps cs ∨ ∃ front, cs = front ++ ['\n'] ∧ Fits same ps front := by
  rw [accepts, Bool.or_eq_true, matchesAll_iff, Option.any_eq_true]
  simp only [withoutFinalBreak?_eq_some_iff, matchesAll_iff]

/-- Where a pattern ends with `%`, a line break at the end of the text makes no difference.  The
stretch takes it in. -/
theorem accepts_append_stretch {ps cs : List Char} :
    accepts same (ps ++ ['%']) cs = true ↔ Fits same (ps ++ ['%']) cs := by
  rw [accepts_iff, or_iff_left_iff_imp]
  rintro ⟨front, rfl, h⟩
  obtain ⟨fitted, back, rfl, hfitted, -⟩ := fits_append_iff.1 h
  exact fits_append_iff.2
    ⟨fitted, back ++ ['\n'], List.append_assoc .., hfitted, fits_stretch same _⟩

end UrlFilter.Text.Pattern
