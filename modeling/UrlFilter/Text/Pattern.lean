namespace UrlFilter.Text

/-!
# Text patterns

Patterns in which `%` stands for any text and `_` for any one character.

* `Pattern.matchesAll` — the whole text fits the pattern.
* `Pattern.accepts` — the text fits, or it does so without a line break at its end.
* `occursIn` — a text occurs in another.

The first two take the test that tells whether a letter of the pattern and a letter of the text are
the same, so that one definition serves searches that respect case and searches that do not.
-/

/-- Some suffix of the text, the text itself and the empty one included, satisfies `p`.  They are
tried from the longest to the shortest. -/
def anySuffix (p : List Char → Bool) : List Char → Bool
  | [] => p []
  | c :: cs => p (c :: cs) || anySuffix p cs

theorem anySuffix_iff {p : List Char → Bool} {cs : List Char} :
    anySuffix p cs = true ↔ ∃ s, s <:+ cs ∧ p s = true := by
  induction cs with
  | nil => simp [anySuffix]
  | cons c cs ih =>
    rw [anySuffix, Bool.or_eq_true, ih]
    constructor
    · rintro (h | ⟨s, hs, h⟩)
      · exact ⟨_, List.suffix_refl _, h⟩
      · exact ⟨s, hs.trans (List.suffix_cons _ _), h⟩
    · rintro ⟨s, hs, h⟩
      rcases List.suffix_cons_iff.1 hs with rfl | hs
      · exact .inl h
      · exact .inr ⟨s, hs, h⟩

/-- The first text occurs in the second.  The empty text occurs in every text. -/
def occursIn (part whole : List Char) : Bool :=
  anySuffix part.isPrefixOf whole

theorem occursIn_iff {part whole : List Char} : occursIn part whole = true ↔ part <:+: whole := by
  simp only [occursIn, anySuffix_iff, List.isPrefixOf_iff_prefix]
  rw [List.infix_iff_prefix_suffix]
  exact ⟨fun ⟨s, hs, h⟩ => ⟨s, h, hs⟩, fun ⟨s, h, hs⟩ => ⟨s, hs, h⟩⟩

namespace Pattern

/-- The whole text fits the pattern: `%` takes any stretch of it, `_` one character, and any other
character one that is the same.  There is no way to write a `%` that stands for itself. -/
def matchesAll (same : Char → Char → Bool) : List Char → List Char → Bool
  | [], cs => cs.isEmpty
  | p :: ps, cs =>
    if p = '%' then anySuffix (matchesAll same ps) cs
    else
      match cs with
      | [] => false
      | c :: cs => (p = '_' || same p c) && matchesAll same ps cs

/-- The text without one line break at its end, if there is one.  Only one break is taken off. -/
def withoutFinalBreak? (cs : List Char) : Option (List Char) :=
  if cs.getLast? = some '\n' then some cs.dropLast else none

/-- The pattern fits the whole text, or all of it but a line break at its end.  With a pattern that
ends in `%` this makes no difference. -/
def accepts (same : Char → Char → Bool) (pattern text : List Char) : Bool :=
  matchesAll same pattern text || (withoutFinalBreak? text).any (matchesAll same pattern)

end Pattern

end UrlFilter.Text
