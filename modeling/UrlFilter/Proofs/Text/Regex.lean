import UrlFilter.Proofs.Text.Pattern

namespace UrlFilter.Text

/-!
# Patterns as regular expressions

A pattern is a regular expression between `^` and `$`, and it is accepted where this expression
matches the start of a text.  The `$` also holds in front of a line break that ends the text.

* `Regex` — regular expressions with anchors.
* `Regex.Takes` — the stretches of a text that an expression takes.
* `Regex.MatchesStart` — an expression takes a stretch from the start of a text on.
* `Pattern.regex` — the expression of a pattern.
* `Pattern.matchesStart_regex_iff` — the expression of a pattern matches what the pattern accepts.
-/

/-- Regular expressions with anchors.  These are the only forms that patterns are turned into. -/
inductive Regex where
  /-- `^`, which holds at the start of a text. -/
  | start
  /-- `$`, which holds at the end of a text and in front of a line break there. -/
  | finish
  /-- `.`, which takes any character, line breaks too. -/
  | any
  | letter (c : Char)
  | star (r : Regex)
  | seq (r s : Regex)
  deriving DecidableEq, Repr

namespace Regex

variable {same : Char → Char → Bool}

/-- `Takes same r before part after`: within the text `before ++ part ++ after` the expression can
take `part`, given the characters that count as the same.  What lies on either side matters to the
anchors alone. -/
inductive Takes (same : Char → Char → Bool) :
    Regex → List Char → List Char → List Char → Prop where
  | start (after : List Char) : Takes same start [] [] after
  | finish (before : List Char) : Takes same finish before [] []
  | finalBreak (before : List Char) : Takes same finish before [] ['\n']
  | any (c : Char) (before after : List Char) : Takes same any before [c] after
  | letter {p c : Char} (before after : List Char) : same p c = true →
      Takes same (letter p) before [c] after
  | starNone (r : Regex) (before after : List Char) : Takes same (star r) before [] after
  | starMore {r : Regex} {before part more after : List Char} :
      Takes same r before part (more ++ after) →
      Takes same (star r) (before ++ part) more after →
      Takes same (star r) before (part ++ more) after
  | seq {r s : Regex} {before part more after : List Char} :
      Takes same r before part (more ++ after) → Takes same s (before ++ part) more after →
      Takes same (seq r s) before (part ++ more) after

/-- The expression takes some stretch from the start of the text on.  It need not take all of the
text. -/
def MatchesStart (same : Char → Char → Bool) (r : Regex) (text : List Char) : Prop :=
  ∃ part after, text = part ++ after ∧ Takes same r [] part after

theorem takes_finish_iff {before part after : List Char} :
    Takes same finish before part after ↔ part = [] ∧ (after = [] ∨ after = ['\n']) := by
  constructor
  · rintro (_ | _ | _)
    · exact ⟨rfl, .inl rfl⟩
    · exact ⟨rfl, .inr rfl⟩
  · rintro ⟨rfl, rfl | rfl⟩
    · exact .finish before
    · exact .finalBreak before

theorem takes_seq_iff {r s : Regex} {before taken after : List Char} :
    Takes same (seq r s) before taken after ↔
      ∃ part more, taken = part ++ more ∧ Takes same r before part (more ++ after) ∧
        Takes same s (before ++ part) more after := by
  constructor
  · intro h
    cases h with
    | seq hr hs => exact ⟨_, _, rfl, hr, hs⟩
  · rintro ⟨part, more, rfl, hr, hs⟩
    exact .seq hr hs

/-- `.*` takes any stretch.  It takes no stretch as well, and a line break in between. -/
theorem takes_star_any (before part after : List Char) :
    Takes same (star any) before part after := by
  -- The star takes one character after another.
  induction part generalizing before with
  | nil => exact .starNone _ before after
  | cons c part ih =>
    show Takes same (star any) before ([c] ++ part) after
    exact .starMore (.any c before _) (ih _)

end Regex

namespace Pattern

open Regex

variable {same : Char → Char → Bool}

/-- The expression of one character of a pattern.  No other character has a meaning of its own. -/
def step (p : Char) : Regex :=
  if p = '%' then star any else if p = '_' then any else letter p

/-- The expressions of the characters in a row, up to the end of the text.  The anchor at the end
stands for an empty pattern. -/
def steps : List Char → Regex
  | [] => finish
  | p :: ps => seq (step p) (steps ps)

/-- The expression of a pattern, from the start of the text to its end.  Without the anchor at the
start a match could begin anywhere. -/
def regex (ps : List Char) : Regex :=
  seq start (steps ps)

/-- A character other than `%` takes one character of the text.  Nothing depends on what stands
before or behind it. -/
theorem takes_step_iff {p : Char} (hp : p ≠ '%') {before part after : List Char} :
    Takes same (step p) before part after ↔ ∃ c, part = [c] ∧ (p = '_' ∨ same p c = true) := by
  rw [step, if_neg hp]
  by_cases hany : p = '_'
  · rw [if_pos hany]
    constructor
    · rintro ⟨⟩
      exact ⟨_, rfl, .inl hany⟩
    · rintro ⟨c, rfl, -⟩
      exact .any c before after
  · rw [if_neg hany]
    constructor
    · intro h
      cases h with
      | letter _ _ hsame => exact ⟨_, rfl, .inr hsame⟩
    · rintro ⟨c, rfl, hc⟩
      exact .letter before after (hc.resolve_left hany)

/-- The expressions of a pattern take what fits it, up to the end of the text or to a line break
there.  In front of the line break the expressions stop, so it is not among what they take. -/
theorem takes_steps_iff {ps before part after : List Char} :
    Takes same (steps ps) before part after ↔
      Fits same ps part ∧ (after = [] ∨ after = ['\n']) := by
  -- One character of the pattern is one expression in the row.
  induction ps generalizing before part with
  | nil => rw [steps, takes_finish_iff, fits_nil_iff]
  | cons p ps ih =>
    rw [steps, takes_seq_iff]
    simp only [ih]
    by_cases hp : p = '%'
    · subst hp
      rw [fits_stretch_iff]
      constructor
      · rintro ⟨front, back, rfl, -, h, hafter⟩
        exact ⟨⟨front, back, rfl, h⟩, hafter⟩
      · rintro ⟨⟨front, back, rfl, h⟩, hafter⟩
        exact ⟨front, back, rfl, takes_star_any before front _, h, hafter⟩
    · rw [fits_cons_iff hp]
      simp only [takes_step_iff hp]
      constructor
      · rintro ⟨-, back, rfl, ⟨c, rfl, hc⟩, h, hafter⟩
        exact ⟨⟨c, back, rfl, hc, h⟩, hafter⟩
      · rintro ⟨⟨c, back, rfl, hc, h⟩, hafter⟩
        exact ⟨[c], back, rfl, ⟨c, rfl, hc⟩, h, hafter⟩

/-- **The expression of a pattern matches what the pattern accepts.**  This is what makes the test
of a pattern that of its expression. -/
theorem matchesStart_regex_iff {ps text : List Char} :
    (regex ps).MatchesStart same text ↔ accepts same ps text = true := by
  have hstart : ∀ part after : List Char, Takes same (regex ps) [] part after ↔
      Fits same ps part ∧ (after = [] ∨ after = ['\n']) := by
    intro part after
    rw [regex, takes_seq_iff]
    constructor
    · rintro ⟨_, more, rfl, ⟨⟩, h⟩
      exact takes_steps_iff.1 h
    · intro h
      exact ⟨[], part, rfl, .start _, takes_steps_iff.2 h⟩
  rw [MatchesStart, accepts_iff]
  simp only [hstart]
  constructor
  · -- A match ends at the end of the text, or in front of a line break there.
    rintro ⟨part, after, rfl, h, rfl | rfl⟩
    · exact .inl (by rwa [List.append_nil])
    · exact .inr ⟨part, rfl, h⟩
  · rintro (h | ⟨front, rfl, h⟩)
    · exact ⟨text, [], (List.append_nil text).symm, h, .inl rfl⟩
    · exact ⟨front, ['\n'], rfl, h, .inr rfl⟩

end Pattern

end UrlFilter.Text
