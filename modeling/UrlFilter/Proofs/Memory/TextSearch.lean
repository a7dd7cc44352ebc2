import UrlFilter.Memory.Evaluate
import UrlFilter.Proofs.Text.Words

namespace UrlFilter.Memory

open UrlFilter.Text

/-!
# Text searches

Of the three ways to look for words in a text, the search for terms is the least strict: it finds
what the other two find.  The search for a phrase does not look where the words of the text start
and end, so that it may find what the search for words does not.

* `TextSearch.asWords_iff`, `TextSearch.asPhrase_iff` — what is found as words and as a phrase.
* `TextSearch.anywhere_of_parts` — what is found at least as terms.
* `searches_by_strictness` — what each search says about the others.
-/

namespace TextSearch

variable {text query : List Char}

theorem asWords_iff : asWords text query = true ↔ ∀ q ∈ words query, q ∈ words text := by
  simp [asWords]

/-- **A phrase is found where its words are side by side,** though the words of the text may go on
in front of it and behind it.  Blanks of any number between its words count as one. -/
theorem asPhrase_iff : asPhrase text query = true ↔ SideBySide (words query) (words text) := by
  rw [asPhrase, occursIn_iff]
  exact infix_spaced_iff (fun _ => isWord_of_mem_words) fun _ => isWord_of_mem_words

/-- A blank separates terms.  Signs such as bars and brackets separate them as well. -/
theorem not_isBlank_of_not_separatesTerms {c : Char} (h : separatesTerms c = false) :
    isBlank c = false := by
  cases hc : isBlank c with
  | false => rfl
  | true => simp [separatesTerms, hc] at h

/-- A term lies in one of the words.  It may be all of the word, or a part between two signs. -/
theorem exists_word_of_mem_terms {term : List Char} (h : term ∈ terms query) :
    ∃ q ∈ words query, term <:+: q := by
  obtain ⟨hcut, hne⟩ := List.mem_filter.1 h
  refine exists_mem_words_of_infix (infix_of_mem_cut hcut) ⟨by simpa using hne, fun c hc => ?_⟩
  exact not_isBlank_of_not_separatesTerms (not_of_mem_cut hcut c hc)

/-- If each word is part of one of the text, each term occurs.  Nothing is said about where in the
text they occur. -/
theorem anywhere_of_parts (h : ∀ q ∈ words query, ∃ w ∈ words text, q <:+: w) :
    anywhere text query = true := by
  rw [anywhere, List.all_eq_true]
  intro term hterm
  -- A term is part of a word of the query, and this is part of a word of the text.
  obtain ⟨q, hq, hin⟩ := exists_word_of_mem_terms hterm
  obtain ⟨w, hw, hqw⟩ := h q hq
  have hwtext : w <:+: text := infix_of_mem_cut (mem_words_iff.1 hw).1
  exact occursIn_iff.2 (hin.trans (hqw.trans hwtext))

theorem anywhere_of_asWords (h : asWords text query = true) : anywhere text query = true :=
  anywhere_of_parts fun q hq => ⟨q, asWords_iff.1 h q hq, List.infix_rfl⟩

theorem anywhere_of_asPhrase (h : asPhrase text query = true) : anywhere text query = true :=
  anywhere_of_parts fun _ hq => (asPhrase_iff.1 h).exists_mem hq

/-- A phrase that is found is found as words if its first and its last word are words. -/
theorem asWords_iff_of_asPhrase (h : asPhrase text query = true) :
    asWords text query = true ↔
      ∀ q, (words query).head? = some q ∨ (words query).getLast? = some q → q ∈ words text :=
  asWords_iff.trans (asPhrase_iff.1 h).forall_mem_iff

end TextSearch

/-- The words of a value, where case does not count.  The absent value has the words of its text,
but no search finds it. -/
def lowerWords (v : Value) : List (List Char) :=
  words (lower v.shown.toList)

/-- **What each search says about the others.**  The three have an answer for the same values: for
all but those with an integer that is too long to be written, so for all texts.  What is found as
words or as a phrase is found as terms.  What is found as a phrase is found as words exactly if the
first and the last word of the phrase are words of the text, since only these two can be cut off
from longer ones. -/
theorem searches_by_strictness (v query : Value) :
    ∃ phrase plain anywhere, holds .phraseSearch v query = ofTexts v query phrase ∧
      holds .plainSearch v query = ofTexts v query plain ∧
      holds .search v query = ofTexts v query anywhere ∧
      (plain = true → anywhere = true) ∧ (phrase = true → anywhere = true) ∧
      (phrase = true ↔ v.isNull = false ∧ SideBySide (lowerWords query) (lowerWords v)) ∧
      (plain = true ↔ v.isNull = false ∧ ∀ q ∈ lowerWords query, q ∈ lowerWords v) ∧
      (phrase = true → (plain = true ↔ ∀ q, (lowerWords query).head? = some q ∨
        (lowerWords query).getLast? = some q → q ∈ lowerWords v)) := by
  refine ⟨_, _, _, rfl, rfl, rfl, ?_⟩
  -- The absent value is found by none of the three.
  cases hnull : v.isNull with
  | true => simp [finds, hnull]
  | false =>
    have hfinds : ∀ search, finds search v query
        = search (lower v.shown.toList) (lower query.shown.toList) := by
      intro search
      rw [finds, hnull, Bool.not_false, Bool.true_and]
    rw [hfinds, hfinds, hfinds]
    simp only [true_and]
    exact ⟨TextSearch.anywhere_of_asWords, TextSearch.anywhere_of_asPhrase, TextSearch.asPhrase_iff,
      TextSearch.asWords_iff, TextSearch.asWords_iff_of_asPhrase⟩

example : holds .phraseSearch (.text "foobar baz") (.text "bar baz") = .ok true ∧
    holds .plainSearch (.text "foobar baz") (.text "bar baz") = .ok false :=
  ⟨by rfl, by rfl⟩

end UrlFilter.Memory
