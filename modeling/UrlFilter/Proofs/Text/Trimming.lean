import Mathlib.Data.List.DropRight
import UrlFilter.Text.Blank

namespace UrlFilter.Text

/-!
# Trimming and cutting

What trimming leaves of a text, and where a text is cut.

* `trim_eq_self_iff` — a text is trimmed if it neither starts nor ends with a blank.
* `exists_blanks_around_trim` — trimming takes nothing but blanks, and only from the ends.
* `trim_between` — trimming takes the blanks around a text.
* `splitFirst_append`, `cut_append` — a text is cut in front of the first separator.
* `cut_intercalate` — what is joined by a separator is cut apart there.
-/

/-! ### Dropping from the end -/

theorem dropEndWhile_concat (p : Char → Bool) (cs : List Char) (c : Char) :
    dropEndWhile p (cs ++ [c]) = if p c then dropEndWhile p cs else cs ++ [c] := by
  induction cs with
  | nil => simp [dropEndWhile]
  | cons d cs ih =>
    rw [List.cons_append, dropEndWhile, ih]
    by_cases hc : p c
    · rw [if_pos hc, if_pos hc, dropEndWhile]
    · rw [if_neg hc, if_neg hc]
      cases cs <;> rfl

/-- Dropping from the end is dropping from the front of the reversed list.  So the lemmas on
reversed lists apply to it. -/
theorem dropEndWhile_eq_rdropWhile (p : Char → Bool) (cs : List Char) :
    dropEndWhile p cs = cs.rdropWhile p := by
  induction cs using List.reverseRecOn with
  | nil => rfl
  | append_singleton cs c ih => rw [dropEndWhile_concat, List.rdropWhile_concat, ih]

theorem dropEndWhile_eq_self_iff {p : Char → Bool} {cs : List Char} :
    dropEndWhile p cs = cs ↔ ∀ c ∈ cs.getLast?, p c = false := by
  rw [dropEndWhile_eq_rdropWhile, List.rdropWhile_eq_self_iff]
  constructor
  · intro h c hc
    obtain ⟨hne, rfl⟩ := List.mem_getLast?_eq_getLast hc
    simpa using h hne
  · intro h hne
    simpa using h _ (List.getLast_mem_getLast? hne)

/-- The last character that is left does not satisfy the test.  Nothing more would be dropped after
it. -/
theorem not_of_mem_getLast?_dropEndWhile {p : Char → Bool} {cs : List Char} :
    ∀ c ∈ (dropEndWhile p cs).getLast?, p c = false := by
  rw [← dropEndWhile_eq_self_iff, dropEndWhile_eq_rdropWhile, dropEndWhile_eq_rdropWhile,
    List.rdropWhile_idempotent]

/-- What is dropped from the end satisfies the test.  It is what follows the text that is left. -/
theorem exists_eq_dropEndWhile_append (p : Char → Bool) (cs : List Char) :
    ∃ after, cs = dropEndWhile p cs ++ after ∧ ∀ c ∈ after, p c = true := by
  refine ⟨cs.rtakeWhile p, ?_, fun c hc => List.mem_rtakeWhile_imp hc⟩
  rw [dropEndWhile_eq_rdropWhile, List.rdropWhile_append_rtakeWhile]

theorem head?_dropEndWhile {p : Char → Bool} {cs : List Char} (h : dropEndWhile p cs ≠ []) :
    (dropEndWhile p cs).head? = cs.head? := by
  obtain ⟨after, he, -⟩ := exists_eq_dropEndWhile_append p cs
  conv_rhs => rw [he]
  rw [List.head?_append_of_ne_nil _ h]

/-- A character that is not dropped keeps everything in front of it.  Behind it, the end is dropped
as before. -/
theorem dropEndWhile_append_cons {p : Char → Bool} {d : Char} (hd : p d = false)
    (front back : List Char) :
    dropEndWhile p (front ++ d :: back) = front ++ d :: dropEndWhile p back := by
  induction front with
  | nil =>
    rw [List.nil_append, List.nil_append, dropEndWhile]
    cases dropEndWhile p back <;> simp [hd]
  | cons c front ih =>
    rw [List.cons_append, dropEndWhile, ih]
    cases front <;> rfl

/-! ### Dropping from both ends -/

/-- What is left between two droppings does not start with a character that is dropped.  If
something is left, dropping from the end does not reach the front. -/
theorem not_of_mem_head?_dropBoth {p : Char → Bool} {cs : List Char} :
    ∀ c ∈ (dropEndWhile p (cs.dropWhile p)).head?, p c = false := by
  intro c hc
  have hne : dropEndWhile p (cs.dropWhile p) ≠ [] := by
    rintro h
    simp [h] at hc
  rw [head?_dropEndWhile hne] at hc
  have h := List.head?_dropWhile_not p cs
  rw [Option.mem_def.1 hc] at h
  simpa using h

/-- A text stays as it is if neither of its ends is dropped.  A text without characters stays as it
is, too. -/
theorem dropBoth_eq_self_iff {p : Char → Bool} {cs : List Char} :
    dropEndWhile p (cs.dropWhile p) = cs
      ↔ (∀ c ∈ cs.head?, p c = false) ∧ ∀ c ∈ cs.getLast?, p c = false := by
  -- What is left never has such ends, and without them nothing is dropped.
  constructor
  · intro h
    -- What is left between two droppings is the text itself, so its ends are not dropped.
    rw [← h]
    exact ⟨not_of_mem_head?_dropBoth, not_of_mem_getLast?_dropEndWhile⟩
  · rintro ⟨hhead, hlast⟩
    have hdrop : cs.dropWhile p = cs := by
      cases cs with
      | nil => rfl
      | cons c cs => rw [List.dropWhile_cons_of_neg (by simp [hhead c rfl])]
    rw [hdrop, dropEndWhile_eq_self_iff]
    exact hlast

theorem dropBoth_dropBoth (p : Char → Bool) (cs : List Char) :
    dropEndWhile p ((dropEndWhile p (cs.dropWhile p)).dropWhile p)
      = dropEndWhile p (cs.dropWhile p) :=
  dropBoth_eq_self_iff.2 ⟨not_of_mem_head?_dropBoth, not_of_mem_getLast?_dropEndWhile⟩

/-- Where no character is dropped, none is dropped from the ends.  Blanks inside would not matter
either. -/
theorem dropBoth_of_forall {p : Char → Bool} {cs : List Char} (h : ∀ c ∈ cs, p c = false) :
    dropEndWhile p (cs.dropWhile p) = cs :=
  dropBoth_eq_self_iff.2
    ⟨fun c hc => h c (List.mem_of_mem_head? hc), fun c hc => h c (List.mem_of_mem_getLast? hc)⟩

/-! ### Trimming -/

/-- **Trimming takes nothing but blanks, and only from the ends.**  A text of blanks alone leaves
nothing between them. -/
theorem exists_blanks_around_trim (cs : List Char) :
    ∃ before after, cs = before ++ trim cs ++ after ∧
      (∀ c ∈ before, isBlank c = true) ∧ ∀ c ∈ after, isBlank c = true := by
  obtain ⟨after, he, hafter⟩ := exists_eq_dropEndWhile_append isBlank (cs.dropWhile isBlank)
  -- The front is what is taken before the first other character.
  refine ⟨cs.takeWhile isBlank, after, ?_, fun c hc => List.mem_takeWhile_imp hc, hafter⟩
  rw [List.append_assoc, trim, ← he, List.takeWhile_append_dropWhile]

/-- **A text is trimmed if it neither starts nor ends with a blank.**  Blanks inside it are kept. -/
theorem trim_eq_self_iff {cs : List Char} :
    trim cs = cs ↔ (∀ c ∈ cs.head?, isBlank c = false) ∧ ∀ c ∈ cs.getLast?, isBlank c = false :=
  dropBoth_eq_self_iff

@[simp] theorem trim_trim (cs : List Char) : trim (trim cs) = trim cs :=
  dropBoth_dropBoth isBlank cs

/-- A text between two characters that are no blanks is trimmed.  What stands between them may be
anything. -/
theorem trim_cons_concat {c d : Char} (hc : isBlank c = false) (hd : isBlank d = false)
    (cs : List Char) : trim (c :: cs ++ [d]) = c :: cs ++ [d] := by
  refine trim_eq_self_iff.2 ⟨?_, ?_⟩
  · intro e he
    obtain rfl : c = e := by simpa using he
    exact hc
  · intro e he
    obtain rfl : d = e := by
      rw [List.getLast?_concat] at he
      simpa using he
    exact hd

/-- Trimming a text that starts with no blank takes blanks from behind it only.  The character in
between holds back the trimming. -/
theorem trim_append_cons_of_head {front : List Char} (hhead : ∀ c ∈ front.head?, isBlank c = false)
    {d : Char} (hd : isBlank d = false) (back : List Char) :
    trim (front ++ d :: back) = front ++ d :: dropEndWhile isBlank back := by
  have hfront : (front ++ d :: back).dropWhile isBlank = front ++ d :: back := by
    cases front with
    | nil => exact List.dropWhile_cons_of_neg (by simp [hd])
    | cons c cs => exact List.dropWhile_cons_of_neg (by simp [hhead c rfl])
  rw [trim, hfront, dropEndWhile_append_cons hd]

/-- Trimming a text whose front is trimmed takes blanks from behind it only.  The front may be
empty. -/
theorem trim_append_cons {front : List Char} (ht : trim front = front) {d : Char}
    (hd : isBlank d = false) (back : List Char) :
    trim (front ++ d :: back) = front ++ d :: dropEndWhile isBlank back :=
  trim_append_cons_of_head (trim_eq_self_iff.1 ht).1 hd back

/-- Where no blank stands at the end, trimming takes blanks from the front only.  A text of blanks
alone is excluded, as it ends with one. -/
theorem trim_eq_dropWhile {cs : List Char} (h : ∀ c ∈ cs.getLast?, isBlank c = false) :
    trim cs = cs.dropWhile isBlank := by
  refine dropEndWhile_eq_self_iff.2 fun c hc => h c ?_
  have hne : cs.dropWhile isBlank ≠ [] := by
    rintro hnil
    simp [hnil] at hc
  rwa [← List.takeWhile_append_dropWhile (p := isBlank) (l := cs),
    List.getLast?_append_of_ne_nil _ hne]

/-- Trimming takes the blanks around a text that neither starts nor ends with one.  The text must
not be empty, or else the blanks would meet. -/
theorem trim_between {before cs after : List Char} (hbefore : ∀ c ∈ before, isBlank c = true)
    (ht : trim cs = cs) (hne : cs ≠ []) (hafter : ∀ c ∈ after, isBlank c = true) :
    trim (before ++ cs ++ after) = cs := by
  obtain ⟨hhead, hlast⟩ := trim_eq_self_iff.1 ht
  have hfront : (before ++ cs ++ after).dropWhile isBlank = cs ++ after := by
    obtain ⟨c, cs, rfl⟩ := List.exists_cons_of_ne_nil hne
    have hc : isBlank c = false := hhead c rfl
    rw [List.append_assoc, List.dropWhile_append_of_pos hbefore, List.cons_append,
      List.dropWhile_cons_of_neg (by simp [hc])]
  -- At the end the blanks are dropped first when the list is reversed.
  have hback : dropEndWhile isBlank (cs ++ after) = dropEndWhile isBlank cs := by
    rw [dropEndWhile_eq_rdropWhile, dropEndWhile_eq_rdropWhile, List.rdropWhile,
      List.reverse_append, List.dropWhile_append_of_pos (by simpa using hafter), List.rdropWhile]
  rw [trim, hfront, hback, dropEndWhile_eq_self_iff.2 hlast]

/-- A text of which nothing is left has blanks only.  This includes the empty text. -/
theorem trim_eq_nil_iff {cs : List Char} : trim cs = [] ↔ ∀ c ∈ cs, isBlank c = true := by
  constructor
  · intro h
    obtain ⟨before, after, he, hbefore, hafter⟩ := exists_blanks_around_trim cs
    rw [h, List.append_nil] at he
    rw [he]
    exact List.forall_mem_append.2 ⟨hbefore, hafter⟩
  · intro h
    rw [trim, List.dropWhile_eq_nil_iff.2 h, dropEndWhile_nil]

/-! ### Cutting -/

/-- What stands in front of a separator starts with any start of the text that does not hold it.
The separator is the first one that is looked for. -/
theorem exists_eq_append_of_not_mem {sep : Char} {before after start rest : List Char}
    (h : before ++ sep :: after = start ++ rest) (hsep : sep ∉ start) :
    ∃ more, before = start ++ more := by
  rcases List.append_eq_append_iff.1 h with ⟨more, hstart, hrest⟩ | ⟨more, hbefore, -⟩
  · cases more with
    | nil => exact ⟨[], by rw [hstart, List.append_nil, List.append_nil]⟩
    -- Here the separator would be the character at which the start goes on.
    | cons c more =>
      obtain ⟨rfl, -⟩ := List.cons_eq_cons.1 hrest
      exact absurd (hstart ▸ by simp) hsep
  · exact ⟨more, hbefore⟩

/-- A text is split in front of the first separator.  Others may follow behind it. -/
theorem splitFirst_append {sep : Char} {before : List Char} (h : sep ∉ before)
    (after : List Char) : splitFirst sep (before ++ sep :: after) = some (before, after) := by
  induction before with
  | nil => simp [splitFirst]
  | cons c before ih =>
    rw [List.mem_cons, not_or] at h
    rw [List.cons_append, splitFirst, if_neg (Ne.symm h.1), ih h.2]
    rfl

/-- The parts of a split text, with the separator between them, are the text.  So splitting never
loses anything. -/
theorem eq_append_of_splitFirst {sep : Char} {cs before after : List Char}
    (h : splitFirst sep cs = some (before, after)) :
    sep ∉ before ∧ cs = before ++ sep :: after := by
  induction cs generalizing before with
  | nil => simp [splitFirst] at h
  | cons c cs ih =>
    unfold splitFirst at h
    -- The separator is the first character, or the rest is split.
    by_cases hc : c = sep
    · rw [if_pos hc] at h
      obtain ⟨rfl, rfl⟩ : [] = before ∧ cs = after := by simpa using h
      simp [hc]
    · rw [if_neg hc, Option.map_eq_some_iff] at h
      obtain ⟨⟨first, rest⟩, hs, he⟩ := h
      obtain ⟨rfl, rfl⟩ : c :: first = before ∧ rest = after := by simpa using he
      obtain ⟨hmem, rfl⟩ := ih hs
      exact ⟨by simp [hmem, Ne.symm hc], rfl⟩

/-- A piece without separators is cut off at the separator behind it.  What is behind the separator
is cut by itself. -/
theorem cut_append {p : Char → Bool} {piece : List Char} (h : ∀ c ∈ piece, p c = false)
    {sep : Char} (hsep : p sep = true) (rest : List Char) :
    cut p (piece ++ sep :: rest) = piece :: cut p rest := by
  induction piece with
  | nil => simp [cut, hsep]
  | cons c piece ih =>
    rw [List.cons_append, cut, if_neg (by simp [h c]), ih fun d hd => h d (by simp [hd])]

/-- A text without separators is one piece.  This is so of the empty text, too. -/
theorem cut_eq_singleton {p : Char → Bool} {piece : List Char} (h : ∀ c ∈ piece, p c = false) :
    cut p piece = [piece] := by
  induction piece with
  | nil => rfl
  | cons c piece ih => rw [cut, if_neg (by simp [h c]), ih fun d hd => h d (by simp [hd])]

/-- Pieces without separators are cut apart where they were joined.  There must be a piece, as no
text is cut into none. -/
theorem cut_intercalate {p : Char → Bool} {sep : Char} (hsep : p sep = true)
    {pieces : List (List Char)} (hne : pieces ≠ [])
    (h : ∀ piece ∈ pieces, ∀ c ∈ piece, p c = false) :
    cut p ([sep].intercalate pieces) = pieces := by
  -- The first separator stands behind the first piece.
  induction pieces with
  | nil => exact absurd rfl hne
  | cons first pieces ih =>
    rw [List.forall_mem_cons] at h
    cases pieces with
    | nil => rw [List.intercalate_singleton, cut_eq_singleton h.1]
    | cons second pieces =>
      rw [List.intercalate_cons_cons, List.append_assoc, List.singleton_append,
        cut_append h.1 hsep, ih (by simp) h.2]

end UrlFilter.Text
