import UrlFilter.Proofs.Text.Trimming

namespace UrlFilter.Text

/-!
# Words

A text is cut into words at its blanks.

* `cut_append_text` — where a text in two parts is cut.
* `exists_mem_cut_of_infix` — a part without separators lies in one piece.
* `mem_words_iff` — the words of a text are its pieces that are not empty.
* `SideBySide` — words occur side by side, but the first and the last may be cut off at the edge.
* `infix_spaced_iff` — this is when words with blanks between them occur in others.
-/

/-! ### Pieces -/

variable {p : Char → Bool}

/-- A separator ends an empty piece, and any other character starts the first piece behind it.  The
list of pieces is never empty, so there is a first one. -/
theorem cut_cons_cases (p : Char → Bool) (c : Char) (cs : List Char) :
    (p c = true ∧ cut p (c :: cs) = [] :: cut p cs) ∨
      ∃ piece rest, p c = false ∧ cut p cs = piece :: rest ∧
        cut p (c :: cs) = (c :: piece) :: rest := by
  obtain ⟨piece, rest, hcut⟩ := List.exists_cons_of_ne_nil (cut_ne_nil p cs)
  cases hc : p c with
  | true => exact .inl ⟨rfl, by rw [cut, if_pos hc]⟩
  | false => exact .inr ⟨piece, rest, rfl, hcut, by simp [cut, hc, hcut]⟩

/-- **Where a text in two parts is cut:** in each of the two parts, but not where they meet.  The
last piece of the one and the first piece of the other become one. -/
theorem cut_append_text (p : Char → Bool) (xs ys : List Char) :
    ∃ before last first after, cut p xs = before ++ [last] ∧ cut p ys = first :: after ∧
      cut p (xs ++ ys) = before ++ (last ++ first) :: after := by
  -- A separator of the first part starts an empty piece; any other character lengthens the first
  -- piece.
  induction xs with
  | nil =>
    obtain ⟨first, after, hcut⟩ := List.exists_cons_of_ne_nil (cut_ne_nil p ys)
    exact ⟨[], [], first, after, rfl, hcut, hcut⟩
  | cons x xs ih =>
    obtain ⟨before, last, first, after, hxs, hys, hcut⟩ := ih
    cases hx : p x with
    | true =>
      exact ⟨[] :: before, last, first, after, by simp [cut, hx, hxs], hys, by simp [cut, hx, hcut]⟩
    | false =>
      cases before with
      | nil =>
        exact ⟨[], x :: last, first, after, by simp [cut, hx, hxs], hys, by simp [cut, hx, hcut]⟩
      | cons piece before =>
        exact ⟨(x :: piece) :: before, last, first, after, by simp [cut, hx, hxs], hys,
          by simp [cut, hx, hcut]⟩

/-- Pieces hold no separators.  They may be empty. -/
theorem not_of_mem_cut {cs piece : List Char} (h : piece ∈ cut p cs) :
    ∀ c ∈ piece, p c = false := by
  induction cs generalizing piece with
  | nil =>
    obtain rfl := List.mem_singleton.1 h
    simp
  | cons x cs ih =>
    rcases cut_cons_cases p x cs with ⟨-, hcut⟩ | ⟨first, rest, hx, hrest, hcut⟩
    · rw [hcut, List.mem_cons] at h
      rcases h with rfl | h
      · simp
      · exact ih h
    · rw [hcut, List.mem_cons] at h
      rcases h with rfl | h
      · exact List.forall_mem_cons.2 ⟨hx, ih (hrest ▸ List.mem_cons_self)⟩
      · exact ih (hrest ▸ List.mem_cons_of_mem first h)

/-- The first piece starts the text.  It ends in front of the first separator. -/
theorem prefix_of_cut {cs first : List Char} {rest : List (List Char)}
    (h : cut p cs = first :: rest) : first <+: cs := by
  induction cs generalizing first rest with
  | nil =>
    obtain ⟨rfl, -⟩ := List.cons.inj h
    exact List.nil_prefix
  | cons x cs ih =>
    rcases cut_cons_cases p x cs with ⟨-, hcut⟩ | ⟨piece, _, -, hrest, hcut⟩
    · obtain ⟨rfl, -⟩ := List.cons.inj (hcut.symm.trans h)
      exact List.nil_prefix
    · obtain ⟨rfl, -⟩ := List.cons.inj (hcut.symm.trans h)
      exact List.prefix_cons_inj x |>.2 (ih hrest)

/-- Each piece is part of the text.  So what occurs in a piece occurs in the text. -/
theorem infix_of_mem_cut {cs piece : List Char} (h : piece ∈ cut p cs) : piece <:+: cs := by
  induction cs with
  | nil =>
    obtain rfl := List.mem_singleton.1 h
    exact List.infix_rfl
  | cons x cs ih =>
    rcases cut_cons_cases p x cs with ⟨-, hcut⟩ | ⟨first, rest, -, hrest, hcut⟩
    · rw [hcut, List.mem_cons] at h
      rcases h with rfl | h
      · exact List.nil_infix
      · exact List.infix_cons (ih h)
    · have hprefix := prefix_of_cut hcut
      rw [hcut, List.mem_cons] at h
      rcases h with rfl | h
      · exact hprefix.isInfix
      · exact List.infix_cons (ih (hrest ▸ List.mem_cons_of_mem first h))

/-- **A part without separators lies in one piece.**  It cannot reach across the place of a
separator. -/
theorem exists_mem_cut_of_infix {part cs : List Char} (h : part <:+: cs)
    (hpart : ∀ c ∈ part, p c = false) : ∃ piece ∈ cut p cs, part <:+: piece := by
  obtain ⟨front, back, rfl⟩ := h
  obtain ⟨before, last, first, after, -, hrest, hcut⟩ := cut_append_text p front (part ++ back)
  obtain ⟨before', last', first', after', hlone, -, hrest'⟩ := cut_append_text p part back
  rw [cut_eq_singleton hpart] at hlone
  have hlone' : [] ++ [part] = before' ++ [last'] := hlone
  obtain ⟨rfl, hlast⟩ := List.append_inj' hlone' rfl
  obtain rfl := List.singleton_inj.1 hlast
  obtain ⟨rfl, -⟩ := List.cons.inj (hrest.symm.trans hrest')
  refine ⟨last ++ (part ++ first'), ?_, last, first', List.append_assoc _ _ _⟩
  rw [List.append_assoc, hcut]
  simp

/-! ### Words -/

theorem mem_words_iff {cs w : List Char} : w ∈ words cs ↔ w ∈ cut isBlank cs ∧ w ≠ [] := by
  simp [words]

/-- A word is not empty and holds no blanks.  These are the words that a text can be cut into. -/
def IsWord (w : List Char) : Prop :=
  w ≠ [] ∧ ∀ c ∈ w, isBlank c = false

theorem isWord_of_mem_words {cs w : List Char} (h : w ∈ words cs) : IsWord w :=
  ⟨(mem_words_iff.1 h).2, not_of_mem_cut (mem_words_iff.1 h).1⟩

/-- A part of a text without blanks lies in one word.  This is how a term of a search is found in a
word. -/
theorem exists_mem_words_of_infix {part cs : List Char} (h : part <:+: cs) (hpart : IsWord part) :
    ∃ w ∈ words cs, part <:+: w := by
  obtain ⟨piece, hpiece, hin⟩ := exists_mem_cut_of_infix h hpart.2
  have hne : piece ≠ [] := by
    rintro rfl
    exact hpart.1 (List.infix_nil.1 hin)
  exact ⟨piece, mem_words_iff.2 ⟨hpiece, hne⟩, hin⟩

/-! ### Words side by side -/

/-- Words occur side by side among others, but the first one may be only the end of a word there,
and the last one only the start; a lone one may be any part of a word.  All words between the first
and the last one are there as a whole. -/
inductive SideBySide : List (List Char) → List (List Char) → Prop
  | none {ws : List (List Char)} : SideBySide [] ws
  | one {w whole : List Char} {ws : List (List Char)} (hmem : whole ∈ ws) (h : w <:+: whole) :
      SideBySide [w] ws
  | more {first last u w : List Char} {front middle back : List (List Char)} (hfirst : first <:+ u)
      (hlast : last <+: w) :
      SideBySide (first :: (middle ++ [last])) (front ++ u :: (middle ++ w :: back))

/-- Each word that occurs so is part of a word.  The words in between are their own parts. -/
theorem SideBySide.exists_mem {qs ws : List (List Char)} (h : SideBySide qs ws) {q : List Char}
    (hq : q ∈ qs) : ∃ w ∈ ws, q <:+: w := by
  -- No words, a lone one, or several with a first and a last one.
  cases h with
  | none => exact absurd hq List.not_mem_nil
  | @one w whole _ hmem h =>
    obtain rfl := List.mem_singleton.1 hq
    exact ⟨whole, hmem, h⟩
  | @more first last u w front middle back hfirst hlast =>
    rw [List.mem_cons, List.mem_append, List.mem_singleton] at hq
    rcases hq with rfl | hq | rfl
    · exact ⟨u, by simp, hfirst.isInfix⟩
    · exact ⟨q, by simp [hq], List.infix_rfl⟩
    · exact ⟨w, by simp, hlast.isInfix⟩

/-- What words occur so occur as a whole exactly if the first and the last one do.  The others are
words there in any case. -/
theorem SideBySide.forall_mem_iff {qs ws : List (List Char)} (h : SideBySide qs ws) :
    (∀ q ∈ qs, q ∈ ws) ↔ ∀ q, qs.head? = some q ∨ qs.getLast? = some q → q ∈ ws := by
  constructor
  · rintro hall q (hq | hq)
    · exact hall q (List.mem_of_head? hq)
    · exact hall q (List.mem_of_getLast? hq)
  · intro hedges q hq
    cases h with
    | none => exact absurd hq List.not_mem_nil
    | one =>
      obtain rfl := List.mem_singleton.1 hq
      exact hedges q (.inl rfl)
    | @more first last u w front middle back =>
      rw [List.mem_cons, List.mem_append, List.mem_singleton] at hq
      rcases hq with rfl | hq | rfl
      · exact hedges q (.inl rfl)
      · simp [hq]
      · exact hedges q (.inr (by rw [← List.cons_append, List.getLast?_concat]))

/-! ### Spaced words -/

section Intercalate

variable (sep : List Char) {xs ys : List (List Char)}

theorem intercalate_append (hx : xs ≠ []) (hy : ys ≠ []) :
    sep.intercalate (xs ++ ys) = sep.intercalate xs ++ sep ++ sep.intercalate ys := by
  induction xs with
  | nil => exact absurd rfl hx
  | cons x xs ih =>
    cases xs with
    | nil =>
      rw [List.singleton_append, List.intercalate_cons_of_ne_nil hy, List.intercalate_singleton]
    | cons x' xs =>
      rw [List.cons_append, List.intercalate_cons_of_ne_nil (by simp), ih (by simp),
        List.intercalate_cons_cons]
      simp only [List.append_assoc]

theorem intercalate_prefix_append (xs ys : List (List Char)) :
    sep.intercalate xs <+: sep.intercalate (xs ++ ys) := by
  rcases eq_or_ne xs [] with rfl | hx
  · exact List.nil_prefix
  rcases eq_or_ne ys [] with rfl | hy
  · simp
  rw [intercalate_append sep hx hy, List.append_assoc]
  exact List.prefix_append _ _

theorem intercalate_suffix_append (xs ys : List (List Char)) :
    sep.intercalate ys <:+ sep.intercalate (xs ++ ys) := by
  rcases eq_or_ne xs [] with rfl | hx
  · exact List.suffix_rfl
  rcases eq_or_ne ys [] with rfl | hy
  · exact List.nil_suffix
  rw [intercalate_append sep hx hy]
  exact List.suffix_append _ _

theorem intercalate_infix_append (xs ys zs : List (List Char)) :
    sep.intercalate ys <:+: sep.intercalate (xs ++ (ys ++ zs)) :=
  (intercalate_prefix_append sep ys zs).isInfix.trans
    (intercalate_suffix_append sep xs (ys ++ zs)).isInfix

/-- A longer first item only adds to the front.  The items behind it stay where they are. -/
theorem intercalate_cons_suffix {q u : List Char} (h : q <:+ u) (xs : List (List Char)) :
    sep.intercalate (q :: xs) <:+ sep.intercalate (u :: xs) := by
  obtain ⟨front, rfl⟩ := h
  refine ⟨front, ?_⟩
  cases xs <;> simp

/-- A longer last item only adds to the end.  The items in front of it stay where they are. -/
theorem intercalate_concat_prefix {q w : List Char} (h : q <+: w) (xs : List (List Char)) :
    sep.intercalate (xs ++ [q]) <+: sep.intercalate (xs ++ [w]) := by
  obtain ⟨back, rfl⟩ := h
  refine ⟨back, ?_⟩
  rcases eq_or_ne xs [] with rfl | hx
  · simp
  · rw [intercalate_append sep hx (by simp), intercalate_append sep hx (by simp)]
    simp

end Intercalate

/-- Words that occur side by side occur in a text with blanks between the words.  This is the easy
direction of the result below. -/
theorem SideBySide.infix_spaced {qs ws : List (List Char)} (h : SideBySide qs ws) :
    [' '].intercalate qs <:+: [' '].intercalate ws := by
  cases h with
  | none => exact List.nil_infix
  | @one w whole _ hmem h =>
    obtain ⟨front, back, rfl⟩ := List.append_of_mem hmem
    have hwhole : whole <:+: [' '].intercalate (front ++ whole :: back) := by
      simpa using intercalate_infix_append [' '] front [whole] back
    rw [List.intercalate_singleton]
    exact h.trans hwhole
  | @more first last u w front middle back hfirst hlast =>
    -- The first word may be shortened at its front and the last one at its end.
    have hends : [' '].intercalate (first :: (middle ++ [last]))
        <:+: [' '].intercalate (u :: (middle ++ [w])) := by
      have hlonger := intercalate_concat_prefix [' '] hlast (u :: middle)
      exact (intercalate_cons_suffix [' '] hfirst _).isInfix.trans hlonger.isInfix
    have hamong := intercalate_infix_append [' '] front (u :: (middle ++ [w])) back
    refine hends.trans ?_
    simpa using hamong

/-- **Spaced words occur in spaced words exactly if they occur side by side.**  One blank stands
between two words on both sides, so words can only meet words. -/
theorem infix_spaced_iff {qs ws : List (List Char)} (hqs : ∀ q ∈ qs, IsWord q)
    (hws : ∀ w ∈ ws, IsWord w) :
    [' '].intercalate qs <:+: [' '].intercalate ws ↔ SideBySide qs ws := by
  refine ⟨fun h => ?_, SideBySide.infix_spaced⟩
  rcases eq_or_ne qs [] with rfl | hq
  · exact .none
  have hcut : cut isBlank ([' '].intercalate qs) = qs :=
    cut_intercalate (by rfl) hq fun q h => (hqs q h).2
  have hw : ws ≠ [] := by
    rintro rfl
    rw [List.infix_nil.1 h] at hcut
    exact (hqs [] (hcut ▸ List.mem_singleton_self [])).1 rfl
  have hcutAll : cut isBlank ([' '].intercalate ws) = ws :=
    cut_intercalate (by rfl) hw fun w h => (hws w h).2
  -- The text is cut where the words are and in what lies before and behind them.
  obtain ⟨front, back, hspaced⟩ := h
  obtain ⟨before, last, first, after, -, hrest, hall⟩ :=
    cut_append_text isBlank front ([' '].intercalate qs ++ back)
  obtain ⟨before', last', first', after', hwords, -, hrest'⟩ :=
    cut_append_text isBlank ([' '].intercalate qs) back
  rw [← List.append_assoc, hspaced, hcutAll] at hall
  rw [hcut] at hwords
  have hbehind := hrest.symm.trans hrest'
  subst hwords hall
  -- A lone word lies in one word; of several, the first ends one and the last starts one.
  cases before' with
  | nil =>
    obtain ⟨rfl, rfl⟩ := List.cons.inj hbehind
    exact .one (List.mem_append_right _ List.mem_cons_self)
      ⟨last, first', List.append_assoc last last' first'⟩
  | cons q middle =>
    obtain ⟨rfl, rfl⟩ := List.cons.inj hbehind
    exact .more (List.suffix_append _ _) (List.prefix_append _ _)

end UrlFilter.Text
