import UrlFilter.Proofs.Wire.Expression
import UrlFilter.Wire.Group

namespace UrlFilter.Wire

open UrlFilter.Text

/-!
# Separating conditions

A reader of the grouping parameter finds the conditions that were written into it.

* `GroupState.after` — the place of a reader after a whole text.
* `Unbroken` — no comma of a text separates two conditions.
* `Closed` — a text closes its quotes and brackets, so that a comma behind it separates.
* `Separable` — conditions that a reader keeps apart: all but the last one are closed.
* `separable_splitConditions`, `splitConditions_commaJoin` — splitting gives separable conditions,
  and separable conditions are what splitting gives.
* `readCondition?_eq_some_iff` — the parts of a condition.
* `separable_conditions` — a reader keeps written conditions apart, whatever their values are.
-/

/-! ### Places of a reader -/

/-- The place of a reader after a whole text.  It is all that the reader remembers of the text. -/
def GroupState.after (s : GroupState) (cs : List Char) : GroupState :=
  cs.foldl GroupState.next s

@[simp] theorem GroupState.after_nil (s : GroupState) : s.after [] = s := rfl

@[simp] theorem GroupState.after_cons (s : GroupState) (c : Char) (cs : List Char) :
    s.after (c :: cs) = (s.next c).after cs := rfl

@[simp] theorem GroupState.after_append (s : GroupState) (xs ys : List Char) :
    s.after (xs ++ ys) = (s.after xs).after ys :=
  List.foldl_append

/-- No comma of a text separates two conditions for a reader in the given place.  Commas between
quotes or brackets may stand in it. -/
def Unbroken (s : GroupState) : List Char → Prop
  | [] => True
  | c :: cs => s.separates c = false ∧ Unbroken (s.next c) cs

theorem unbroken_append {s : GroupState} {xs ys : List Char} :
    Unbroken s (xs ++ ys) ↔ Unbroken s xs ∧ Unbroken (s.after xs) ys := by
  induction xs generalizing s with
  | nil => simp [Unbroken]
  | cons c xs ih => simp only [List.cons_append, Unbroken, ih, GroupState.after_cons, and_assoc]

/-- A text closes its quotes and brackets.  An open quote or bracket would take in what follows. -/
def Closed (cs : List Char) : Prop :=
  (GroupState.plain 0).after cs = .plain 0

instance : DecidablePred Closed := fun cs =>
  inferInstanceAs (Decidable ((GroupState.plain 0).after cs = .plain 0))

theorem separates_eq_true_iff {s : GroupState} {c : Char} :
    s.separates c = true ↔ s = .plain 0 ∧ c = ',' := by
  simp [GroupState.separates]

theorem separates_eq_false_of_ne {s : GroupState} (h : s ≠ .plain 0) (c : Char) :
    s.separates c = false := by
  simp [GroupState.separates, h]

/-! ### Pieces -/

/-- A character that separates nothing joins the first piece of what follows.  There always is a
first piece. -/
theorem piecesFrom_cons_of_not_separates {s : GroupState} {c : Char} (h : s.separates c = false)
    (cs : List Char) :
    piecesFrom s (c :: cs) = (piecesFrom (s.next c) cs).modifyHead (c :: ·) := by
  rw [piecesFrom, if_neg (by simp [h])]
  cases hp : piecesFrom (s.next c) cs with
  | nil => exact absurd hp (piecesFrom_ne_nil _ _)
  | cons piece rest => rfl

/-- A separating comma stands behind an empty piece.  At top level every comma separates. -/
theorem piecesFrom_comma (cs : List Char) :
    piecesFrom (.plain 0) (',' :: cs) = [] :: piecesFrom (.plain 0) cs := by
  rw [piecesFrom, if_pos (by decide)]

/-- A text that nothing separates joins the first piece of what follows.  The reader goes on where
the text leaves it. -/
theorem piecesFrom_append {s : GroupState} {cs : List Char} (h : Unbroken s cs)
    (rest : List Char) :
    piecesFrom s (cs ++ rest) = (piecesFrom (s.after cs) rest).modifyHead (cs ++ ·) := by
  -- The reader moves on by one character, which joins the first piece.
  induction cs generalizing s with
  | nil =>
    obtain ⟨piece, more, hp⟩ := List.exists_cons_of_ne_nil (piecesFrom_ne_nil s rest)
    simp [hp]
  | cons c cs ih =>
    rw [List.cons_append, piecesFrom_cons_of_not_separates h.1, ih h.2,
      List.modifyHead_modifyHead]
    rfl

/-- **The first piece** is the whole text, or ends in front of the first separating comma.  Behind
the comma the reader starts anew. -/
theorem piecesFrom_cases (s : GroupState) (cs : List Char) :
    (Unbroken s cs ∧ piecesFrom s cs = [cs]) ∨
      ∃ piece rest, cs = piece ++ ',' :: rest ∧ Unbroken s piece ∧ s.after piece = .plain 0 ∧
        piecesFrom s cs = piece :: piecesFrom (.plain 0) rest := by
  induction cs generalizing s with
  | nil => exact .inl ⟨trivial, rfl⟩
  | cons c cs ih =>
    -- The first character separates, or it joins the first piece of the rest.
    by_cases hsep : s.separates c = true
    · obtain ⟨rfl, rfl⟩ := separates_eq_true_iff.1 hsep
      exact .inr ⟨[], cs, rfl, trivial, rfl, piecesFrom_comma cs⟩
    rw [Bool.not_eq_true] at hsep
    rcases ih (s.next c) with ⟨hun, hp⟩ | ⟨piece, rest, rfl, hun, hend, hp⟩
    · refine .inl ⟨⟨hsep, hun⟩, ?_⟩
      rw [piecesFrom_cons_of_not_separates hsep, hp, List.modifyHead_cons]
    · refine .inr ⟨c :: piece, rest, rfl, ⟨hsep, hun⟩, hend, ?_⟩
      rw [piecesFrom_cons_of_not_separates hsep, hp, List.modifyHead_cons]

/-- Pieces that nothing separates, of which all but the last one are closed, are found again.  The
last one may leave a bracket open, as nothing follows it. -/
theorem piecesFrom_commaJoin {pieces : List (List Char)} (hne : pieces ≠ [])
    (hun : ∀ p ∈ pieces, Unbroken (.plain 0) p) (hclosed : ∀ p ∈ pieces.dropLast, Closed p) :
    piecesFrom (.plain 0) (commaJoin pieces) = pieces := by
  induction pieces with
  | nil => exact absurd rfl hne
  | cons piece pieces ih =>
    have hfirst : Unbroken (.plain 0) piece := hun piece (by simp)
    cases pieces with
    | nil =>
      rw [commaJoin_singleton, ← List.append_nil piece, piecesFrom_append hfirst]
      simp [piecesFrom]
    | cons next pieces =>
      have hend : (GroupState.plain 0).after piece = .plain 0 := hclosed piece (by simp)
      have hrest := ih (by simp) (fun p hp => hun p (List.mem_cons_of_mem _ hp))
        fun p hp => hclosed p (by
          rw [List.dropLast_cons_of_ne_nil (by simp)]
          exact List.mem_cons_of_mem _ hp)
      -- The first piece ends at top level, so the comma behind it separates.
      rw [commaJoin_cons_cons, piecesFrom_append hfirst, hend, piecesFrom_comma, hrest]
      simp

/-- Pieces are separated by commas, nothing separates a piece, and all but the last one are closed.
Blanks around a piece are still there. -/
theorem piecesFrom_spec (cs : List Char) :
    commaJoin (piecesFrom (.plain 0) cs) = cs ∧
      (∀ p ∈ piecesFrom (.plain 0) cs, Unbroken (.plain 0) p) ∧
      ∀ p ∈ (piecesFrom (.plain 0) cs).dropLast, Closed p := by
  -- What stands behind the first separating comma is shorter, wherever that comma stands.
  induction hn : cs.length using Nat.strong_induction_on generalizing cs with
  | _ n ih =>
    rcases piecesFrom_cases (.plain 0) cs with ⟨hun, hp⟩ | ⟨piece, rest, rfl, hun, hend, hp⟩
    · rw [hp]
      simpa using hun
    · obtain ⟨hjoin, hall, hclosed⟩ := ih rest.length (by
        simp only [List.length_append, List.length_cons] at hn
        omega) rest rfl
      have hne := piecesFrom_ne_nil (.plain 0) rest
      rw [hp]
      refine ⟨by rw [commaJoin_cons_of_ne_nil piece hne, hjoin], ?_, ?_⟩
      · intro p hmem
        rcases List.mem_cons.1 hmem with rfl | hmem
        · exact hun
        · exact hall p hmem
      · intro p hmem
        rw [List.dropLast_cons_of_ne_nil hne] at hmem
        rcases List.mem_cons.1 hmem with rfl | hmem
        · exact hend
        · exact hclosed p hmem

/-! ### Blanks around a piece -/

/-- Outside of quotes a character without a meaning changes nothing.  Quotes, brackets, commas and
backslashes have one. -/
theorem next_plain_of_not_needsQuoting {c : Char} (h : needsQuoting c = false) (depth : Nat) :
    (GroupState.plain depth).next c = .plain depth := by
  simp only [needsQuoting, Bool.or_eq_false_iff, beq_eq_false_iff_ne, ne_eq] at h
  simp [GroupState.next, h]

/-- Outside of quotes blanks change nothing.  They may stand inside brackets, too. -/
theorem after_blanks_plain {cs : List Char} (h : ∀ c ∈ cs, isBlank c = true) (depth : Nat) :
    (GroupState.plain depth).after cs = .plain depth := by
  induction cs with
  | nil => rfl
  | cons c cs ih =>
    have hstay := next_plain_of_not_needsQuoting (not_needsQuoting_of_isBlank (h c (by simp))) depth
    rw [GroupState.after_cons, hstay, ih fun d hd => h d (by simp [hd])]

/-- Characters without a meaning do not lead back to top level.  So a text that ends at top level
was there before them. -/
theorem eq_plain_of_after {s : GroupState} {cs : List Char}
    (h : ∀ c ∈ cs, needsQuoting c = false) (hend : s.after cs = .plain 0) : s = .plain 0 := by
  induction cs generalizing s with
  | nil => exact hend
  | cons c cs ih =>
    have hc := h c (by simp)
    have hnext := ih (fun d hd => h d (by simp [hd])) hend
    cases s with
    | plain depth => rwa [next_plain_of_not_needsQuoting hc] at hnext
    -- Without a quote nothing leads out of quotes.
    | quoted depth =>
      have hquote : c ≠ '"' := by
        rintro rfl
        exact absurd hc (by decide)
      rw [GroupState.next, if_neg hquote] at hnext
      split at hnext <;> simp at hnext
    | escaped depth => simp [GroupState.next] at hnext

/-- A text is closed if it is closed without the blanks around it.  Blanks neither open nor close
anything. -/
theorem closed_trim_iff {cs : List Char} : Closed (trim cs) ↔ Closed cs := by
  obtain ⟨before, after, he, hbefore, hafter⟩ := exists_blanks_around_trim cs
  -- Blanks in front leave the reader at top level.
  have hwhole : (GroupState.plain 0).after cs
      = ((GroupState.plain 0).after (trim cs)).after after := by
    conv_lhs => rw [he]
    rw [GroupState.after_append, GroupState.after_append, after_blanks_plain hbefore]
  rw [Closed, Closed, hwhole]
  constructor
  · intro h
    rw [h, after_blanks_plain hafter]
  · exact eq_plain_of_after fun c hc => not_needsQuoting_of_isBlank (hafter c hc)

theorem unbroken_trim {cs : List Char} (h : Unbroken (.plain 0) cs) :
    Unbroken (.plain 0) (trim cs) := by
  obtain ⟨before, after, he, hbefore, -⟩ := exists_blanks_around_trim cs
  rw [he, unbroken_append, unbroken_append, after_blanks_plain hbefore] at h
  exact h.1.2

/-! ### Conditions that a reader keeps apart -/

/-- Conditions that a reader keeps apart: none is empty or has blanks around it, nothing separates
one, and all but the last one are closed.  The last one may be open. -/
structure Separable (conditions : List (List Char)) : Prop where
  ne_nil : ∀ c ∈ conditions, c ≠ []
  trimmed : ∀ c ∈ conditions, trim c = c
  unbroken : ∀ c ∈ conditions, Unbroken (.plain 0) c
  closed : ∀ c ∈ conditions.dropLast, Closed c

/-- Dropping the last item of either list keeps a part a part.  What is not last in the part is not
last in the whole. -/
theorem sublist_dropLast {α : Type*} {some all : List α} (h : some.Sublist all) :
    some.dropLast.Sublist all.dropLast := by
  rw [← List.reverse_sublist, ← List.tail_reverse, ← List.tail_reverse]
  exact (List.reverse_sublist.2 h).tail

theorem Separable.sublist {some all : List (List Char)} (h : Separable all)
    (hsub : some.Sublist all) : Separable some where
  ne_nil c hc := h.ne_nil c (hsub.subset hc)
  trimmed c hc := h.trimmed c (hsub.subset hc)
  unbroken c hc := h.unbroken c (hsub.subset hc)
  closed c hc := h.closed c ((sublist_dropLast hsub).subset hc)

/-- Closed conditions may stand in front of others.  The last of those in front would otherwise take
in the first of the others. -/
theorem Separable.append {front back : List (List Char)} (hf : Separable front)
    (hclosed : ∀ c ∈ front, Closed c) (hb : Separable back) : Separable (front ++ back) where
  ne_nil := List.forall_mem_append.2 ⟨hf.ne_nil, hb.ne_nil⟩
  trimmed := List.forall_mem_append.2 ⟨hf.trimmed, hb.trimmed⟩
  unbroken := List.forall_mem_append.2 ⟨hf.unbroken, hb.unbroken⟩
  closed := by
    intro c hc
    rw [List.dropLast_append] at hc
    split at hc
    · exact hf.closed c hc
    · rcases List.mem_append.1 hc with hc | hc
      · exact hclosed c hc
      · exact hb.closed c hc

/-- **Splitting gives separable conditions.**  The text may be malformed in any way. -/
theorem separable_splitConditions (cs : List Char) : Separable (splitConditions cs) := by
  obtain ⟨-, hun, hclosed⟩ := piecesFrom_spec cs
  have hmem : ∀ c ∈ splitConditions cs, ∃ p ∈ piecesFrom (.plain 0) cs, trim p = c := by
    intro c hc
    simpa using List.mem_of_mem_filter hc
  refine ⟨?_, ?_, ?_, ?_⟩
  · intro c hc
    simpa using List.of_mem_filter hc
  · intro c hc
    obtain ⟨p, -, rfl⟩ := hmem c hc
    exact trim_trim p
  · intro c hc
    obtain ⟨p, hp, rfl⟩ := hmem c hc
    exact unbroken_trim (hun p hp)
  · intro c hc
    -- A piece that is not the last of those that are kept was not the last before.
    have hlast : c ∈ ((piecesFrom (.plain 0) cs).map trim).dropLast :=
      (sublist_dropLast List.filter_sublist).subset hc
    rw [← List.map_dropLast, List.mem_map] at hlast
    obtain ⟨p, hp, rfl⟩ := hlast
    exact closed_trim_iff.2 (hclosed p hp)

/-- **Separable conditions are what splitting gives.**  No blank is added when they are joined. -/
theorem splitConditions_commaJoin {conditions : List (List Char)} (h : Separable conditions) :
    splitConditions (commaJoin conditions) = conditions := by
  -- No conditions make an empty text, which has none.
  by_cases hne : conditions = []
  · subst hne
    rfl
  have hmap : conditions.map trim = conditions := by
    conv_rhs => rw [← List.map_id conditions]
    exact List.map_congr_left h.trimmed
  rw [splitConditions, piecesFrom_commaJoin hne h.unbroken h.closed, hmap, List.filter_eq_self]
  intro c hc
  simpa using h.ne_nil c hc

/-- Conditions that a reader keeps apart are closed together if each one is.  Only the last one can
be open. -/
theorem closed_commaJoin_iff {conditions : List (List Char)} (h : Separable conditions) :
    Closed (commaJoin conditions) ↔ ∀ c ∈ conditions, Closed c := by
  induction conditions with
  | nil => simp [Closed]
  | cons first conditions ih =>
    cases conditions with
    | nil => simp
    | cons next conditions =>
      have hfirst : Closed first := h.closed first (by simp)
      have hrest := ih (h.sublist (List.sublist_cons_self _ _))
      -- The first condition is closed, so the reader is back at top level at the comma behind it.
      have hwhole : (GroupState.plain 0).after (commaJoin (first :: next :: conditions))
          = (GroupState.plain 0).after (commaJoin (next :: conditions)) := by
        rw [commaJoin_cons_cons, GroupState.after_append, hfirst, GroupState.after_cons]
        rfl
      rw [Closed, hwhole, List.forall_mem_cons, ← hrest]
      exact (and_iff_right hfirst).symm

/-- **A comma behind an open condition does not separate:** what stands behind it becomes part of
the condition.  Blanks at its end are the only thing that is lost. -/
theorem splitConditions_open_append {front : List (List Char)} {last : List Char}
    (h : Separable (front ++ [last])) (hopen : ¬ Closed last) (more : List Char) :
    ∃ glued others, splitConditions (commaJoin (front ++ [last]) ++ ',' :: more)
      = front ++ (last ++ ',' :: glued) :: others := by
  have hlast : Unbroken (.plain 0) last := h.unbroken last (by simp)
  have hnext : ((GroupState.plain 0).after last).separates ',' = false :=
    separates_eq_false_of_ne hopen ','
  -- The first piece of what the open condition starts, before blanks are dropped.
  obtain ⟨piece, rest, hp⟩ := List.exists_cons_of_ne_nil
    (piecesFrom_ne_nil (((GroupState.plain 0).after last).next ',') more)
  have hglue : piecesFrom (.plain 0) (last ++ ',' :: more) = (last ++ ',' :: piece) :: rest := by
    rw [piecesFrom_append hlast, piecesFrom_cons_of_not_separates hnext, hp]
    simp
  -- The conditions in front are closed, so the reader meets the open one at top level.
  have hall : piecesFrom (.plain 0) (commaJoin (front ++ [last]) ++ ',' :: more)
      = front ++ (last ++ ',' :: piece) :: rest := by
    induction front with
    | nil => simpa using hglue
    | cons first front ih =>
      have hsub : Separable (front ++ [last]) := h.sublist (List.sublist_cons_self _ _)
      have hend : (GroupState.plain 0).after first = .plain 0 := by
        refine h.closed first ?_
        rw [List.dropLast_concat]
        exact List.mem_cons_self
      rw [List.cons_append, commaJoin_cons_of_ne_nil first (by simp), List.append_assoc,
        List.cons_append, piecesFrom_append (h.unbroken first (by simp)), hend, piecesFrom_comma,
        ih hsub]
      simp
  have htrim : trim (last ++ ',' :: piece) = last ++ ',' :: dropEndWhile isBlank piece :=
    trim_append_cons (h.trimmed last (by simp)) (by decide) piece
  have hfront : front.map trim = front := by
    conv_rhs => rw [← List.map_id front]
    exact List.map_congr_left fun c hc => h.trimmed c (by simp [hc])
  have hkeep : front.filter (fun c => !c.isEmpty) = front := by
    rw [List.filter_eq_self]
    intro c hc
    simpa using h.ne_nil c (by simp [hc])
  refine ⟨dropEndWhile isBlank piece, (rest.map trim).filter fun c => !c.isEmpty, ?_⟩
  rw [splitConditions, hall, List.map_append, List.map_cons, hfront, htrim, List.filter_append,
    hkeep, List.filter_cons_of_pos (by simp)]

/-! ### Parts of a condition -/

/-- **The parts of a condition** stand between its first two points.  The value may hold points of
its own. -/
theorem readCondition?_eq_some_iff {cs : List Char} {parts : ConditionText} :
    readCondition? cs = some parts ↔
      cs = parts.field.toList ++ '.' :: (parts.symbol.toList ++ '.' :: parts.value) ∧
        parts.field ≠ "" ∧ '.' ∉ parts.field.toList ∧ '.' ∉ parts.symbol.toList := by
  obtain ⟨field, symbol, value⟩ := parts
  constructor
  · intro h
    simp only [readCondition?, Option.bind_eq_bind, Option.bind_eq_some_iff] at h
    obtain ⟨⟨field', rest⟩, hfield, ⟨symbol', value'⟩, hsymbol, h⟩ := h
    -- Both cuts are made in front of the first point that is left.
    obtain ⟨hfield', rfl⟩ := eq_append_of_splitFirst hfield
    obtain ⟨hsymbol', rfl⟩ := eq_append_of_splitFirst hsymbol
    split at h
    · simp at h
    · next hne =>
      obtain ⟨rfl, rfl, rfl⟩ :
          String.ofList field' = field ∧ String.ofList symbol' = symbol ∧ value' = value := by
        simpa using h
      simp only [String.toList_ofList]
      refine ⟨trivial, ?_, hfield', hsymbol'⟩
      simpa using hne
  · rintro ⟨rfl, hne, hfield, hsymbol⟩
    simp [readCondition?, splitFirst_append hfield, splitFirst_append hsymbol, hne]

/-! ### Written conditions -/

/-- A text that a reader outside of quotes passes without a change of place, and without finding a
comma that separates.  A reader inside brackets passes it as well. -/
def Passes (cs : List Char) : Prop :=
  ∀ depth, (GroupState.plain depth).after cs = .plain depth ∧ Unbroken (.plain depth) cs

theorem Passes.append {xs ys : List Char} (hx : Passes xs) (hy : Passes ys) :
    Passes (xs ++ ys) := by
  intro depth
  obtain ⟨hafter, hun⟩ := hx depth
  rw [GroupState.after_append, unbroken_append, hafter]
  exact ⟨(hy depth).1, hun, (hy depth).2⟩

theorem passes_of_not_needsQuoting {cs : List Char} (h : ∀ c ∈ cs, needsQuoting c = false) :
    Passes cs := by
  intro depth
  induction cs with
  | nil => exact ⟨rfl, trivial⟩
  | cons c cs ih =>
    have hc := h c (by simp)
    -- Only a comma separates, and a comma has a meaning.
    have hsep : (GroupState.plain depth).separates c = false := by
      rw [Bool.eq_false_iff]
      intro hs
      obtain ⟨-, rfl⟩ := separates_eq_true_iff.1 hs
      exact absurd hc (by decide)
    obtain ⟨hafter, hun⟩ := ih fun d hd => h d (by simp [hd])
    rw [GroupState.after_cons, Unbroken, next_plain_of_not_needsQuoting hc]
    exact ⟨hafter, hsep, hun⟩

/-- Between quotes, a text in which backslashes protect quotes and backslashes changes nothing.  The
closing quote is still to come. -/
theorem after_escape (cs : List Char) (depth : Nat) :
    (GroupState.quoted depth).after (escape cs) = .quoted depth ∧
      Unbroken (.quoted depth) (escape cs) := by
  induction cs with
  | nil => exact ⟨rfl, trivial⟩
  | cons c cs ih =>
    have hsep : ∀ d, (GroupState.quoted depth).separates d = false ∧
        (GroupState.escaped depth).separates d = false := fun d =>
      ⟨separates_eq_false_of_ne (by simp) d, separates_eq_false_of_ne (by simp) d⟩
    rw [escape, List.flatMap_cons, ← escape, GroupState.after_append, unbroken_append]
    -- A protected character leads into the escaped place and back, any other one nowhere.
    by_cases h : c = '\\' ∨ c = '"'
    · rw [if_pos h]
      exact ⟨ih.1, ⟨(hsep _).1, (hsep _).2, trivial⟩, ih.2⟩
    · rw [not_or] at h
      have hstay : (GroupState.quoted depth).after [c] = .quoted depth := by
        simp [GroupState.next, h]
      rw [if_neg (by simp [h]), hstay]
      exact ⟨ih.1, ⟨(hsep _).1, trivial⟩, ih.2⟩

/-- A written item is passed as a whole, whatever it holds.  A text with quotes in it is written
between quotes. -/
theorem passes_quoteText (cs : List Char) : Passes (quoteText cs) := by
  -- The item stands between quotes, or holds nothing that has a meaning.
  rcases quoteText_cases cs with h | ⟨h, -, -, hplain⟩
  · intro depth
    obtain ⟨hafter, hun⟩ := after_escape cs depth
    have hsep : ∀ d, (GroupState.quoted depth).separates d = false :=
      separates_eq_false_of_ne (by simp)
    have hopen : (GroupState.plain depth).separates '"' = false := by
      simp [GroupState.separates]
    have hstart : (GroupState.plain depth).next '"' = .quoted depth := rfl
    rw [h, enquote, List.cons_append, GroupState.after_cons, GroupState.after_append, Unbroken,
      unbroken_append, hstart, hafter]
    exact ⟨rfl, hopen, hun, hsep _, trivial⟩
  · rw [h]
    exact passes_of_not_needsQuoting hplain

/-- No symbol holds a character with a meaning in a group.  So symbols are written as they are. -/
theorem not_needsQuoting_symbol (op : Operator) :
    ∀ c ∈ op.symbol.toList, needsQuoting c = false := by
  have hall : (op.symbol.toList.all fun c => !needsQuoting c) = true := by
    cases op <;> rfl
  intro c hc
  simpa using List.all_eq_true.1 hall c hc

/-- Commas inside of brackets do not separate.  The pieces are items of a list. -/
theorem after_commaJoin {pieces : List (List Char)} (h : ∀ p ∈ pieces, Passes p) (depth : Nat) :
    (GroupState.plain (depth + 1)).after (commaJoin pieces) = .plain (depth + 1) ∧
      Unbroken (.plain (depth + 1)) (commaJoin pieces) := by
  have hcomma : (GroupState.plain (depth + 1)).next ',' = .plain (depth + 1) := rfl
  induction pieces with
  | nil => exact ⟨rfl, trivial⟩
  | cons piece pieces ih =>
    cases pieces with
    | nil =>
      rw [commaJoin_singleton]
      exact h piece (by simp) (depth + 1)
    | cons next pieces =>
      obtain ⟨hafter, hun⟩ := h piece (by simp) (depth + 1)
      obtain ⟨hafter', hun'⟩ := ih fun p hp => h p (by simp [hp])
      rw [commaJoin_cons_cons, GroupState.after_append, unbroken_append, hafter,
        GroupState.after_cons, Unbroken, hcomma]
      exact ⟨hafter', hun, separates_eq_false_of_ne (by simp) ',', hun'⟩

/-- A written list is passed as a whole.  So a list can be the value of a condition. -/
theorem passes_listLiteral (op : Operator) (items : List Value) :
    Passes (listLiteral op items) := by
  intro depth
  have hitems : ∀ p ∈ items.map quoteItem, Passes p := by
    intro p hp
    obtain ⟨v, -, rfl⟩ := List.mem_map.1 hp
    exact passes_quoteText _
  obtain ⟨hafter, hun⟩ := after_commaJoin hitems depth
  -- The brackets lead one level down and back up, so no comma between them stands at top level.
  have hbrackets : (GroupState.plain depth).next (brackets op).1 = .plain (depth + 1) ∧
      (GroupState.plain (depth + 1)).next (brackets op).2 = .plain depth ∧
      ∀ s : GroupState, s.separates (brackets op).1 = false ∧
        s.separates (brackets op).2 = false := by
    unfold brackets
    split <;> exact ⟨rfl, rfl, fun s => ⟨by simp [GroupState.separates],
      by simp [GroupState.separates]⟩⟩
  obtain ⟨hopen, hclose, hsep⟩ := hbrackets
  rw [listLiteral, List.cons_append, GroupState.after_cons, GroupState.after_append, Unbroken,
    unbroken_append, hopen, hafter]
  exact ⟨hclose, (hsep _).1, hun, (hsep _).2, trivial⟩

/-- A collection is written as a list.  A range has two items. -/
theorem expression_collection (op : Operator) {v : Value} (h : v.isCollection = true) :
    ∃ items, expression op v = op.symbol.toList ++ '.' :: listLiteral op items := by
  cases v with
  | list items => exact ⟨items, by cases op <;> rfl⟩
  | tuple items => exact ⟨items, by cases op <;> rfl⟩
  | range lower upper => exact ⟨[lower, upper], by cases op <;> rfl⟩
  | set items => exact ⟨items, by cases op <;> rfl⟩
  | _ => exact absurd h Bool.false_ne_true

/-- A condition is its field, its symbol and the text of its value, which is passed as a whole and
ends with no blank.  This is all that keeping conditions apart needs to know of a value. -/
theorem exists_condition_eq (field : String) (op : Operator) (v : Value) :
    ∃ tail, condition field op v
        = field.toList ++ '.' :: (op.symbol.toList ++ '.' :: tail) ∧
      Passes tail ∧ dropEndWhile isBlank tail = tail := by
  unfold condition
  by_cases hv : v.isCollection = true
  · obtain ⟨items, hitems⟩ := expression_collection op hv
    refine ⟨listLiteral op items, by rw [if_pos hv, hitems], passes_listLiteral op items, ?_⟩
    obtain ⟨hopen, hclose⟩ := not_isBlank_brackets op
    exact dropEndWhile_eq_self_iff.2
      (trim_eq_self_iff.1 (trim_cons_concat hopen hclose (commaJoin (items.map quoteItem)))).2
  · exact ⟨quoteItem v, by rw [if_neg hv], passes_quoteText _,
      dropEndWhile_eq_self_iff.2 (trim_eq_self_iff.1 (trim_quoteText _)).2⟩

/-- A condition with a single value is its field, its symbol and its value as an item.  The quotes
are put only where they are needed. -/
theorem condition_text (field : String) (op : Operator) (s : String) :
    condition field op (.text s)
      = field.toList ++ '.' :: (op.symbol.toList ++ '.' :: quoteText s.toList) := rfl

/-- A condition on a name that does not start with a blank has no blanks around it.  It ends with
its value, which is quoted if it ends with a blank. -/
theorem trim_condition {field : String} (h : ∀ d ∈ field.toList.head?, isBlank d = false)
    (op : Operator) (v : Value) : trim (condition field op v) = condition field op v := by
  obtain ⟨tail, htail, -, hend⟩ := exists_condition_eq field op v
  rw [htail, trim_append_cons_of_head h (by decide), dropEndWhile_append_cons (by decide), hend]

theorem condition_ne_nil (field : String) (op : Operator) (v : Value) :
    condition field op v ≠ [] := by
  unfold condition
  simp

/-- **A reader keeps written conditions apart,** whatever their values are, if no name starts with a
blank, no comma separates a part of one, and each is closed; and then the conditions are closed.  A
name that holds brackets may still be closed. -/
theorem separable_conditions {conditions : List (List Char)}
    (h : ∀ c ∈ conditions, ∃ field op v, c = condition field op v ∧
      (∀ d ∈ field.toList.head?, isBlank d = false) ∧ Unbroken (.plain 0) field.toList ∧
      Closed field.toList) :
    Separable conditions ∧ ∀ c ∈ conditions, Closed c := by
  -- Behind a name, a point, a symbol and the text of a value are passed one after the other.
  have hread : ∀ c ∈ conditions, Closed c ∧ Unbroken (.plain 0) c := by
    intro c hc
    obtain ⟨field, op, v, rfl, -, hun, hend⟩ := h c hc
    obtain ⟨tail, htail, hpass, -⟩ := exists_condition_eq field op v
    have hpoint : Passes ['.'] := passes_of_not_needsQuoting (by simp [needsQuoting])
    have hsymbol := (passes_of_not_needsQuoting (not_needsQuoting_symbol op)).append
      (hpoint.append hpass)
    obtain ⟨hafter, hrest⟩ := hpoint.append hsymbol 0
    have hfield : (GroupState.plain 0).after field.toList = .plain 0 := hend
    rw [htail, Closed, GroupState.after_append, unbroken_append, hfield]
    exact ⟨hafter, hun, hrest⟩
  refine ⟨⟨?_, ?_, fun c hc => (hread c hc).2,
    fun c hc => (hread c (List.dropLast_subset _ hc)).1⟩, fun c hc => (hread c hc).1⟩
  · intro c hc
    obtain ⟨field, op, v, rfl, -⟩ := h c hc
    exact condition_ne_nil field op v
  · intro c hc
    obtain ⟨field, op, v, rfl, hhead, -⟩ := h c hc
    exact trim_condition hhead op v

end UrlFilter.Wire
