import UrlFilter.Proofs.Wire.Group

namespace UrlFilter.Wire

open UrlFilter.Text

/-!
# Where a group is cut

A group is cut at the commas outside of quotes and brackets, and nowhere else, however malformed its
text is.

* `Protected`, `Outside` — a grammar of quotes and brackets: what may stand between two quotes, and
  how many brackets are open behind a text that ends outside of quotes.
* `outside_iff` — the place of a reader agrees with the grammar.
* `exists_cut_iff` — the commas at which a text is cut.
* `splitConditions_cuts` — splitting loses nothing but blanks and empty pieces, and gives the same
  conditions again from its own conditions.
-/

/-! ### Quotes and brackets -/

/-- A text that may stand between two quotes: a backslash protects the character behind it, and a
quote has to be protected. -/
inductive Protected : List Char → Prop where
  | nil : Protected []
  | char {c : Char} {cs : List Char} : c ≠ '"' → c ≠ '\\' → Protected cs → Protected (c :: cs)
  | escape (c : Char) {cs : List Char} : Protected cs → Protected ('\\' :: c :: cs)

/-- A text that ends outside of quotes, and the number of brackets that are open there.  A closing
bracket where none is open changes nothing. -/
inductive Outside : List Char → Nat → Prop where
  | nil : Outside [] 0
  | char {cs : List Char} {depth : Nat} {c : Char} :
      Outside cs depth → c ∉ ['"', '(', '{', ')', '}'] → Outside (cs ++ [c]) depth
  | opening {cs : List Char} {depth : Nat} {c : Char} :
      Outside cs depth → c ∈ ['(', '{'] → Outside (cs ++ [c]) (depth + 1)
  | closing {cs : List Char} {depth : Nat} {c : Char} :
      Outside cs (depth + 1) → c ∈ [')', '}'] → Outside (cs ++ [c]) depth
  | unmatched {cs : List Char} {c : Char} :
      Outside cs 0 → c ∈ [')', '}'] → Outside (cs ++ [c]) 0
  | quoted {cs inner : List Char} {depth : Nat} :
      Outside cs depth → Protected inner → Outside (cs ++ '"' :: inner ++ ['"']) depth

/-- Two texts that may stand between two quotes may stand there together: neither ends with a
backslash that would protect what follows. -/
theorem Protected.append {xs ys : List Char} (hx : Protected xs) (hy : Protected ys) :
    Protected (xs ++ ys) := by
  induction hx with
  | nil => exact hy
  | char hquote hescape _ ih => exact .char hquote hescape ih
  | escape c _ ih => exact .escape c ih

/-- Between quotes a protected text changes nothing.  The quotes in it are protected, and it ends
behind the last character that a backslash protects. -/
theorem Protected.after {cs : List Char} (h : Protected cs) (depth : Nat) :
    (GroupState.quoted depth).after cs = .quoted depth := by
  induction h with
  | nil => rfl
  | char hquote hescape _ ih =>
    rw [GroupState.after_cons, GroupState.next, if_neg hescape, if_neg hquote, ih]
  | escape c _ ih =>
    -- The backslash leads into the escaped place, and any character leads back.
    have hback : ((GroupState.quoted depth).next '\\').next c = .quoted depth := rfl
    rw [GroupState.after_cons, GroupState.after_cons, hback, ih]

/-- What a reader in a place has read: outside of quotes a text with so many open brackets, and
between quotes such a text, the opening quote and what stands behind it. -/
def GroupState.Reached : GroupState → List Char → Prop
  | plain depth, cs => Outside cs depth
  | quoted depth, cs =>
    ∃ front inner, cs = front ++ '"' :: inner ∧ Outside front depth ∧ Protected inner
  | escaped depth, cs =>
    ∃ front inner, cs = front ++ '"' :: inner ++ ['\\'] ∧ Outside front depth ∧ Protected inner

/-- Each character leads to a place that fits what has been read.  The cases are the places of the
reader, and in each of them the characters that change it. -/
theorem GroupState.Reached.next {s : GroupState} {cs : List Char} (h : s.Reached cs) (c : Char) :
    (s.next c).Reached (cs ++ [c]) := by
  cases s with
  | plain depth =>
    have h : Outside cs depth := h
    by_cases hquote : c = '"'
    · subst hquote
      exact ⟨cs, [], rfl, h, .nil⟩
    by_cases hopen : c = '(' ∨ c = '{'
    · rw [GroupState.next, if_neg hquote, if_pos hopen]
      exact .opening h (by simpa using hopen)
    by_cases hclose : c = ')' ∨ c = '}'
    · rw [GroupState.next, if_neg hquote, if_neg hopen, if_pos hclose]
      cases depth with
      | zero => exact .unmatched h (by simpa using hclose)
      | succ depth => exact .closing h (by simpa using hclose)
    · rw [GroupState.next, if_neg hquote, if_neg hopen, if_neg hclose]
      rw [not_or] at hopen hclose
      exact .char h (by simp [hquote, hopen, hclose])
  | quoted depth =>
    obtain ⟨front, inner, rfl, hfront, hinner⟩ := h
    by_cases hescape : c = '\\'
    · subst hescape
      exact ⟨front, inner, rfl, hfront, hinner⟩
    by_cases hquote : c = '"'
    · subst hquote
      exact .quoted hfront hinner
    · rw [GroupState.next, if_neg hescape, if_neg hquote]
      refine ⟨front, inner ++ [c], ?_, hfront, hinner.append (.char hquote hescape .nil)⟩
      rw [List.append_assoc, List.cons_append]
  | escaped depth =>
    obtain ⟨front, inner, rfl, hfront, hinner⟩ := h
    refine ⟨front, inner ++ ['\\', c], ?_, hfront, hinner.append (.escape c .nil)⟩
    simp

/-- A reader is in a place that fits the text that it has read.  The induction adds characters at
the end, as the grammar does. -/
theorem reached_after (cs : List Char) : ((GroupState.plain 0).after cs).Reached cs := by
  induction cs using List.reverseRecOn with
  | nil => exact Outside.nil
  | append_singleton cs c ih =>
    rw [GroupState.after_append]
    exact ih.next c

/-- **The place of a reader agrees with the grammar** of quotes and brackets. -/
theorem outside_iff {cs : List Char} {depth : Nat} :
    Outside cs depth ↔ (GroupState.plain 0).after cs = .plain depth := by
  constructor
  · intro h
    induction h with
    | nil => rfl
    | char _ hplain ih =>
      simp only [List.mem_cons, List.not_mem_nil, or_false, not_or] at hplain
      rw [GroupState.after_append, ih]
      simp [GroupState.next, hplain]
    | opening _ hopen ih =>
      rw [GroupState.after_append, ih]
      rcases List.mem_pair.1 hopen with rfl | rfl <;> rfl
    | closing _ hclose ih =>
      rw [GroupState.after_append, ih]
      rcases List.mem_pair.1 hclose with rfl | rfl <;> rfl
    | unmatched _ hclose ih =>
      rw [GroupState.after_append, ih]
      rcases List.mem_pair.1 hclose with rfl | rfl <;> rfl
    | @quoted cs inner depth _ hinner ih =>
      have hinside : (GroupState.plain depth).after ('"' :: inner) = .quoted depth :=
        hinner.after depth
      rw [GroupState.after_append, GroupState.after_append, ih, hinside]
      rfl
  · intro h
    have hreached := reached_after cs
    rwa [h] at hreached

/-! ### Cuts -/

/-- A comma behind a text that leads to top level cuts: the pieces are those of both sides.  The
last piece in front of the comma ends there, and what stands behind it is read from the start. -/
theorem piecesFrom_append_comma {s : GroupState} {before : List Char}
    (h : s.after before = .plain 0) (after : List Char) :
    piecesFrom s (before ++ ',' :: after) = piecesFrom s before ++ piecesFrom (.plain 0) after := by
  induction before generalizing s with
  | nil =>
    obtain rfl : s = .plain 0 := h
    rw [List.nil_append, piecesFrom_comma]
    rfl
  | cons c before ih =>
    by_cases hsep : s.separates c = true
    · obtain ⟨rfl, rfl⟩ := separates_eq_true_iff.1 hsep
      have hrest : (GroupState.plain 0).after before = .plain 0 := h
      rw [List.cons_append, piecesFrom_comma, piecesFrom_comma, ih hrest, List.cons_append]
    · rw [Bool.not_eq_true] at hsep
      rw [List.cons_append, piecesFrom_cons_of_not_separates hsep,
        piecesFrom_cons_of_not_separates hsep, ih h]
      obtain ⟨piece, rest, hp⟩ := List.exists_cons_of_ne_nil (piecesFrom_ne_nil (s.next c) before)
      rw [hp, List.cons_append, List.modifyHead_cons, List.modifyHead_cons, List.cons_append]

/-- Closed texts are closed together.  So a comma between two of them stands at top level. -/
theorem closed_commaJoin {pieces : List (List Char)} (h : ∀ p ∈ pieces, Closed p) :
    Closed (commaJoin pieces) := by
  induction pieces with
  | nil => rfl
  | cons piece pieces ih =>
    have hfirst : Closed piece := h piece (by simp)
    have hrest : Closed (commaJoin pieces) := ih fun p hp => h p (by simp [hp])
    cases pieces with
    | nil => rwa [commaJoin_singleton]
    | cons next pieces =>
      have hcomma : (GroupState.plain 0).next ',' = .plain 0 := rfl
      rw [commaJoin_cons_cons, Closed, GroupState.after_append, hfirst, GroupState.after_cons,
        hcomma, hrest]

/-- **A text is cut at a comma** exactly if the comma stands outside of quotes and brackets.  This
is about the places of the text and not about the pieces as a list, so it says that no other comma
cuts. -/
theorem exists_cut_iff {before after : List Char} :
    (∃ front back, front ≠ [] ∧ back ≠ [] ∧
        piecesFrom (.plain 0) (before ++ ',' :: after) = front ++ back ∧
        commaJoin front = before ∧ commaJoin back = after)
      ↔ Outside before 0 := by
  rw [outside_iff]
  constructor
  · rintro ⟨front, back, -, hback, hpieces, rfl, -⟩
    -- The pieces in front of the cut are not the last ones, hence closed.
    obtain ⟨-, -, hclosed⟩ := piecesFrom_spec (commaJoin front ++ ',' :: after)
    rw [hpieces, List.dropLast_append_of_ne_nil hback] at hclosed
    exact closed_commaJoin fun p hp => hclosed p (List.mem_append_left _ hp)
  · intro h
    refine ⟨piecesFrom (.plain 0) before, piecesFrom (.plain 0) after, piecesFrom_ne_nil _ _,
      piecesFrom_ne_nil _ _, piecesFrom_append_comma h after, ?_, ?_⟩
    · exact (piecesFrom_spec before).1
    · exact (piecesFrom_spec after).1

/-- **Splitting is lossless, exact and idempotent,** whatever the text is: its pieces, with commas
between them, are the text; it is cut at the commas outside of quotes and brackets and nowhere else;
the conditions are the pieces without the blanks around them, unless they are blank; and the
conditions, with commas between them, are split into the same conditions. -/
theorem splitConditions_cuts (cs : List Char) :
    ∃ pieces, commaJoin pieces = cs ∧
      splitConditions cs = (pieces.filter fun p => !(trim p).isEmpty).map trim ∧
      (∀ before after, cs = before ++ ',' :: after →
        ((∃ front back, front ≠ [] ∧ back ≠ [] ∧ pieces = front ++ back ∧
            commaJoin front = before ∧ commaJoin back = after)
          ↔ Outside before 0)) ∧
      splitConditions (commaJoin (splitConditions cs)) = splitConditions cs := by
  refine ⟨piecesFrom (.plain 0) cs, (piecesFrom_spec cs).1, ?_, ?_, ?_⟩
  · rw [splitConditions, List.filter_map]
    rfl
  · rintro before after rfl
    exact exists_cut_iff
  · exact splitConditions_commaJoin (separable_splitConditions cs)

/-- Commas in brackets, behind an unmatched bracket, behind a protected quote, and in a quote that
is never closed. -/
example : splitConditions "a.in.(x,y), b),c.eq.\"p\\\",q\",d.eq.\"r,s\\".toList
    = ["a.in.(x,y)".toList, "b)".toList, "c.eq.\"p\\\",q\"".toList, "d.eq.\"r,s\\".toList] := by
  rfl

end UrlFilter.Wire
