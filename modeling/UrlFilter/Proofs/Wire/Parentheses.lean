import UrlFilter.Condition
import UrlFilter.Proofs.Writing

namespace UrlFilter

open Text

/-!
# Groups without parentheses

The parentheses around written conditions may be left out, unless the last condition ends with a
parenthesis of its own: that one is taken for the end of the group, and the condition loses it.

* `Condition.EndsInParenthesis` — the value of a condition is a list in parentheses.
* `Wire.exists_getLast?_condition` — how a written condition ends.
* `Wire.splitConditions_unwrapGroup` — what is read of written conditions, with parentheses around
  them and without.
-/

namespace Condition

/-- A condition as it stands in a group. -/
def text (c : Condition) : List Char :=
  Wire.condition c.field c.operator c.value

/-- The value of the condition is a list in parentheses. -/
def EndsInParenthesis (c : Condition) : Prop :=
  c.value.isCollection = true ∧ c.operator.isArray = false

instance : DecidablePred EndsInParenthesis := fun c =>
  inferInstanceAs (Decidable (c.value.isCollection = true ∧ c.operator.isArray = false))

/-- The text of the condition without a parenthesis at its end. -/
def unclosed (c : Condition) : List Char :=
  if c.EndsInParenthesis then c.text.dropLast else c.text

/-- What has lost a parenthesis is another text.  A text that is not empty has a last character to
lose. -/
theorem unclosed_eq_text_iff (c : Condition) (h : c.text ≠ []) :
    c.unclosed = c.text ↔ ¬ c.EndsInParenthesis := by
  rw [unclosed]
  split
  · next hend =>
    refine iff_of_false (fun hsame => ?_) (not_not_intro hend)
    have hlength := congrArg List.length hsame
    have hpos := List.length_pos_of_ne_nil h
    rw [List.length_dropLast] at hlength
    omega
  · next hend => simp [hend]

end Condition

namespace Wire

/-! ### How conditions start and end -/

/-- **A written condition ends** with a bracket, a quote or a character that has no meaning, and
with a parenthesis only if its value is a list in parentheses. -/
theorem exists_getLast?_condition (field : String) (op : Operator) (v : Value) :
    ∃ c, (condition field op v).getLast? = some c ∧ isBlank c = false ∧ c ≠ ',' ∧
      (c = ')' ↔ v.isCollection = true ∧ op.isArray = false) := by
  by_cases hv : v.isCollection = true
  · obtain ⟨items, hitems⟩ := expression_collection op hv
    have htext : condition field op v
        = (field.toList ++ '.' :: (op.symbol.toList ++ '.' ::
          ((brackets op).1 :: commaJoin (items.map quoteItem)))) ++ [(brackets op).2] := by
      rw [condition, if_pos hv, hitems, listLiteral]
      simp
    rw [htext, List.getLast?_concat]
    refine ⟨_, rfl, (not_isBlank_brackets op).2, ?_⟩
    cases hop : op.isArray <;> simp [brackets, hop, hv]
  · -- A single value is written with quotes around it, or without any character with a meaning.
    obtain ⟨c, hlast, hblank, hcomma, hclose⟩ :
        ∃ c, (quoteItem v).getLast? = some c ∧ isBlank c = false ∧ c ≠ ',' ∧ c ≠ ')' := by
      rw [quoteItem]
      rcases quoteText_cases (scalar v) with h | ⟨h, hne, htrim, hplain⟩
      · rw [h, enquote, List.getLast?_concat]
        exact ⟨'"', rfl, by decide, by decide, by decide⟩
      · obtain ⟨c, hc⟩ := Option.ne_none_iff_exists'.1 (List.getLast?_eq_none_iff.not.2 hne)
        have hmeaning := hplain c (List.mem_of_getLast? hc)
        refine ⟨c, by rw [h, hc], (trim_eq_self_iff.1 htrim).2 c hc, ?_, ?_⟩ <;>
          · rintro rfl
            exact absurd hmeaning (by decide)
    have hne : quoteItem v ≠ [] := quoteText_ne_nil _
    refine ⟨c, ?_, hblank, hcomma, by simp [hclose, hv]⟩
    rw [condition, if_neg hv, List.getLast?_append_of_ne_nil _ (by simp),
      List.getLast?_cons_of_ne_nil (by simp), List.getLast?_append_of_ne_nil _ (by simp),
      List.getLast?_cons_of_ne_nil hne, hlast]

/-- A condition ends with a parenthesis exactly if its value is a list in parentheses.  No quote and
no plain character is taken for one. -/
theorem getLast?_text_eq_iff {c : Condition} :
    c.text.getLast? = some ')' ↔ c.EndsInParenthesis := by
  obtain ⟨d, hd, -, -, hclose⟩ := exists_getLast?_condition c.field c.operator c.value
  rw [Condition.text, hd, Option.some_inj, hclose, Condition.EndsInParenthesis]

/-- Without a parenthesis in front, a group at most loses one at its end.  Its opening and its
closing parenthesis are removed independently of each other. -/
theorem unwrapGroup_of_trim_eq {cs : List Char} (htrim : trim cs = cs)
    (hhead : cs.head? ≠ some '(') :
    unwrapGroup cs = if cs.getLast? = some ')' then cs.dropLast else cs := by
  simp only [unwrapGroup, htrim, if_neg hhead]

/-- Conditions on plain names, with commas between them, do not start with a parenthesis.  A plain
name has no character with a meaning, and so no parenthesis. -/
theorem head?_commaJoin_text_ne {conditions : List Condition}
    (h : ∀ c ∈ conditions, PlainName c.field) :
    (commaJoin (conditions.map Condition.text)).head? ≠ some '(' := by
  cases conditions with
  | nil => simp
  | cons c conditions =>
    have hname := h c (by simp)
    have hne : c.field.toList ≠ [] := by simpa using hname.1
    have htext : c.text ≠ [] := by simp [Condition.text, condition]
    rw [List.map_cons, head?_commaJoin_cons htext, Condition.text, condition,
      List.head?_append_of_ne_nil _ hne]
    intro hhead
    have hmeaning := hname.not_needsQuoting '(' (List.mem_of_head? hhead)
    exact absurd hmeaning (by decide)

/-- A reader keeps conditions on plain names apart.  Plain names are legible, and the writer closes
whatever it opens. -/
theorem separable_text {conditions : List Condition} (h : ∀ c ∈ conditions, PlainName c.field) :
    Separable (conditions.map Condition.text) ∧
      ∀ c ∈ conditions.map Condition.text, Closed c := by
  apply separable_of_plainName
  intro text htext
  obtain ⟨c, hc, rfl⟩ := List.mem_map.1 htext
  exact ⟨_, _, _, h c hc, rfl⟩

/-! ### The last parenthesis -/

/-- A condition without the parenthesis at its end is its field and a text that ends with no blank.
The items in front of the parenthesis end with no blank either, if there are any. -/
theorem exists_dropLast_text_eq {c : Condition} (hc : c.EndsInParenthesis) :
    ∃ tail, c.text.dropLast = c.field.toList ++ '.' :: tail ∧ dropEndWhile isBlank tail = tail := by
  obtain ⟨items, hitems⟩ := expression_collection c.operator hc.1
  refine ⟨c.operator.symbol.toList ++ '.' ::
    ((brackets c.operator).1 :: commaJoin (items.map quoteItem)), ?_, ?_⟩
  · rw [Condition.text, condition, if_pos hc.1, hitems, listLiteral]
    simp [List.dropLast_cons_of_ne_nil]
  have htrim : trim (commaJoin (items.map quoteItem)) = commaJoin (items.map quoteItem) := by
    apply trim_commaJoin
    · intro p hp
      obtain ⟨v, -, rfl⟩ := List.mem_map.1 hp
      exact quoteText_ne_nil _
    · intro p hp
      obtain ⟨v, -, rfl⟩ := List.mem_map.1 hp
      exact trim_quoteText _
  -- Behind the opening parenthesis there is nothing, or an item without blanks at its end.
  have hend : ∀ d ∈ ((brackets c.operator).1 :: commaJoin (items.map quoteItem)).getLast?,
      isBlank d = false := by
    intro d hd
    rw [List.getLast?_cons] at hd
    cases hlast : (commaJoin (items.map quoteItem)).getLast? with
    | none =>
      obtain rfl : (brackets c.operator).1 = d := by simpa [hlast] using hd
      exact (not_isBlank_brackets c.operator).1
    | some e =>
      obtain rfl : e = d := by simpa [hlast] using hd
      exact (trim_eq_self_iff.1 htrim).2 e hlast
  rw [dropEndWhile_append_cons (by decide), dropEndWhile_eq_self_iff.2 hend]

/-- A reader keeps conditions apart of which the last one has lost its parenthesis.  The last one
may stay open, for nothing follows it. -/
theorem separable_concat_dropLast {front : List Condition} {last : Condition}
    (h : ∀ c ∈ front ++ [last], PlainName c.field) (hlast : last.EndsInParenthesis) :
    Separable (front.map Condition.text ++ [last.text.dropLast]) := by
  obtain ⟨hsep, hclosed⟩ := separable_text h
  rw [List.map_append, List.map_singleton] at hsep hclosed
  have hname : PlainName last.field := h last (by simp)
  obtain ⟨tail, htail, hend⟩ := exists_dropLast_text_eq hlast
  have htrim : trim last.text.dropLast = last.text.dropLast := by
    rw [htail, trim_append_cons hname.trim_toList (by decide), hend]
  have hun : Unbroken (.plain 0) last.text.dropLast := by
    have hwhole : Unbroken (.plain 0) last.text := hsep.unbroken _ (by simp)
    rw [← List.dropLast_concat_getLast (hsep.ne_nil last.text (by simp)), unbroken_append] at hwhole
    exact hwhole.1
  have hback : Separable [last.text.dropLast] :=
    ⟨by simp [htail], by simpa using htrim, by simpa using hun, by simp⟩
  exact (hsep.sublist (List.sublist_append_left _ _)).append
    (fun c hc => hclosed c (List.mem_append_left _ hc)) hback

/-- Without parentheses around conditions, the last one loses a parenthesis at its end.  The text
ends like its last condition, and only the end is touched. -/
theorem unwrapGroup_commaJoin_text {front : List Condition} {last : Condition}
    (h : ∀ c ∈ front ++ [last], PlainName c.field) :
    unwrapGroup (commaJoin ((front ++ [last]).map Condition.text))
      = commaJoin (front.map Condition.text ++ [last.unclosed]) := by
  obtain ⟨hsep, -⟩ := separable_text h
  have hunwrap := unwrapGroup_of_trim_eq (trim_commaJoin hsep.ne_nil hsep.trimmed)
    (head?_commaJoin_text_ne h)
  rw [List.map_append, List.map_singleton] at hsep hunwrap ⊢
  have htext : last.text ≠ [] := hsep.ne_nil _ (by simp)
  -- The whole text ends like its last condition.
  rw [hunwrap, getLast?_commaJoin_concat _ htext, Condition.unclosed]
  simp only [getLast?_text_eq_iff]
  split
  · by_cases hfront : front.map Condition.text = []
    · rw [hfront, List.nil_append, List.nil_append, commaJoin_singleton, commaJoin_singleton]
    · rw [commaJoin_append hfront (by simp), commaJoin_append hfront (by simp),
        commaJoin_singleton, commaJoin_singleton, List.dropLast_append_of_ne_nil (by simp),
        List.dropLast_cons_of_ne_nil htext]
  · rfl

/-- What is read of conditions without parentheses around them. -/
theorem splitConditions_commaJoin_text {front : List Condition} {last : Condition}
    (h : ∀ c ∈ front ++ [last], PlainName c.field) :
    splitConditions (unwrapGroup (commaJoin ((front ++ [last]).map Condition.text)))
      = front.map Condition.text ++ [last.unclosed] := by
  have hsep : Separable (front.map Condition.text ++ [last.unclosed]) := by
    rw [Condition.unclosed]
    split
    · next hlast => exact separable_concat_dropLast h hlast
    · simpa using (separable_text h).1
  rw [unwrapGroup_commaJoin_text h, splitConditions_commaJoin hsep]

/-- **What is read of written conditions.**  In parentheses they are read as they were written.
Without parentheses around them they are too, exactly if the last one does not end with a
parenthesis of its own; otherwise it loses this parenthesis, and the others are read as they were
written. -/
theorem splitConditions_unwrapGroup {conditions : List Condition} (hne : conditions ≠ [])
    (h : ∀ c ∈ conditions, PlainName c.field) :
    splitConditions (unwrapGroup ('(' :: commaJoin (conditions.map Condition.text) ++ [')']))
        = conditions.map Condition.text ∧
      (splitConditions (unwrapGroup (commaJoin (conditions.map Condition.text)))
          = conditions.map Condition.text
        ↔ ∀ last ∈ conditions.getLast?, ¬ last.EndsInParenthesis) ∧
      ∀ last ∈ conditions.getLast?, last.EndsInParenthesis →
        splitConditions (unwrapGroup (commaJoin (conditions.map Condition.text)))
          = (conditions.map Condition.text).dropLast ++ [last.text.dropLast] := by
  obtain ⟨hsep, -⟩ := separable_text h
  have hread := splitConditions_commaJoin hsep
  obtain ⟨front, last, rfl⟩ := (List.eq_nil_or_concat conditions).resolve_left hne
  rw [List.concat_eq_append] at h hsep hread ⊢
  have hbare := splitConditions_commaJoin_text h
  have htext : last.text ≠ [] := hsep.ne_nil _ (List.mem_map.2 ⟨last, by simp, rfl⟩)
  simp only [List.getLast?_concat, Option.mem_some_iff, forall_eq']
  refine ⟨by rw [Writing.unwrapGroup_enclosed, hread], ?_, fun hlast => ?_⟩
  · rw [hbare, List.map_append, List.map_singleton, List.append_cancel_left_eq,
      List.singleton_inj, last.unclosed_eq_text_iff htext]
  · rw [hbare, Condition.unclosed, if_pos hlast, List.map_append, List.map_singleton,
      List.dropLast_concat]

/-- A bound and a list in parentheses. -/
def boundAndList : List Condition :=
  [⟨"made", .gte, .text "2024"⟩, ⟨"status", .among, .list [.text "new", .text "a)b"]⟩]

/-- The list loses its parenthesis where the group has none, and keeps it in front of the bound. -/
theorem boundAndList_splitConditions :
    boundAndList ≠ [] ∧ (∀ c ∈ boundAndList, PlainName c.field) ∧
      splitConditions (unwrapGroup (commaJoin (boundAndList.map Condition.text)))
        = ["made.gte.2024".toList, "status.in.(new,\"a)b\"".toList] ∧
      splitConditions (unwrapGroup (commaJoin (boundAndList.reverse.map Condition.text)))
        = ["status.in.(new,\"a)b\")".toList, "made.gte.2024".toList] := by
  have hne : boundAndList ≠ [] := by simp [boundAndList]
  have hnames : ∀ c ∈ boundAndList, PlainName c.field := by decide
  have hreversed : boundAndList.reverse ≠ [] := by simp [boundAndList]
  obtain ⟨-, -, hlost⟩ := splitConditions_unwrapGroup hne hnames
  obtain ⟨-, hkept, -⟩ := splitConditions_unwrapGroup hreversed (by decide)
  refine ⟨hne, hnames, ?_, ?_⟩
  · exact (hlost _ rfl (by decide)).trans rfl
  · refine (hkept.2 fun last hlast => ?_).trans rfl
    obtain rfl := Option.some.inj hlast
    decide

end Wire

end UrlFilter
