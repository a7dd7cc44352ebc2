import UrlFilter.Proofs.Wire.Cuts

namespace UrlFilter.Wire

open UrlFilter.Text

/-!
# Names in a group

A name stands in a group as it is, without quotes around it.  So only some names are found again.

* `Legible` — a name that a reader of a group finds again.
* `unbroken_iff`, `legible_iff` — the same by the places of the reader.
* `separable_of_legible` — a reader keeps conditions on such names apart.
* `splitConditions_sublist` — conditions are what is left of the text they come from.
* `legible_of_mem_splitConditions` — a name is legible if the second one of two conditions on it is
  found again.
-/

/-- A name that a reader of a group finds again: it holds no point, does not start with a blank,
closes its quotes and brackets, and has commas inside of these only. -/
structure Legible (name : List Char) : Prop where
  point : '.' ∉ name
  front : ∀ c ∈ name.head?, isBlank c = false
  closed : Outside name 0
  commas : ∀ before after, name = before ++ ',' :: after → ¬ Outside before 0

/-! ### The places of the reader -/

/-- Nothing separates a text exactly if no comma of it stands at top level.  The one is a property
of the places, which computes; the other is about the text. -/
theorem unbroken_iff {s : GroupState} {cs : List Char} :
    Unbroken s cs ↔ ∀ before after, cs = before ++ ',' :: after → s.after before ≠ .plain 0 := by
  induction cs generalizing s with
  | nil => simp [Unbroken]
  | cons c cs ih =>
    rw [Unbroken, ih]
    constructor
    · rintro ⟨hsep, hrest⟩ before after h
      cases before with
      | nil =>
        obtain ⟨rfl, -⟩ := List.cons_eq_cons.1 h
        rintro rfl
        exact absurd hsep (by decide)
      | cons d before =>
        obtain ⟨rfl, rfl⟩ := List.cons_eq_cons.1 h
        exact hrest before after rfl
    · intro h
      constructor
      · rw [Bool.eq_false_iff]
        intro hsep
        obtain ⟨rfl, rfl⟩ := separates_eq_true_iff.1 hsep
        exact h [] cs rfl rfl
      · rintro before after rfl
        exact h (c :: before) after rfl

/-- Nothing separates a text without commas. -/
theorem unbroken_of_not_mem {s : GroupState} {cs : List Char} (h : ',' ∉ cs) : Unbroken s cs := by
  rw [unbroken_iff]
  rintro before after rfl
  exact absurd (by simp) h

/-- A legible name in terms of the reader: it leaves the reader at top level, and nothing in it
separates. -/
theorem legible_iff {name : List Char} :
    Legible name ↔ '.' ∉ name ∧ (∀ c ∈ name.head?, isBlank c = false) ∧ Closed name ∧
      Unbroken (.plain 0) name := by
  have hcommas : (∀ before after, name = before ++ ',' :: after → ¬ Outside before 0)
      ↔ Unbroken (.plain 0) name := by
    simp only [unbroken_iff, outside_iff, ne_eq]
  constructor
  · rintro ⟨hpoint, hfront, hclosed, hall⟩
    exact ⟨hpoint, hfront, outside_iff.1 hclosed, hcommas.1 hall⟩
  · rintro ⟨hpoint, hfront, hclosed, hun⟩
    exact ⟨hpoint, hfront, outside_iff.2 hclosed, hcommas.2 hun⟩

instance decidableUnbroken : ∀ (s : GroupState) (cs : List Char), Decidable (Unbroken s cs)
  | _, [] => isTrue trivial
  | s, c :: cs =>
    have := decidableUnbroken (s.next c) cs
    inferInstanceAs (Decidable (s.separates c = false ∧ Unbroken (s.next c) cs))

instance : DecidablePred Legible := fun name =>
  decidable_of_iff ('.' ∉ name ∧ (name.head?.all fun c => !isBlank c) = true ∧ Closed name ∧
      Unbroken (.plain 0) name)
    (by simp only [legible_iff, Option.all_eq_true, Option.mem_def, Bool.not_eq_true'])

/-- Quotes and brackets protect a comma, and a bracket that is left open does not end a name. -/
example : Legible "\"a(,\" (b, c)".toList ∧ ¬ Legible "a(b".toList ∧ ¬ Legible "a,b".toList := by
  decide

/-! ### Conditions on legible names -/

/-- **A reader keeps conditions on legible names apart,** and they are closed.  Hence the conditions
may be written side by side, with commas between them. -/
theorem separable_of_legible {conditions : List (List Char)}
    (h : ∀ c ∈ conditions, ∃ name op v, Legible name.toList ∧ c = condition name op v) :
    Separable conditions ∧ ∀ c ∈ conditions, Closed c := by
  apply separable_conditions
  intro c hc
  obtain ⟨name, op, v, hname, rfl⟩ := h c hc
  obtain ⟨-, hfront, hclosed, hun⟩ := legible_iff.1 hname
  exact ⟨name, op, v, rfl, hfront, hun, hclosed⟩

/-! ### What is left of a text -/

/-- Trimming only takes characters away. -/
theorem trim_sublist (cs : List Char) : (trim cs).Sublist cs := by
  obtain ⟨before, after, he, -, -⟩ := exists_blanks_around_trim cs
  exact List.IsInfix.sublist ⟨before, after, he.symm⟩

/-- Pieces with a comma behind each are the joined pieces with a comma behind them. -/
theorem flatMap_comma {pieces : List (List Char)} (h : pieces ≠ []) :
    pieces.flatMap (· ++ [',']) = commaJoin pieces ++ [','] := by
  induction pieces with
  | nil => exact absurd rfl h
  | cons piece pieces ih =>
    by_cases hp : pieces = []
    · subst hp
      simp
    · rw [List.flatMap_cons, ih hp, commaJoin_cons_of_ne_nil piece hp]
      simp

/-- **Conditions are what is left of the text they come from,** with a comma behind each.  This
bounds the length of a condition by that of the text. -/
theorem splitConditions_sublist (cs : List Char) :
    ((splitConditions cs).flatMap (· ++ [','])).Sublist (cs ++ [',']) := by
  have hkept : ∀ pieces : List (List Char),
      ((((pieces.map trim).filter fun p => !p.isEmpty)).flatMap (· ++ [','])).Sublist
        (pieces.flatMap (· ++ [','])) := by
    intro pieces
    induction pieces with
    | nil => exact List.Sublist.refl _
    | cons piece pieces ih =>
      rw [List.map_cons, List.filter_cons, List.flatMap_cons]
      split
      · exact ((trim_sublist piece).append_right [',']).append ih
      · exact ih.trans (List.sublist_append_right _ _)
  have hpieces := hkept (piecesFrom (.plain 0) cs)
  rwa [flatMap_comma (piecesFrom_ne_nil _ _), (piecesFrom_spec cs).1] at hpieces

/-! ### Illegible names -/

/-- What starts a condition that is read is not separated, and does not start with a blank.  A part
of a condition inherits both from the whole. -/
theorem of_append_mem_splitConditions {start rest cs : List Char}
    (h : start ++ rest ∈ splitConditions cs) :
    Unbroken (.plain 0) start ∧ ∀ c ∈ start.head?, isBlank c = false := by
  obtain ⟨-, htrimmed, hun, -⟩ := separable_splitConditions cs
  refine ⟨(unbroken_append.1 (hun _ h)).1, fun c hc => ?_⟩
  refine (trim_eq_self_iff.1 (htrimmed _ h)).1 c ?_
  rw [List.head?_append, Option.mem_def.1 hc]
  rfl

/-- A character that needs no quotes has no meaning.  With quotes around it, the text would be
longer. -/
theorem not_needsQuoting_of_quoteText {d : Char} (h : quoteText [d] = [d]) :
    needsQuoting d = false := by
  rcases quoteText_cases [d] with hq | ⟨-, -, -, hplain⟩
  · have hlength := congrArg List.length (h.symm.trans hq)
    simp [enquote] at hlength
  · exact hplain d (by simp)

/-- Where a condition is left open, each condition that is read starts with it, or is shorter than
what stands behind the comma.  An open condition takes in the comma behind it and at least what
follows up to the next cut, so too little is left for a long condition. -/
theorem of_mem_splitConditions_open {first second c : List Char} (hne : first ≠ [])
    (htrim : trim first = first) (hun : Unbroken (.plain 0) first) (hopen : ¬ Closed first)
    (hc : c ∈ splitConditions (first ++ ',' :: second)) :
    first <+: c ∨ c.length < second.length := by
  have hsingle : Separable ([] ++ [first]) := by
    refine ⟨?_, ?_, ?_, ?_⟩ <;> simp [hne, htrim, hun]
  obtain ⟨glued, others, hsplit⟩ := splitConditions_open_append hsingle hopen second
  rw [List.nil_append, commaJoin_singleton, List.nil_append] at hsplit
  have hlength := (splitConditions_sublist (first ++ ',' :: second)).length_le
  rw [hsplit] at hc hlength
  rcases List.mem_cons.1 hc with rfl | hc
  · exact .inl (List.prefix_append _ _)
  · -- The open condition and the commas around it take their part of the text.
    obtain ⟨front, back, rfl⟩ := List.append_of_mem hc
    simp only [List.flatMap_cons, List.flatMap_append, List.length_append, List.length_cons,
      List.length_nil] at hlength
    exact .inr (by omega)

/-- **A name is legible if the second one of two conditions on it is found again.**  Let two bounds
be written for a name without a point, each of one character without a meaning.  If a condition that
is read has the name and the operator of the second one, and some value, the name is legible. -/
theorem legible_of_mem_splitConditions {name : String} (hpoint : '.' ∉ name.toList) {d : Char}
    (hd : quoteText [d] = [d]) {value : List Char} (hvalue : value ≠ [])
    (hmem : name.toList ++ '.' :: (Operator.lte.symbol.toList ++ '.' :: value)
      ∈ splitConditions (commaJoin [condition name .gte (.text (String.ofList [d])),
        condition name .lte (.text (String.ofList [d]))])) :
    Legible name.toList := by
  have hcondition : ∀ op : Operator, condition name op (.text (String.ofList [d]))
      = name.toList ++ '.' :: (op.symbol.toList ++ '.' :: [d]) := by
    intro op
    rw [condition_text, String.toList_ofList, hd]
  rw [commaJoin_cons_cons, commaJoin_singleton] at hmem
  obtain ⟨hname, hfront⟩ := of_append_mem_splitConditions hmem
  have hplain : ∀ c ∈ '.' :: (Operator.gte.symbol.toList ++ '.' :: [d]),
      needsQuoting c = false := by
    simp only [List.forall_mem_cons, List.forall_mem_append, List.not_mem_nil, false_implies,
      implies_true, and_true]
    exact ⟨by decide, not_needsQuoting_symbol .gte, by decide, not_needsQuoting_of_quoteText hd⟩
  have hcomma : ',' ∉ '.' :: (Operator.gte.symbol.toList ++ '.' :: [d]) :=
    fun h => absurd (hplain _ h) (by decide)
  -- If the first condition were left open, the second one would not be read as a whole.
  have hfirst : Closed (condition name .gte (.text (String.ofList [d]))) := by
    by_contra hopen
    have hunbroken : Unbroken (.plain 0) (condition name .gte (.text (String.ofList [d]))) := by
      rw [hcondition]
      exact unbroken_append.2 ⟨hname, unbroken_of_not_mem hcomma⟩
    rcases of_mem_splitConditions_open (condition_ne_nil _ _ _) (trim_condition hfront _ _)
      hunbroken hopen hmem with hstart | hshort
    · rw [hcondition, List.prefix_append_right_inj] at hstart
      exact absurd hstart (by simp [Operator.symbol])
    · rw [hcondition] at hshort
      have hpos := List.length_pos_of_ne_nil hvalue
      simp only [List.length_append, List.length_cons, List.length_nil] at hshort
      omega
  have hclosed : Closed name.toList := by
    rw [hcondition, Closed, GroupState.after_append] at hfirst
    exact eq_plain_of_after hplain hfirst
  exact legible_iff.2 ⟨hpoint, hfront, hclosed, hname⟩

end UrlFilter.Wire
