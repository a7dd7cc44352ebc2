import UrlFilter.Proofs.Memory.Conjunction
import UrlFilter.Proofs.Text.Regex

namespace UrlFilter

open UrlFilter.Text

/-!
# Searches by a pattern

What the two operators of patterns find in memory.

* `Memory.like_iff` — the pattern is tested as a regular expression, which also overlooks a line
  break at the end of the text.
* `Memory.fits_substringPattern_iff` — a search between two `%` overlooks nothing.
* `Memory.ofTexts_text` — where a test of texts has an answer.
* `Memory.Query.filterM_andThen_iff` — the records that meet one more predicate.
* `Memory.found_eq` — what is found by the filter of a pattern.
* `Memory.found_of_infix` — a longer search finds no more.
-/

namespace Memory

/-! ### Patterns -/

/-- **What a pattern is tested for.**  The test always gives an answer, namely that of the regular
expression of the pattern.  It is yes where the pattern fits the whole text, and also where it fits
the text without a line break at its end.  So the answer is right unless the text ends with a line
break and the pattern fits what stands in front of it, but not the whole text.  A pattern that ends
with `%` fits such a text itself, so the answer is right there. -/
theorem like_iff (x p : String) :
    ∃ b, holds .like (.text x) (.text p) = .ok b ∧
      (b = true ↔ (Pattern.regex p.toList).MatchesStart (· == ·) x.toList) ∧
      (b = true ↔ Pattern.Fits (· == ·) p.toList x.toList ∨
        ∃ y, x.toList = y ++ ['\n'] ∧ Pattern.Fits (· == ·) p.toList y) ∧
      ((b = true ↔ Pattern.Fits (· == ·) p.toList x.toList) ↔
        ∀ y, x.toList = y ++ ['\n'] → Pattern.Fits (· == ·) p.toList y →
          Pattern.Fits (· == ·) p.toList x.toList) := by
  refine ⟨Pattern.accepts (· == ·) p.toList x.toList, rfl, Pattern.matchesStart_regex_iff.symm,
    Pattern.accepts_iff, ?_⟩
  -- The answer is right exactly if overlooking the line break adds nothing.
  rw [Pattern.accepts_iff, or_iff_left_iff_imp]
  constructor
  · exact fun h y hx hy => h ⟨y, hx, hy⟩
  · rintro h ⟨y, hx, hy⟩
    exact h y hx hy

/-- The line break behind the letter is overlooked. -/
example : holds .like (.text "a\n") (.text "a") = .ok true := rfl

/-- A pattern between two `%` fits the values that have a text in which a stretch fits it.  A line
break at the end is itself a stretch, so overlooking it changes nothing. -/
theorem fits_substringPattern_iff {same : Char → Char → Bool} {v : Value} {t : String} :
    fits same v (.text (Condition.substringPattern t)) = true ↔
      v.isNull = false ∧ ∃ part, part <:+: v.shown.toList ∧ Pattern.Fits same t.toList part := by
  have hpattern : (Value.text (Condition.substringPattern t)).shown.toList
      = ('%' :: t.toList) ++ ['%'] := by
    rw [Value.shown, Condition.substringPattern, String.toList_append, String.toList_append]
    rfl
  -- The `%` at the end takes in a line break as well as anything else.
  rw [fits, Bool.and_eq_true, Bool.not_eq_true', hpattern, Pattern.accepts_append_stretch,
    List.cons_append, Pattern.fits_substring_iff]

/-- What has a stretch that fits a text has a stretch that fits any part of this text.  The part may
cut the text anywhere, also behind a character that stands for any other. -/
theorem fits_of_infix {same : Char → Char → Bool} {v w : String} (hvw : v.toList <:+: w.toList)
    {x : Value} (h : fits same x (.text (Condition.substringPattern w)) = true) :
    fits same x (.text (Condition.substringPattern v)) = true := by
  rw [fits_substringPattern_iff] at h ⊢
  obtain ⟨hx, part, hpart, hfits⟩ := h
  obtain ⟨part', hpart', hfits'⟩ := hfits.exists_infix hvw
  exact ⟨hx, part', hpart'.trans hpart, hfits'⟩

/-- The letters that an operator of patterns takes as the same.  Only one of the two takes letters
of both cases as the same. -/
def sameUnder : Operator → Char → Char → Bool
  | .ilike => sameLetter
  | _ => (· == ·)

theorem holds_of_isPattern {op : Operator} (hop : op.isPattern = true) (v operand : Value) :
    holds op v operand = ofTexts v operand (fits (sameUnder op) v operand) := by
  cases op with
  | like => rfl
  | ilike => rfl
  | _ => exact absurd hop (by decide)

/-- A value is tested against a text if it can be written, as the absent one can.  The absent value
is never written, so its text is not asked for. -/
theorem ofTexts_text (v : Value) (s : String) (answer : Bool) :
    ofTexts v (.text s) answer
      = if v.isWritable then .ok answer else .error (.noResult .tooManyDigits) := by
  have hnull : v.isNull = true → v.isWritable = true := by
    intro h
    obtain rfl : v = .null := by
      cases v <;> first | rfl | exact absurd h Bool.false_ne_true
    rfl
  rw [ofTexts, Value.isWritable_text, Bool.and_true]
  cases hv : v.isWritable with
  | true => simp
  | false =>
    have hgiven : v.isNull = false := by
      rw [← Bool.not_eq_true]
      exact fun h => Bool.false_ne_true (hv.symm.trans (hnull h))
    simp [hgiven]

/-! ### One more predicate -/

variable {ρ : Type}

/-- The record meets all predicates of the query.  Predicates are asked one after another until one
of them fails. -/
def Query.isMetBy (q : Query ρ) : Predicate ρ := fun r =>
  q.predicates.allM fun p => p r

/-- The record meets all predicates of the query, and is then asked one more.  A record that fails
an earlier predicate is never asked. -/
def Query.andThen (q : Query ρ) (last : Predicate ρ) : Predicate ρ := fun r =>
  q.isMetBy r >>= fun passes => if passes then last r else .ok false

theorem Query.matching_concat (q : Query ρ) (last : Predicate ρ) :
    Query.matching { q with predicates := q.predicates ++ [last] }
      = q.records.filterM (q.andThen last) := by
  simp only [matching, allM_concat]
  rfl

/-- **The records that meet one more predicate.**  There is an answer if there is one for the query
and the predicate has one for each record that meets it, and they are the records that meet both. -/
theorem Query.filterM_andThen_iff {q : Query ρ} {last : Predicate ρ} {rows : List ρ} :
    q.records.filterM (q.andThen last) = .ok rows ↔
      ∃ matched, q.matching = .ok matched ∧ matched.filterM last = .ok rows := by
  -- One more predicate is asked only of the records that meet the others.
  have hanswer : ∀ r, (∃ b, q.andThen last r = .ok b) ↔ (∃ b, q.isMetBy r = .ok b) ∧
      ((q.isMetBy r).toOption.getD false = true → ∃ b, last r = .ok b) := by
    intro r
    rw [andThen]
    cases q.isMetBy r with
    | error e => simp [bind, Except.bind]
    | ok passes => cases passes <;> simp [bind, Except.bind, Except.toOption]
  -- A record is left if it meets the query and then the predicate.
  have hpasses : ∀ r, (q.andThen last r).toOption.getD false
      = ((q.isMetBy r).toOption.getD false && (last r).toOption.getD false) := by
    intro r
    rw [andThen]
    cases q.isMetBy r with
    | error e => rfl
    | ok passes => cases passes <;> rfl
  have hmatching : q.matching = q.records.filterM q.isMetBy := rfl
  simp only [hmatching, filterM_eq_ok_iff, hanswer, hpasses]
  constructor
  · rintro ⟨hall, rfl⟩
    refine ⟨_, ⟨fun r hr => (hall r hr).1, rfl⟩, fun r hr => ?_, ?_⟩
    · obtain ⟨hr, hmeets⟩ := List.mem_filter.1 hr
      exact (hall r hr).2 hmeets
    · rw [List.filter_filter]
      exact List.filter_congr fun r _ => Bool.and_comm _ _
  · rintro ⟨_, ⟨hall, rfl⟩, hlast, rfl⟩
    refine ⟨fun r hr => ⟨hall r hr, fun hmeets => hlast r (List.mem_filter.2 ⟨hr, hmeets⟩)⟩, ?_⟩
    rw [List.filter_filter]
    exact List.filter_congr fun r _ => Bool.and_comm _ _

/-! ### Filters of patterns -/

/-- The filter that searches a field for a text.  Its text is put between two `%` when the filter
becomes a condition. -/
def searchOf (c : Field) (op : Operator) (t : String) : Filter :=
  ⟨c.name, op, .text t, some c, c.name⟩

variable [Record ρ]

/-- The records that meet a query and a search of a field for a text.  The page of the query does
not matter here. -/
def found (fields : Option (List String)) (operators : List Operator) (q : Query ρ) (c : Field)
    (op : Operator) (t : String) : Except Error (List ρ) := do
  (← (backend ρ fields operators).apply q none none [searchOf c op t]).matching

/-- A search for a text makes one condition.  An empty text would make none. -/
theorem ofFilter_searchOf (c : Field) {op : Operator} (hop : op.isPattern = true) {t : String}
    (ht : t ≠ "") :
    Condition.ofFilter Condition.substringPattern (searchOf c op t)
      = .ok [⟨c.column, op, .text (Condition.substringPattern t)⟩] := by
  have hempty : (Value.text t).isEmpty = false := by simpa using ht
  have hpredicate := Condition.hasPredicate_of_isPattern hop (.text t)
  have hbetween : op ≠ .between := by
    rintro rfl
    exact absurd hop (by decide)
  rw [Condition.ofFilter_of_ne_between _ (f := searchOf c op t) rfl hbetween]
  simp [searchOf, hempty, hpredicate, Condition.operand, hop, Value.asText?]

/-- **What a search finds.**  The backend may refuse the operator or the column, whatever the text.
Otherwise the records are asked one more predicate: whether their field has a stretch that fits the
text. -/
theorem found_eq (fields : Option (List String)) (operators : List Operator) (q : Query ρ)
    (c : Field) {op : Operator} (hop : op.isPattern = true) {t : String} (ht : t ≠ "") :
    found fields operators q c op t
      = if operators.contains op then
          if Condition.allowed fields c.column then
            q.records.filterM (q.andThen fun r =>
              if (Record.read r c.column).isWritable then
                .ok (fits (sameUnder op) (Record.read r c.column)
                  (.text (Condition.substringPattern t)))
              else .error (.noResult .tooManyDigits))
          else .error (.unknownField c.column "records"
            (Error.sortedNames (fields.getD []).eraseDups))
        else .error (.notAmong operators op) := by
  have hof := ofFilter_searchOf c hop ht
  have hmade : Condition.ofFilters Condition.substringPattern none [searchOf c op t]
      = .ok [⟨c.column, op, .text (Condition.substringPattern t)⟩] := by
    rw [Condition.ofFilters_eq (List.forall_mem_singleton.2 (Filter.ofFilter_eq_conditions hof)),
      List.flatMap_singleton, Filter.conditions_of_eq_ok hof]
  -- The operator is checked before the column, so its error comes first.
  by_cases hop' : operators.contains op = true
  · have happly : (backend ρ fields operators).apply q none none [searchOf c op t]
        = narrow fields operators q ⟨c.column, op, .text (Condition.substringPattern t)⟩ := by
      rw [Backend.apply_of_supported (backend ρ fields operators) q hmade
        (List.forall_mem_singleton.2 (List.contains_iff_mem.1 hop'))]
      exact bind_pure _
    rw [if_pos hop', found, happly, narrow]
    by_cases hcolumn : Condition.allowed fields c.column = true
    · rw [if_pos hcolumn, if_pos hcolumn, if_pos hop']
      have hmeets : (meets ⟨c.column, op, .text (Condition.substringPattern t)⟩ : Predicate ρ)
          = fun r => if (Record.read r c.column).isWritable then
              .ok (fits (sameUnder op) (Record.read r c.column)
                (.text (Condition.substringPattern t)))
            else .error (.noResult .tooManyDigits) := by
        funext r
        rw [meets, holds_of_isPattern hop, ofTexts_text]
      rw [← hmeets]
      exact q.matching_concat _
    · rw [if_neg hcolumn, if_neg hcolumn]
      rfl
  · have hnot : op ∉ operators := fun h => hop' (List.contains_iff_mem.2 h)
    have hcheck : (backend ρ fields operators).checkSupported
        [⟨c.column, op, .text (Condition.substringPattern t)⟩]
          = .error (.notAmong operators op) := by
      simp [Backend.checkSupported, Backend.supports, backend, hnot]
    rw [if_neg hop', found, Backend.apply, pattern_backend, hmade]
    simp only [bind, Except.bind, hcheck]

/-- **A longer search finds no more.**  Let one text be part of another, whatever its characters
stand for in a pattern.  Then a search of a field for the longer text fails exactly if the one for
the shorter text does, and with the same error; this happens only where the backend does not take
such a search, the query has no result or one of its records has an integer in the field that is too
long to be written.  Otherwise all records that the longer text finds are found by the shorter one
too, in the same order, and these are records of the query. -/
theorem found_of_infix (fields : Option (List String)) (operators : List Operator) (q : Query ρ)
    (c : Field) {op : Operator} (hop : op.isPattern = true) {v w : String} (hv : v ≠ "")
    (hvw : v.toList <:+: w.toList) :
    (∀ e, found fields operators q c op w = .error e ↔ found fields operators q c op v = .error e) ∧
      (operators.contains op = true → Condition.allowed fields c.column = true →
        ∀ matched, q.matching = .ok matched →
          ((∃ rows, found fields operators q c op w = .ok rows) ↔
            ∀ r ∈ matched, (Record.read r c.column).isWritable = true)) ∧
      ∀ rows, found fields operators q c op w = .ok rows →
        ∃ matched more, q.matching = .ok matched ∧ found fields operators q c op v = .ok more ∧
          rows.Sublist more ∧ more.Sublist matched ∧
          ∀ r ∈ matched, (r ∈ rows ↔ (Record.read r c.column).isNull = false ∧
            ∃ part, part <:+: (Record.read r c.column).shown.toList ∧
              Pattern.Fits (sameUnder op) w.toList part) := by
  have hw : w ≠ "" := by
    rintro rfl
    exact hv (String.toList_eq_nil_iff.1 (List.infix_nil.1 hvw))
  -- Both searches are refused on the same grounds, which leaves the records that are tested.
  rw [found_eq fields operators q c hop hw, found_eq fields operators q c hop hv]
  by_cases hop' : operators.contains op = true
  swap
  · rw [if_neg hop', if_neg hop']
    exact ⟨fun _ => Iff.rfl, fun h => absurd h hop', by simp⟩
  by_cases hcolumn : Condition.allowed fields c.column = true
  swap
  · rw [if_pos hop', if_neg hcolumn, if_pos hop', if_neg hcolumn]
    exact ⟨fun _ => Iff.rfl, fun _ h => absurd h hcolumn, by simp⟩
  rw [if_pos hop', if_pos hcolumn, if_pos hop', if_pos hcolumn]
  refine ⟨filterM_error_iff fun r _ e => ?_, fun _ _ matched hmatching => ?_, fun rows hrows => ?_⟩
  · -- Whether a record can be tested has nothing to do with the text that is looked for.
    rw [Query.andThen, Query.andThen]
    cases q.isMetBy r with
    | error fault => rfl
    | ok passes =>
      cases passes <;> cases (Record.read r c.column).isWritable <;> simp [bind, Except.bind]
  · simp only [Query.filterM_andThen_iff, hmatching, filterM_ite_eq_ok_iff]
    simp
  · obtain ⟨matched, hmatching, hrows⟩ := Query.filterM_andThen_iff.1 hrows
    obtain ⟨hwritable, rfl⟩ := filterM_ite_eq_ok_iff.1 hrows
    refine ⟨matched, _, hmatching,
      Query.filterM_andThen_iff.2 ⟨matched, hmatching, filterM_ite_eq_ok_iff.2 ⟨hwritable, rfl⟩⟩,
      ?_, List.filter_sublist, fun r hr => ?_⟩
    · exact List.monotone_filter_right matched fun r hr => fits_of_infix hvw hr
    · rw [List.mem_filter, fits_substringPattern_iff, and_iff_right hr]

/-- A record with a name.  It has no other fields. -/
def named (s : String) : Value :=
  .map [("name", .text s)]

/-- Three names but one, and a record without a name.  The name that is left out stands there as
well. -/
def fourNames : Query Value where
  records := [named "Axb1", named "xb", named "b", .map []]
  predicates := [meets ⟨"name", .neq, .text "b"⟩]

/-- Without regard to case `a_b%` finds one of the names, and so does `_b` among others. -/
theorem fourNames_found_of_infix :
    ∃ matched more, fourNames.matching = .ok matched ∧
      found none Operator.wire fourNames (.ofKind .text "name") .ilike "_b" = .ok more ∧
      [named "Axb1"].Sublist more ∧ more.Sublist matched := by
  have hpattern : Operator.isPattern .ilike = true := rfl
  have hpart : "_b".toList <:+: "a_b%".toList := ⟨['a'], ['%'], rfl⟩
  have hlonger : found none Operator.wire fourNames (.ofKind .text "name") .ilike "a_b%"
      = .ok [named "Axb1"] := rfl
  obtain ⟨-, -, hfound⟩ :=
    found_of_infix none Operator.wire fourNames (.ofKind .text "name") hpattern (by decide) hpart
  obtain ⟨matched, more, hmatched, hmore, hrows, hsublist, -⟩ := hfound _ hlonger
  exact ⟨matched, more, hmatched, hmore, hrows, hsublist⟩

end Memory

end UrlFilter
