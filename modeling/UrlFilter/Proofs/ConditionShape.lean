import UrlFilter.Proofs.Backend.RawAgreement
import UrlFilter.Proofs.CustomKey
import UrlFilter.Proofs.Presence
import UrlFilter.Proofs.Stability

namespace UrlFilter

open Reading

/-!
# The shape of conditions

The value of a condition has the shape that its operator needs: a list of texts, a yes or no, or a
text.  There is one exception: a text that is no word for absence or presence stays the value of
`isNull`, as nothing drops it.

* `Condition.Shaped`, `Condition.Unworded` — the shapes, and the exception.
* `Condition.shaped_or_unworded` — what the values that reading gives make.
* `Scheme.asked` — the filters that parameters ask for, apart from those that fields start with.
* `Scheme.RangesOnly.exists_conditions_asked` — what these filters make.
* `Scheme.RangesOnly.conditions_shaped` — the conditions of parameters, with and without fields.
-/

variable {pattern : String → String}

namespace Condition

/-- The value has the shape that the operator needs.  A range never reaches a condition: it has been
split into its bounds before. -/
def Shaped (c : Condition) : Prop :=
  match c.operator with
  | .among | .notAmong | .contains | .containedBy | .overlaps =>
    ∃ texts : List String, c.value = .list (texts.map .text)
  | .is | .isNull => ∃ b, c.value = .bool b
  | .between => False
  | _ => ∃ t, c.value = .text t

/-- The condition asks for absence or presence with a text that is no word for either.  Any other
value of this operator is a yes or no. -/
def Unworded (c : Condition) : Prop :=
  c.operator = .isNull ∧ ∃ t, c.value = .text t ∧ t ≠ "" ∧ Wire.TriState.read? t.toList = none

/-- A condition is not both.  So the exception is a real one. -/
theorem Unworded.not_shaped {c : Condition} (h : c.Unworded) : ¬ c.Shaped := by
  obtain ⟨hop, t, hvalue, -⟩ := h
  simp [Shaped, hop, hvalue]

/-- A text is what an operator needs that takes neither a list nor a yes or no.  The text may be a
pattern, a bound or a search. -/
theorem shaped_text {op : Operator} (hwire : op.onWire = true) (hm : op.isMulti = false)
    (his : op ≠ .is) (hnull : op ≠ .isNull) (column t : String) :
    (⟨column, op, .text t⟩ : Condition).Shaped := by
  -- One case for each operator; those that need another shape contradict a hypothesis.
  cases op <;> first | exact ⟨t, rfl⟩ | simp_all [Operator.onWire, Operator.isMulti]

/-- A list of texts is what an operator needs that takes a list.  Nothing is said of how many items
there are. -/
theorem shaped_list {op : Operator} (hm : op.isMulti = true) (column : String)
    (texts : List (List Char)) :
    (⟨column, op, .list (texts.map fun x => .text (String.ofList x))⟩ : Condition).Shaped := by
  have hshape : ∃ strings : List String, Value.list (texts.map fun x => .text (String.ofList x))
      = .list (strings.map .text) := ⟨texts.map String.ofList, by rw [List.map_map]; rfl⟩
  cases op <;> first | exact hshape | exact absurd hm (by decide)

/-- **A value that reading gives makes a condition of the right shape,** unless it is a text for
absence or presence.  A text for `is` has no predicate and makes no condition, but a text for
`isNull` has one. -/
theorem shaped_or_unworded {op : Operator} {v : Value} (hwire : op.onWire = true)
    (hsettled : Wire.Settled op v) (hset : v.isEmpty = false)
    (hpredicate : hasPredicate op v = true) (column : String) :
    (⟨column, op, operand pattern op v⟩ : Condition).Shaped ∨
      (⟨column, op, operand pattern op v⟩ : Condition).Unworded := by
  -- Settled values are lists, yes or no, and texts; the other kinds of values are none.
  match v, hsettled with
  | .list items, ⟨hm, texts, hitems⟩ =>
    have hoperand : operand pattern op (.list items) = .list items := by
      unfold operand
      split <;> rfl
    rw [hoperand, hitems]
    exact .inl (shaped_list hm column texts)
  | .bool b, hop => rcases hop with rfl | rfl <;> exact .inl ⟨b, rfl⟩
  | .text t, ⟨hm, _, hword⟩ =>
    -- A text for a yes or no has no predicate, so that it has been dropped.
    have his : op ≠ .is := by
      rintro rfl
      simp [hasPredicate, Value.isBool] at hpredicate
    by_cases hnull : op = .isNull
    · -- Nothing asks for a yes or no here.
      subst hnull
      refine .inr ⟨rfl, t, rfl, ?_, hword (.inr rfl)⟩
      rintro rfl
      exact absurd hset (by decide)
    · -- A pattern is a text, too.
      obtain ⟨s, hs⟩ : ∃ s, operand pattern op (.text t) = .text s := by
        unfold operand
        split
        · exact ⟨_, rfl⟩
        · exact ⟨t, rfl⟩
      rw [hs]
      exact .inl (shaped_text hwire hm his hnull column s)

end Condition

/-! ### Parameters without fields -/

namespace Backend

/-- The conditions of parameters without fields have the right shape, or ask for absence without a
word for it.  It does not matter which columns there are, and which of them are allowed. -/
theorem shaped_or_unworded_of_mem_rawConditions {supports : Operator → Bool} {groupKey : String}
    {names : Option (List String)} {params : Params} {c : Condition}
    (h : c ∈ rawConditions pattern supports groupKey names params) : c.Shaped ∨ c.Unworded := by
  obtain ⟨column, raw, -, hmade⟩ := exists_of_mem_rawConditions h
  obtain ⟨op, v, hread, -, hset, hpredicate, rfl⟩ := exists_read_of_rawCondition? hmade
  obtain ⟨hwire, hsettled⟩ := Wire.settled_of_read? hread
  exact Condition.shaped_or_unworded hwire hsettled hset hpredicate column

/-- **Every condition that asks for absence without a word for it is attached** by its own
parameter. -/
theorem rawConditions_ownParameter_of_unworded {supports : Operator → Bool}
    (hsupports : supports .isNull = true) {groupKey : String} {c : Condition} (h : c.Unworded)
    (hne : c.field ≠ groupKey) :
    rawConditions pattern supports groupKey none (ownParameter c) = [c] := by
  obtain ⟨column, op, v⟩ := c
  obtain ⟨rfl, t, rfl, ht, hword⟩ := h
  -- The text is not empty, so that neither test stops it.
  have hset : (Value.text t).isEmpty = false := by simp [ht]
  have hsettled : Wire.Settled .isNull (.text t) :=
    ⟨rfl, fun h => absurd h (by decide), fun _ => hword⟩
  rw [rawConditions_ownParameter pattern supports hne,
    rawCondition?_written hsupports rfl hsettled, hset]
  rfl

end Backend

/-! ### Parameters of fields -/

namespace Scheme

/-- The filters that parameters ask for, and the names of the fields that count as asked for: all
filters but those that fields which are always on start with.  Those that fields start with are left
out since their values were never read: a field may start with anything. -/
def asked (s : Scheme) (params : Params) : Except Error (List Filter × List String) := do
  let (params, conditions) := s.withoutGroup params
  let (direct, seen) ← directFrom s [] params.entries
  let (grouped, seen) := unseen seen (groupedFilters s conditions)
  return (direct ++ grouped, seen)

variable {s : Scheme}

/-- Reading adds the start filters to those that are asked for.  The fields that are asked for
decide which of them are added. -/
theorem read_eq_asked (s : Scheme) (p : Params) :
    s.read p = (s.asked p).bind fun made => (alwaysOn s made.2).map fun always =>
      ⟨made.1 ++ always, (s.withoutGroup p).1.filterKeys fun key => (s.fieldOf? key).isNone⟩ := by
  unfold read asked
  simp only [bind, Except.bind]
  -- Both sides go through the same steps, and stop at the same errors.
  cases directFrom s [] (s.withoutGroup p).1.entries with
  | error e => rfl
  | ok made =>
    simp only [pure, Except.pure]
    cases alwaysOn s (unseen made.2 (groupedFilters s (s.withoutGroup p).2)).2 <;> rfl

/-- The filters that texts ask for are ranges of fields, or ask for values that their operators take
as they are.  There is no error on the way, whatever the texts are. -/
theorem RangesOnly.exists_asked (hranges : s.RangesOnly) {p : Params}
    (htext : ∀ e ∈ s.beside p, e.2.Textual) :
    ∃ asked seen, s.asked p = .ok (asked, seen) ∧ ∀ f ∈ asked,
      (∃ r : FieldRange s, r.filter = f) ∨
        ∃ c ∈ s.fields, ∃ op v, op.onWire = true ∧ Wire.Settled op v ∧
          f = ⟨c.name, op, v, some c, c.name⟩ := by
  have htexts := textual_withoutGroup htext
  obtain ⟨direct, seen, hdirect⟩ := exists_directFrom (s := s) htexts []
  obtain ⟨after, hunseen, -⟩ :=
    unseen_eq (nodup_field_groupedFilters (s := s) (s.withoutGroup p).2) seen
  have hasked : s.asked p = .ok (direct ++ (groupedFilters s (s.withoutGroup p).2).filter
      fun f => !seen.contains f.field, after) := by
    simp only [asked, hdirect, hunseen, bind, Except.bind, pure, Except.pure]
  refine ⟨_, _, hasked, fun f hf => ?_⟩
  -- A filter comes from a parameter of its own or from the grouping parameter.
  rcases List.mem_append.1 hf with hf | hf
  · obtain ⟨e, he, c, hfield, hmade⟩ := (directFrom_spec hdirect).1 f hf
    rw [direct?_of_textual c (htexts e he), Except.ok.injEq] at hmade
    have hmem := mem_of_fieldOf? hfield
    rcases cases_of_directFilter? hranges hmem (htexts e he) hmade with
      hrange | ⟨-, op, v, hwire, hsettled, rfl⟩
    · exact .inl hrange
    · exact .inr ⟨c, hmem, op, v, hwire, hsettled, rfl⟩
  · obtain ⟨c, bounds, hc, hrange, hmade, hbounds⟩ :=
      exists_of_mem_groupedFilters (List.mem_of_mem_filter hf)
    exact .inl (exists_of_rangeFilter? (mem_of_named? hc).1 hrange hbounds hmade)

/-- **The conditions of the filters that texts ask for** are made without an error, and have the
right shape or ask for absence without a word for it. -/
theorem RangesOnly.exists_conditions_asked (hranges : s.RangesOnly) {p : Params}
    (htext : ∀ e ∈ s.beside p, e.2.Textual) :
    ∃ asked seen, s.asked p = .ok (asked, seen) ∧ ∀ f ∈ asked,
      ∃ made, Condition.ofFilter pattern f = .ok made ∧ ∀ d ∈ made, d.Shaped ∨ d.Unworded := by
  obtain ⟨asked, seen, hasked, hfilters⟩ := hranges.exists_asked htext
  refine ⟨asked, seen, hasked, fun f hf => ?_⟩
  rcases hfilters f hf with ⟨r, rfl⟩ | ⟨c, -, op, v, hwire, hsettled, rfl⟩
  · -- A bound that is not absent is a text, and both operators need one.
    have hbound : ∀ (bound : Option String) {op : Operator}, op = .gte ∨ op = .lte →
        (Value.ofBound bound).isNull = false →
          (⟨r.field.column, op, .ofBound bound⟩ : Condition).Shaped := by
      rintro (_ | t) op hop hnull
      · exact absurd hnull (by decide)
      · rcases hop with rfl | rfl <;> exact ⟨t, rfl⟩
    refine ⟨_, Condition.ofFilter_of_between pattern rfl rfl rfl, fun d hd => .inl ?_⟩
    rcases Condition.mem_ofBounds.1 hd with ⟨hnull, rfl⟩ | ⟨hnull, rfl⟩
    · exact hbound r.lower (.inl rfl) hnull
    · exact hbound r.upper (.inr rfl) hnull
  · -- An operator that may stand in a URL asks for no range.
    have hop : op ≠ .between := by
      rintro rfl
      exact absurd hwire (by decide)
    refine ⟨_, Condition.ofFilter_of_ne_between pattern rfl hop, fun d hd => ?_⟩
    split at hd
    · exact absurd hd List.not_mem_nil
    · next hthere =>
      simp only [Bool.not_eq_true, Bool.or_eq_false_iff, Bool.not_eq_false'] at hthere
      rw [List.mem_singleton.1 hd]
      exact Condition.shaped_or_unworded hwire hsettled hthere.1 hthere.2 _

/-- **The shape of conditions.**  The parameters of a scheme in which only range fields allow ranges
ask for filters, to which reading adds those that fields start with.  The filters that are asked for
make conditions without an error, and every query is narrowed by the conditions that parameters make
without fields; each condition has the shape that its operator needs, or it asks for absence with a
text that is no word for it.  Nothing drops the latter: every such condition is attached by its own
parameter. -/
theorem RangesOnly.conditions_shaped (hranges : s.RangesOnly) {p : Params}
    (htext : ∀ e ∈ p.entries, e.2.Textual) {Query : Type} (b : Backend Query) (q : Query)
    (groupKey : String) (names : Option (List String)) :
    (∃ asked seen, s.asked p = .ok (asked, seen) ∧
      (∀ r, s.read p = .ok r → ∃ always, alwaysOn s seen = .ok always ∧
        r.filters = asked ++ always) ∧
      ∃ conditions, Condition.ofFilters b.pattern names asked = .ok conditions ∧
        ∀ d ∈ conditions, d.Shaped ∨ d.Unworded) ∧
    (b.applyRaw q names none groupKey p
        = (Backend.rawConditions b.pattern b.supports groupKey names p).foldlM b.narrow q ∧
      ∀ d ∈ Backend.rawConditions b.pattern b.supports groupKey names p, d.Shaped ∨ d.Unworded) ∧
    ∀ d : Condition, d.Unworded → d.field ≠ groupKey → b.supports .isNull = true →
      b.applyRaw q none none groupKey (Backend.ownParameter d) = b.narrow q d := by
  refine ⟨?_, ⟨b.applyRaw_eq_foldlM q names p,
    fun d hd => Backend.shaped_or_unworded_of_mem_rawConditions hd⟩, fun d hd hne hsupports => ?_⟩
  · obtain ⟨asked, seen, hasked, hmade⟩ :=
      hranges.exists_conditions_asked (p := p) fun e he => htext e (List.mem_of_mem_filter he)
    obtain ⟨conditions, hconditions⟩ := Condition.exists_ofFilters names fun f hf =>
      (hmade f hf).imp fun _ h => h.1
    refine ⟨asked, seen, hasked, fun r hr => ?_, conditions, hconditions, fun d hd => ?_⟩
    · rw [read_eq_asked, hasked] at hr
      cases halways : alwaysOn s seen with
      | error e =>
        simp only [halways, Except.bind, Except.map] at hr
        exact absurd hr (by simp)
      | ok always =>
        simp only [halways, Except.bind, Except.map] at hr
        exact ⟨always, rfl, by rw [← Except.ok.inj hr]⟩
    · obtain ⟨f, hf, -, made, hof, hd⟩ := (Condition.mem_ofFilters_iff hconditions).1 hd
      obtain ⟨made', hof', hshape⟩ := hmade f hf
      obtain rfl := Except.ok.inj (hof.symm.trans hof')
      exact hshape d hd
  · rw [b.applyRaw_eq_foldlM, Backend.rawConditions_ownParameter_of_unworded hsupports hd hne,
      List.foldlM_cons]
    cases b.narrow q d <;> rfl

/-- Tickets have a title, tags and a range of dates, and may be closed.  One field of each shape is
enough to see them all. -/
def tickets : Scheme where
  fields := [.ofKind .text "title", .ofKind .multiSelect "tags", .ofKind .dateRange "made",
    .ofKind .boolean "closed"]

/-- Parameters with a value of each shape, and two texts that are no words. -/
def ticketParams : Params where
  entries := [("title", .text "is_null.maybe"), ("tags", .text "cs.{a,b}"),
    ("made", .list [.text "gte.2024", .text "yesterday"]), ("closed", .text "is.perhaps"),
    ("and", .text "(made.lte.2025)")]
  nodup := by decide

/-- Of the two texts that are no words, the one behind `is_null` makes a condition. -/
theorem tickets_conditions_shaped :
    ∃ asked seen conditions, tickets.asked ticketParams = .ok (asked, seen) ∧
      Condition.ofFilters Condition.substringPattern none asked = .ok conditions ∧
      conditions.map Condition.operator = [.isNull, .contains, .gte] ∧
      (∀ d ∈ conditions, d.Shaped ∨ d.Unworded) ∧
      ⟨"title", .isNull, .text "maybe"⟩ ∈ conditions ∧
      ¬ (⟨"title", .isNull, .text "maybe"⟩ : Condition).Shaped ∧
      (Backend.substringRecorder Operator.wire).applyRaw [] none none "and"
        (Backend.ownParameter ⟨"title", .isNull, .text "maybe"⟩)
          = .ok [⟨"title", .isNull, .text "maybe"⟩] := by
  have hranges : tickets.RangesOnly := by
    unfold RangesOnly
    decide
  have htext : ∀ e ∈ ticketParams.entries, e.2.Textual := by
    simp only [ticketParams, List.forall_mem_cons]
    exact ⟨.inl ⟨_, rfl⟩, .inl ⟨_, rfl⟩, .inr ⟨["gte.2024", "yesterday"], rfl⟩, .inl ⟨_, rfl⟩,
      .inl ⟨_, rfl⟩, by simp⟩
  have hword : (⟨"title", .isNull, .text "maybe"⟩ : Condition).Unworded :=
    ⟨rfl, "maybe", rfl, by decide, by decide⟩
  obtain ⟨⟨asked, seen, hasked, -, conditions, hconditions, hshape⟩, -, hattached⟩ :=
    hranges.conditions_shaped htext (Backend.substringRecorder Operator.wire) [] "and" none
  obtain rfl := (Prod.mk.inj (Except.ok.inj hasked)).1
  obtain rfl := Except.ok.inj hconditions
  exact ⟨_, seen, _, hasked, rfl, rfl, hshape, List.mem_cons_self, hword.not_shaped,
    hattached _ hword (by decide) (by decide)⟩

end Scheme

end UrlFilter
