import UrlFilter.Proofs.Backend.Recorder
import UrlFilter.Proofs.Scheme

namespace UrlFilter

/-!
# Empty values

A value that narrows nothing makes no condition.  The bounds of a range are looked at only together,
though: an absent bound makes no condition, an empty one does.

* `Value.isNull_of_isEmpty_of_bounds?` — the bounds of an empty value.
* `Condition.isEmpty_operand_iff` — the operand of a value that narrows something is empty only if
  it is a pattern, and a backend has the empty text for it.
* `Filter.AsksEmptyBound`, `Filter.AsksEmptyPattern` — the conditions of the empty bounds of a
  filter, and of a search with an empty pattern.
* `Condition.mem_and_isEmpty_iff` — which conditions of a filter have empty values.
* `Backend.exists_pattern_of_mem_rawConditions` — a condition of parameters without fields has one
  only for an empty pattern.
* `Condition.emptyValue_iff_asksEmptyBound` — which conditions of filters have empty values.

Backends may have patterns of their own, and nothing keeps such a pattern from being empty.  The
patterns that backends have otherwise are never empty, because they keep the wildcards around the
text.
-/

/-- The bounds of an empty value are absent, if it has some.  An empty text and an empty list have
no bounds at all. -/
theorem Value.isNull_of_isEmpty_of_bounds? {v lower upper : Value} (hempty : v.isEmpty = true)
    (h : v.bounds? = .ok (lower, upper)) : lower.isNull = true ∧ upper.isNull = true := by
  cases v with
  | text s =>
    -- The empty text has no elements, and so no two bounds.
    obtain rfl : s = "" := by simpa using hempty
    exact absurd h (by simp [bounds?, elements?])
  | list items =>
    obtain rfl : items = [] := by simpa using hempty
    exact absurd h (by simp [bounds?, elements?])
  | tuple items =>
    simp only [bounds?, elements?] at h
    split at h
    · next heq =>
      obtain rfl := Option.some.inj heq
      obtain ⟨rfl, rfl⟩ := Prod.mk.inj (Except.ok.inj h)
      simpa [isEmpty, isUnset, isNull, isEmptyText, tuple?] using hempty
    · exact absurd h (by simp)
    · exact absurd h (by simp)
  | range l u =>
    obtain ⟨rfl, rfl⟩ := Prod.mk.inj (Except.ok.inj h)
    simpa using hempty
  | _ => simp [isEmpty, isUnset, isNull, isEmptyText, tuple?, bounds?, elements?] at hempty h

variable {pattern : String → String}

namespace Condition

/-- A pattern with wildcards around the text is not empty, whatever the text is. -/
theorem substringPattern_ne_empty (s : String) : substringPattern s ≠ "" := by
  simp [substringPattern]

/-- The operand of a text to search for is the pattern of the text.  An operator that is given as a
value counts as a text here, too. -/
theorem operand_of_isPattern {op : Operator} (hop : op.isPattern = true) {v : Value} {s : String}
    (hs : v.asText? = some s) : operand pattern op v = .text (pattern s) := by
  rw [operand, if_pos hop, hs]

/-- The operand of a value that narrows something is empty only if it is a pattern for which the
backend has the empty text.  Any other operand is the value itself. -/
theorem isEmpty_operand_iff {op : Operator} {v : Value} (h : v.isEmpty = false) :
    (operand pattern op v).isEmpty = true ↔
      op.isPattern = true ∧ ∃ s, v.asText? = some s ∧ pattern s = "" := by
  unfold operand
  by_cases hop : op.isPattern = true
  · cases hs : v.asText? with
    | some s => simp [hop]
    | none => simp [hop, h]
  · simp [hop, h]

end Condition

/-- The condition is that of an empty bound of the filter: a bound that is there, and narrows
nothing.  An absent bound is no such bound, as it makes no condition. -/
def Filter.AsksEmptyBound (f : Filter) (d : Condition) : Prop :=
  f.operator = .between ∧ ∃ c lower upper, f.config = some c ∧
    f.value.bounds? = .ok (lower, upper) ∧
      ((lower.isNull = false ∧ lower.isEmpty = true ∧ d = ⟨c.column, .gte, lower⟩) ∨
        (upper.isNull = false ∧ upper.isEmpty = true ∧ d = ⟨c.column, .lte, upper⟩))

/-- The condition is that of a search with an empty pattern: the filter searches for a text that is
not empty, and the backend has the empty pattern for it. -/
def Filter.AsksEmptyPattern (pattern : String → String) (f : Filter) (d : Condition) : Prop :=
  f.operator.isPattern = true ∧ f.value.isEmpty = false ∧ ∃ c s, f.config = some c ∧
    f.value.asText? = some s ∧ pattern s = "" ∧ d = ⟨c.column, f.operator, .text ""⟩

/-- No search has an empty pattern in a backend whose patterns are never empty. -/
theorem Filter.not_asksEmptyPattern (h : ∀ s, pattern s ≠ "") (f : Filter) (d : Condition) :
    ¬ f.AsksEmptyPattern pattern d := by
  rintro ⟨-, -, c, s, -, -, hempty, -⟩
  exact h s hempty

namespace Condition

/-- **The conditions of a filter that have empty values** are those of its empty bounds, or that of
its empty pattern. -/
theorem mem_and_isEmpty_iff {f : Filter} {conditions : List Condition}
    (h : ofFilter pattern f = .ok conditions) {d : Condition} :
    d ∈ conditions ∧ d.value.isEmpty = true ↔
      f.AsksEmptyBound d ∨ f.AsksEmptyPattern pattern d := by
  rcases cases_of_ofFilter h with
    ⟨hnothing, rfl⟩ | ⟨hsomething, config, hconfig, ⟨hop, rfl⟩ | ⟨hop, lower, upper, hbounds, rfl⟩⟩
  · -- A range that narrows nothing has no bounds, or absent ones.
    simp only [List.not_mem_nil, false_and, false_iff]
    rintro (⟨hop, c, lower, upper, -, hbounds, hd⟩ | ⟨hop, hset, -⟩)
    · have hempty : f.value.isEmpty = true := by
        simpa [hasPredicate, hop] using hnothing
      obtain ⟨hlower, hupper⟩ := Value.isNull_of_isEmpty_of_bounds? hempty hbounds
      simp [hlower, hupper] at hd
    · rw [hset, Bool.false_or, hasPredicate_of_isPattern hop] at hnothing
      exact absurd hnothing (by decide)
  · -- One value is looked at as a whole, before it becomes an operand.
    have hset : f.value.isEmpty = false := (Bool.or_eq_false_iff.1 hsomething).1
    constructor
    · rintro ⟨hd, hempty⟩
      obtain rfl := List.mem_singleton.1 hd
      obtain ⟨hpattern, s, hs, hnone⟩ := (isEmpty_operand_iff hset).1 hempty
      refine .inr ⟨hpattern, hset, config, s, hconfig, hs, hnone, ?_⟩
      rw [operand_of_isPattern hpattern hs, hnone]
    · rintro (⟨hbetween, -⟩ | ⟨hpattern, -, c, s, hc, hs, hnone, rfl⟩)
      · exact absurd hbetween hop
      · obtain rfl := Option.some.inj (hconfig.symm.trans hc)
        rw [operand_of_isPattern hpattern hs, hnone]
        exact ⟨List.mem_singleton.2 rfl, rfl⟩
  · rw [mem_ofBounds]
    constructor
    · rintro ⟨⟨hthere, rfl⟩ | ⟨hthere, rfl⟩, hempty⟩
      · exact .inl ⟨hop, config, lower, upper, hconfig, hbounds, .inl ⟨hthere, hempty, rfl⟩⟩
      · exact .inl ⟨hop, config, lower, upper, hconfig, hbounds, .inr ⟨hthere, hempty, rfl⟩⟩
    · -- A range searches for no pattern.
      rintro (⟨-, c, l, u, hc, hbounds', hd⟩ | ⟨hpattern, -⟩)
      swap
      · exact absurd (hop ▸ hpattern) (by decide)
      obtain rfl := Option.some.inj (hconfig.symm.trans hc)
      obtain ⟨rfl, rfl⟩ := Prod.mk.inj (Except.ok.inj (hbounds.symm.trans hbounds'))
      rcases hd with ⟨hthere, hempty, rfl⟩ | ⟨hthere, hempty, rfl⟩
      · exact ⟨.inl ⟨hthere, rfl⟩, hempty⟩
      · exact ⟨.inr ⟨hthere, rfl⟩, hempty⟩

end Condition

/-! ### Parameters without fields -/

namespace Backend

/-- A condition of parameters without fields has an empty value only if it is a search for which the
backend has the empty pattern.  Its value was looked at as a whole, as a text. -/
theorem exists_pattern_of_mem_rawConditions {supports : Operator → Bool} {groupKey : String}
    {names : Option (List String)} {params : Params} {c : Condition}
    (h : c ∈ rawConditions pattern supports groupKey names params)
    (hempty : c.value.isEmpty = true) :
    c.operator.isPattern = true ∧ ∃ s, pattern s = "" := by
  obtain ⟨column, raw, -, hmade⟩ := exists_of_mem_rawConditions h
  obtain ⟨op, v, -, -, hset, -, rfl⟩ := exists_read_of_rawCondition? hmade
  -- The value itself is not empty, so that only a pattern can make it so.
  obtain ⟨hop, s, -, hnone⟩ := (Condition.isEmpty_operand_iff hset).1 hempty
  exact ⟨hop, s, hnone⟩

end Backend

/-! ### Several filters -/

namespace Condition

/-- The conditions of filters that have empty values are those of empty bounds and empty patterns of
filters on allowed fields.  Filters on other fields have no conditions. -/
theorem mem_ofFilters_and_isEmpty_iff {names : Option (List String)} {filters : List Filter}
    {conditions : List Condition} (h : ofFilters pattern names filters = .ok conditions)
    {d : Condition} :
    d ∈ conditions ∧ d.value.isEmpty = true ↔
      ∃ f ∈ filters, allowed names f.field = true ∧
        (f.AsksEmptyBound d ∨ f.AsksEmptyPattern pattern d) := by
  rw [mem_ofFilters_iff h]
  constructor
  · rintro ⟨⟨f, hf, hallowed, made, hmade, hd⟩, hempty⟩
    exact ⟨f, hf, hallowed, (mem_and_isEmpty_iff hmade).1 ⟨hd, hempty⟩⟩
  · rintro ⟨f, hf, hallowed, hasks⟩
    obtain ⟨made, hmade⟩ := exists_ofFilter_of_ofFilters h hf hallowed
    obtain ⟨hd, hempty⟩ := (mem_and_isEmpty_iff hmade).2 hasks
    exact ⟨⟨f, hf, hallowed, made, hmade, hd⟩, hempty⟩

/-- **Which conditions have empty values.**  Of the conditions of filters exactly those of empty
bounds on allowed fields have one, and searches for which the backend has the empty pattern.  Of
those that parameters make without fields none has but for such a pattern: there an empty bound is
dropped, as an absent one is.  The patterns with wildcards around the text are never empty, and so
only empty bounds are left in their case. -/
theorem emptyValue_iff_asksEmptyBound (pattern : String → String) (names : Option (List String))
    (filters : List Filter) :
    (∀ conditions, ofFilters pattern names filters = .ok conditions → ∀ d,
      (d ∈ conditions ∧ d.value.isEmpty = true ↔
        ∃ f ∈ filters, allowed names f.field = true ∧
          (f.AsksEmptyBound d ∨ f.AsksEmptyPattern pattern d))) ∧
    (∀ supports groupKey params,
      ∀ d ∈ Backend.rawConditions pattern supports groupKey names params,
        d.value.isEmpty = true → d.operator.isPattern = true ∧ ∃ s, pattern s = "") ∧
    (∀ conditions, ofFilters substringPattern names filters = .ok conditions → ∀ d,
      (d ∈ conditions ∧ d.value.isEmpty = true ↔
        ∃ f ∈ filters, allowed names f.field = true ∧ f.AsksEmptyBound d)) ∧
    ∀ supports groupKey params,
      ∀ d ∈ Backend.rawConditions substringPattern supports groupKey names params,
        d.value.isEmpty = false := by
  refine ⟨fun conditions h d => mem_ofFilters_and_isEmpty_iff h,
    fun _ _ _ _ => Backend.exists_pattern_of_mem_rawConditions, fun conditions h d => ?_,
    fun _ _ _ d hd => ?_⟩
  · rw [mem_ofFilters_and_isEmpty_iff h]
    refine exists_congr fun f => and_congr_right fun _ => and_congr_right fun _ => ?_
    exact or_iff_left (f.not_asksEmptyPattern substringPattern_ne_empty d)
  · rw [← Bool.not_eq_true]
    intro hempty
    obtain ⟨-, s, hs⟩ := Backend.exists_pattern_of_mem_rawConditions hd hempty
    exact substringPattern_ne_empty s hs

end Condition

namespace Scheme

/-- Visits have a range of dates.  No operator but `between` is allowed. -/
def visits : Scheme where
  fields := [Field.ofKind .dateRange "made"]

/-- A form that was sent with only its second date filled in.  A browser sends both fields of a
form, the empty one as well. -/
def untilJanuary : Params :=
  .ofList [("made", .list [.text "gte.", .text "lte.2024-01-31"])]

/-- The filter of the form, whose first bound is empty.  The bound is there, and it is no date. -/
def uptoJanuary : Filter :=
  ⟨"made", .between, .range (.text "") (.text "2024-01-31"), some (.ofKind .dateRange "made"),
    "made"⟩

/-- The blank date of the form makes a condition, unless parameters are read without fields. -/
theorem untilJanuary_emptyValue :
    ∃ r conditions, visits.read untilJanuary = .ok r ∧
      Condition.ofFilters Condition.substringPattern none r.filters = .ok conditions ∧
      ⟨"made", .gte, .text ""⟩ ∈ conditions ∧
      (∃ f ∈ r.filters, f.AsksEmptyBound ⟨"made", .gte, .text ""⟩) ∧
      ⟨"made", .gte, .text ""⟩ ∉ Backend.rawConditions Condition.substringPattern (fun _ => true)
        "and" none untilJanuary := by
  have hread : visits.read untilJanuary = .ok ⟨[uptoJanuary], .empty⟩ := rfl
  have hconditions : Condition.ofFilters Condition.substringPattern none [uptoJanuary]
      = .ok [⟨"made", .gte, .text ""⟩, ⟨"made", .lte, .text "2024-01-31"⟩] := rfl
  obtain ⟨-, -, hmade, hraw⟩ :=
    Condition.emptyValue_iff_asksEmptyBound Condition.substringPattern none [uptoJanuary]
  -- The condition with the empty value is that of a bound, and parameters without fields have none.
  obtain ⟨f, hf, -, hasks⟩ := (hmade _ hconditions _).1 ⟨List.mem_cons_self, rfl⟩
  exact ⟨_, _, hread, hconditions, List.mem_cons_self, ⟨f, hf, hasks⟩,
    fun h => absurd (hraw _ _ _ _ h) (by decide)⟩

end Scheme

end UrlFilter
