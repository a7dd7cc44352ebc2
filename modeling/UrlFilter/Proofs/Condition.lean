import UrlFilter.Condition
import UrlFilter.Proofs.Fallible

namespace UrlFilter

/-!
# The conditions of filters

* `Condition.ofFilter_of_ne_between`, `Condition.ofFilter_of_between` — what filters of one value
  and of two bounds make.
* `Condition.cases_of_ofFilter` — whatever a filter makes.
* `Condition.column_of_mem_ofFilter` — the column of what a filter makes.
* `Filter.conditions` — the conditions of a filter that makes some without an error, with the
  patterns of a backend.
* `Filter.flatMap_conditions_given` — filters without a value make none.
* `Condition.mem_ofFilters_iff` — which conditions several filters make.
* `Condition.ofFilters_eq` — the conditions of several filters, one after another.
-/

variable {pattern : String → String}

/-! ### Values that narrow nothing -/

namespace Value

@[simp] theorem isEmpty_text (t : String) : (text t).isEmpty = t.isEmpty := by
  simp [isEmpty, isUnset, isNull, isEmptyText, tuple?]

@[simp] theorem isEmpty_list (items : List Value) : (list items).isEmpty = items.isEmpty := by
  simp [isEmpty, isUnset, isNull, isEmptyText, tuple?]

@[simp] theorem isEmpty_range (lower upper : Value) :
    (range lower upper).isEmpty = (lower.isNull && upper.isNull) := by
  simp [isEmpty, isUnset, isNull, isEmptyText, tuple?]

/-- A value that is not set narrows nothing.  So what is not written is not asked for either. -/
theorem isEmpty_of_isUnset {v : Value} (h : v.isUnset = true) : v.isEmpty = true := by
  unfold isEmpty
  rw [h, Bool.true_or]

end Value

namespace Condition

/-! ### Single filters -/

/-- Every value can be searched for.  Only `is` is restricted. -/
theorem hasPredicate_of_isPattern {op : Operator} (h : op.isPattern = true) (v : Value) :
    hasPredicate op v = true := by
  cases op <;> first | rfl | exact absurd h (by decide)

/-- The condition of a filter of one value, if it narrows something.  The column is that of its
settings. -/
theorem ofFilter_of_ne_between (pattern : String → String) {f : Filter} {c : Field}
    (hconfig : f.config = some c) (hop : f.operator ≠ .between) :
    ofFilter pattern f = .ok (if f.value.isEmpty || !hasPredicate f.operator f.value then []
      else [⟨c.column, f.operator, operand pattern f.operator f.value⟩]) := by
  rw [ofFilter, ofSet, Filter.config?, hconfig]
  by_cases h : (f.value.isEmpty || !hasPredicate f.operator f.value) = true
  · rw [if_pos h, if_pos h]
  · rw [if_neg h, if_neg h]
    simp [hop, bind, Except.bind, pure, Except.pure]

/-- The conditions of two bounds; an absent bound makes none.  They stand in this order, whichever
is given. -/
def ofBounds (column : String) (lower upper : Value) : List Condition :=
  (if lower.isNull then [] else [⟨column, .gte, lower⟩])
    ++ (if upper.isNull then [] else [⟨column, .lte, upper⟩])

/-- The conditions of a filter of two bounds.  Without bounds there are none. -/
theorem ofFilter_of_between (pattern : String → String) {f : Filter} {c : Field}
    (hconfig : f.config = some c) (hop : f.operator = .between) {lower upper : Value}
    (hvalue : f.value = .range lower upper) :
    ofFilter pattern f = .ok (ofBounds c.column lower upper) := by
  have hbounds : (Value.range lower upper).bounds? = .ok (lower, upper) := rfl
  have hset : ofSet pattern f = .ok (ofBounds c.column lower upper) := by
    rw [ofSet, Filter.config?, hconfig, hop, hvalue, hbounds]
    rfl
  -- A range is empty if both bounds are absent, and then both sides have no conditions.
  have hempty : f.value.isEmpty = (lower.isNull && upper.isNull) := by
    rw [hvalue, Value.isEmpty_range]
  have hpredicate : hasPredicate f.operator f.value = true := by
    rw [hop]
    rfl
  rw [ofFilter, hempty, hpredicate, hset, ofBounds]
  cases lower.isNull <;> cases upper.isNull <;> rfl

/-- A condition of bounds has one of the two operators and a bound for its value.  An absent bound
is not among them. -/
theorem mem_ofBounds {column : String} {lower upper : Value} {d : Condition} :
    d ∈ ofBounds column lower upper ↔
      (lower.isNull = false ∧ d = ⟨column, .gte, lower⟩) ∨
        (upper.isNull = false ∧ d = ⟨column, .lte, upper⟩) := by
  rw [ofBounds, List.mem_append]
  cases lower.isNull <;> cases upper.isNull <;> simp

/-- **What a filter makes, if it makes no error:** nothing of a value that narrows nothing, and
otherwise one condition or those of two bounds, on the column of its field.  Everything that is said
of the conditions of a filter can be read off here. -/
theorem cases_of_ofFilter {f : Filter} {conditions : List Condition}
    (h : ofFilter pattern f = .ok conditions) :
    ((f.value.isEmpty || !hasPredicate f.operator f.value) = true ∧ conditions = []) ∨
      ((f.value.isEmpty || !hasPredicate f.operator f.value) = false ∧
        ∃ c, f.config = some c ∧
          ((f.operator ≠ .between ∧
              conditions = [⟨c.column, f.operator, operand pattern f.operator f.value⟩]) ∨
            (f.operator = .between ∧ ∃ lower upper, f.value.bounds? = .ok (lower, upper) ∧
              conditions = ofBounds c.column lower upper))) := by
  unfold ofFilter at h
  split at h
  · next hnothing => exact .inl ⟨hnothing, (Except.ok.inj h).symm⟩
  next hsomething =>
  refine .inr ⟨by simpa using hsomething, ?_⟩
  -- A filter without settings makes an error before any condition.
  unfold ofSet Filter.config? at h
  cases hconfig : f.config with
  | none =>
    rw [hconfig] at h
    exact absurd h (by simp [bind, Except.bind])
  | some c =>
    refine ⟨c, rfl, ?_⟩
    simp only [hconfig, bind, Except.bind, pure, Except.pure] at h
    split at h
    · next hop =>
      cases hbounds : f.value.bounds? with
      | error e =>
        rw [hbounds] at h
        exact absurd h (by simp)
      | ok bounds =>
        simp only [hbounds] at h
        exact .inr ⟨hop, _, _, rfl, (Except.ok.inj h).symm⟩
    · next hop => exact .inl ⟨hop, (Except.ok.inj h).symm⟩

/-- The conditions of a filter are on the column of its field.  The name of the filter itself does
not matter. -/
theorem column_of_mem_ofFilter {f : Filter} {conditions : List Condition}
    (h : ofFilter pattern f = .ok conditions) {c : Condition} (hc : c ∈ conditions) :
    ∃ config, f.config = some config ∧ c.field = config.column := by
  rcases cases_of_ofFilter h with
    ⟨-, rfl⟩ | ⟨-, config, hconfig, ⟨-, rfl⟩ | ⟨-, lower, upper, -, rfl⟩⟩
  · exact absurd hc List.not_mem_nil
  · exact ⟨config, hconfig, by rw [List.mem_singleton.1 hc]⟩
  · rcases mem_ofBounds.1 hc with ⟨-, rfl⟩ | ⟨-, rfl⟩ <;> exact ⟨config, hconfig, rfl⟩

end Condition

namespace Filter

/-- The conditions that a filter makes, if it makes some.  Where there is an error there are
none. -/
def conditions (pattern : String → String) (f : Filter) : List Condition :=
  (Condition.ofFilter pattern f).toOption.getD []

theorem conditions_of_eq_ok {f : Filter} {made : List Condition}
    (h : Condition.ofFilter pattern f = .ok made) : f.conditions pattern = made := by
  rw [conditions, h]
  rfl

/-- A filter that makes conditions makes its conditions.  This is how a result is turned into the
name of the result. -/
theorem ofFilter_eq_conditions {f : Filter} {made : List Condition}
    (h : Condition.ofFilter pattern f = .ok made) :
    Condition.ofFilter pattern f = .ok (f.conditions pattern) := by
  rw [conditions_of_eq_ok h, h]

/-- A filter that narrows nothing makes no condition, and no error.  Its settings are not asked for,
and may be missing. -/
theorem ofFilter_of_isEmpty {f : Filter} (h : f.value.isEmpty = true) :
    Condition.ofFilter pattern f = .ok [] := by
  rw [Condition.ofFilter, h, Bool.true_or, if_pos rfl]

theorem conditions_of_isEmpty {f : Filter} (h : f.value.isEmpty = true) :
    f.conditions pattern = [] :=
  conditions_of_eq_ok (ofFilter_of_isEmpty h)

end Filter

/-! ### Several filters -/

/-- Items from which nothing comes may be left out.  They contribute nothing in between either. -/
theorem flatMap_filter_of_nil {α β : Type*} {keep : α → Bool} {g : α → List β} {items : List α}
    (h : ∀ x ∈ items, keep x = false → g x = []) :
    (items.filter keep).flatMap g = items.flatMap g := by
  -- By induction on the items: one that is left out contributes the empty list.
  induction items with
  | nil => rfl
  | cons x items ih =>
    rw [List.forall_mem_cons] at h
    rw [List.filter_cons, List.flatMap_cons, ← ih h.2]
    split
    · rw [List.flatMap_cons]
    · next hx => rw [h.1 (by simpa using hx), List.nil_append]

/-- Filters without a value may be left out.  A filter without a value is not written, and not
missed. -/
theorem Filter.flatMap_conditions_given (filters : List Filter) :
    (filters.filter fun f => !f.value.isUnset).flatMap (Filter.conditions pattern)
      = filters.flatMap (Filter.conditions pattern) :=
  flatMap_filter_of_nil fun _ _ hf =>
    conditions_of_isEmpty (Value.isEmpty_of_isUnset (by simpa using hf))

namespace Condition

/-- The conditions of filters are those of the filters on allowed fields, all together.  There is
one list for each of these filters. -/
theorem exists_lists_of_ofFilters {names : Option (List String)} {filters : List Filter}
    {conditions : List Condition} (h : ofFilters pattern names filters = .ok conditions) :
    ∃ lists, (filters.filter fun f => allowed names f.field).mapM (ofFilter pattern) = .ok lists ∧
      lists.flatten = conditions := by
  obtain ⟨lists, hlists, h⟩ := exists_of_bind_eq_ok h
  exact ⟨lists, hlists, Except.ok.inj h⟩

/-- Where filters make conditions, each of those on allowed fields does.  One error would be the
error of all. -/
theorem exists_ofFilter_of_ofFilters {names : Option (List String)} {filters : List Filter}
    {conditions : List Condition} (h : ofFilters pattern names filters = .ok conditions)
    {f : Filter} (hf : f ∈ filters) (hallowed : allowed names f.field = true) :
    ∃ made, ofFilter pattern f = .ok made := by
  obtain ⟨lists, hlists, -⟩ := exists_lists_of_ofFilters h
  obtain ⟨made, -, hmade⟩ := exists_mem_of_mapM hlists (List.mem_filter.2 ⟨hf, hallowed⟩)
  exact ⟨made, hmade⟩

/-- Filters make conditions if each of them does.  What they make does not matter for this. -/
theorem exists_ofFilters (names : Option (List String)) {filters : List Filter}
    (h : ∀ f ∈ filters, ∃ made, ofFilter pattern f = .ok made) :
    ∃ conditions, ofFilters pattern names filters = .ok conditions := by
  obtain ⟨lists, hlists⟩ : ∃ lists,
      (filters.filter fun f => allowed names f.field).mapM (ofFilter pattern) = .ok lists :=
    exists_mapM_eq_ok_iff.2 fun f hf => h f (List.mem_of_mem_filter hf)
  exact ⟨lists.flatten, by rw [ofFilters, hlists]; rfl⟩

/-- A condition of filters is that of a filter on an allowed field.  Where the filters make
conditions at all, this is all that can be asked of them. -/
theorem mem_ofFilters_iff {names : Option (List String)} {filters : List Filter}
    {conditions : List Condition} (h : ofFilters pattern names filters = .ok conditions)
    {c : Condition} :
    c ∈ conditions ↔ ∃ f ∈ filters, allowed names f.field = true ∧
      ∃ made, ofFilter pattern f = .ok made ∧ c ∈ made := by
  obtain ⟨lists, hlists, rfl⟩ := exists_lists_of_ofFilters h
  rw [List.mem_flatten]
  constructor
  · rintro ⟨made, hmade, hc⟩
    obtain ⟨f, hf, hof⟩ := exists_of_mem_mapM hlists hmade
    obtain ⟨hmem, hallowed⟩ := List.mem_filter.1 hf
    exact ⟨f, hmem, hallowed, made, hof, hc⟩
  · rintro ⟨f, hmem, hallowed, made, hof, hc⟩
    -- A filter makes its conditions only once, so that both lists are the same.
    obtain ⟨made', hmade, hof'⟩ := exists_mem_of_mapM hlists (List.mem_filter.2 ⟨hmem, hallowed⟩)
    obtain rfl := Except.ok.inj (hof.symm.trans hof')
    exact ⟨made, hmade, hc⟩

/-- Filters that make conditions without an error make them one after another.  The list of allowed
fields is left out here. -/
theorem ofFilters_eq {filters : List Filter}
    (h : ∀ f ∈ filters, ofFilter pattern f = .ok (f.conditions pattern)) :
    ofFilters pattern none filters = .ok (filters.flatMap (Filter.conditions pattern)) := by
  have hall : (filters.filter fun f => allowed none f.field) = filters :=
    List.filter_eq_self.2 fun _ _ => rfl
  have hmapM : filters.mapM (ofFilter pattern) = .ok (filters.map (Filter.conditions pattern)) := by
    rw [mapM_eq_ok_iff, List.map_map]
    exact List.map_congr_left h
  rw [ofFilters, hall, hmapM, List.flatMap_def]
  rfl

/-- Filters make their conditions in order.  An error of the others is an error of all. -/
theorem ofFilters_append {filters others : List Filter} {made : List Condition}
    (h : ofFilters pattern none filters = .ok made) :
    ofFilters pattern none (filters ++ others)
      = (ofFilters pattern none others).map (made ++ ·) := by
  obtain ⟨lists, hlists, rfl⟩ := exists_lists_of_ofFilters h
  rw [ofFilters, List.filter_append, List.mapM_append, hlists, ofFilters]
  simp only [bind, Except.bind, pure, Except.pure]
  cases (others.filter fun f => allowed none f.field).mapM (ofFilter pattern) with
  | error e => rfl
  | ok more => simp [Except.map]

end Condition

end UrlFilter
