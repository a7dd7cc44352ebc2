import UrlFilter.Proofs.Condition
import UrlFilter.Proofs.RoundTrip
import UrlFilter.Proofs.Value.Cast

namespace UrlFilter

/-!
# Values of a kind come back

A filter with values of a kind is written as the texts of these values.  The texts are read back,
and their cast to the kind makes the conditions that the filter makes.

* `Operator.isComparison` — the operators that compare with a single value.
* `Filter.Holds` — a filter of a field with values of a kind.
* `Filter.Holds.exists_readsAs` — what is read back of such a filter.
* `Condition.castAll_spelled` — what the casts of the texts of conditions give.
* `Scheme.Plain.cast_reads_back` — the conditions of the filter that is read back, and of the
  filter itself.
-/

variable {pattern : String → String}

/-! ### Filters -/

/-- The operator compares with a single value. -/
def Operator.isComparison : Operator → Bool
  | eq | neq | gt | gte | lt | lte => true
  | _ => false

namespace Filter

/-- A filter of a field whose values have a kind: a single value that is no empty text, a list, or
bounds of which at least one is given.  A single value may not be an empty text, since this narrows
nothing; an empty list may be given. -/
inductive Holds (c : Field) (target : Target) : Filter → Prop where
  | single {op : Operator} {v : Value} {id : String} (field : c.kind.isRange = false)
      (operator : op.isComparison = true) (typed : target.Typed v) (given : v.isEmptyText = false) :
      Holds c target ⟨c.name, op, v, some c, id⟩
  | list {op : Operator} {items : List Value} {id : String} (field : c.kind.isRange = false)
      (operator : op.isMulti = true) (typed : ∀ x ∈ items, target.Typed x) :
      Holds c target ⟨c.name, op, .list items, some c, id⟩
  | range {lower upper : Option Value} {id : String} (field : c.kind.isRange = true)
      (lowerTyped : ∀ x ∈ lower, target.Typed x) (upperTyped : ∀ x ∈ upper, target.Typed x)
      (given : lower.isSome = true ∨ upper.isSome = true) :
      Holds c target ⟨c.name, .between, .range (lower.getD .null) (upper.getD .null), some c, id⟩

end Filter

/-- A value that narrows something is set.  So what makes a condition is also written. -/
theorem Value.isUnset_of_isEmpty {v : Value} (h : v.isEmpty = false) : v.isUnset = false := by
  rw [← Bool.not_eq_true] at h ⊢
  exact mt isEmpty_of_isUnset h

/-! ### Bounds -/

section Bounds

variable {lower upper : Option Value} (hlower : ∀ x ∈ lower, x.isNull = false)
  (hupper : ∀ x ∈ upper, x.isNull = false)

include hlower hupper

/-- A range with a bound is set.  The bound that is not given is the absent value. -/
theorem Value.isUnset_range (hgiven : lower.isSome = true ∨ upper.isSome = true) :
    (Value.range (lower.getD .null) (upper.getD .null)).isUnset = false := by
  have hbounds : (Value.range (lower.getD .null) (upper.getD .null)).isUnset
      = ((lower.getD .null).isNull && (upper.getD .null).isNull) := rfl
  rw [hbounds]
  rcases hgiven with h | h <;> obtain ⟨x, rfl⟩ := Option.isSome_iff_exists.1 h
  · simp [hlower]
  · simp [hupper]

/-- The conditions of the bounds that are given, if they can be written.  The lower bound stands
first, as the range names it first. -/
theorem Writing.rangeConditions_range (hlowerText : ∀ x ∈ lower, x.isWritable = true)
    (hupperText : ∀ x ∈ upper, x.isWritable = true) (field : String) :
    rangeConditions field (.range (lower.getD .null) (upper.getD .null))
      = .ok ((lower.toList.map fun x => Wire.condition field .gte x)
        ++ upper.toList.map fun x => Wire.condition field .lte x) := by
  have hwritable : ∀ bound : Option Value, (∀ x ∈ bound, x.isWritable = true) →
      (bound.getD .null).isWritable = true := by
    rintro (_ | x) h
    · rfl
    · exact h x rfl
  -- A bound is given exactly if it is not the absent value.
  have hconditions : ∀ (op : Operator) (bound : Option Value), (∀ x ∈ bound, x.isNull = false) →
      (if (bound.getD .null).isNull then [] else [Wire.condition field op (bound.getD .null)])
        = bound.toList.map fun x => Wire.condition field op x := by
    rintro op (_ | x) h
    · rfl
    · exact if_neg (by simp [h x rfl])
  rw [rangeConditions_of_isWritable (hwritable lower hlowerText) (hwritable upper hupperText),
    hconditions .gte lower hlower, hconditions .lte upper hupper]

end Bounds

/-! ### Conditions -/

namespace Condition

/-- The condition with the text of its value.  This is what the condition becomes on the way through
a URL. -/
def spelled (d : Condition) : Condition :=
  { d with value := d.value.spelled }

/-- The condition with the value that the cast of its text gives.  It may differ from the value that
was written, but is equal to it. -/
def regained (d : Condition) : Condition :=
  { d with value := d.value.regained }

/-- The condition is on a column and compares with values of a kind.  The operator is one of those
whose values are cast. -/
def Holds (column : String) (target : Target) (d : Condition) : Prop :=
  d.field = column ∧ keepsValue d.operator = false ∧ target.TypedAll d.value

/-- Two conditions ask for the same: they have equal values, both of a kind.  Equal values of a kind
may still be written differently, as decimal numbers are. -/
def SameOf (target : Target) (d e : Condition) : Prop :=
  d.field = e.field ∧ d.operator = e.operator ∧ d.value.equal? e.value = .ok true ∧
    target.HasKind d.value ∧ target.HasKind e.value

variable {column : String} {target : Target} {conditions : List Condition}

/-- Conditions with values of a kind are cast to themselves.  A value of a kind is its own
counterpart. -/
theorem castAll_self (h : ∀ d ∈ conditions, d.Holds column target) :
    castAll [(column, target)] conditions = .ok conditions := by
  rw [castAll, mapM_eq_ok_iff]
  refine List.map_congr_left fun d hd => ?_
  obtain ⟨rfl, hop, htyped⟩ := h d hd
  simp [cast, hop, Target.cast_typed htyped]

/-- **The texts of conditions are cast to conditions with equal values.**  Only the one column is
cast, so the conditions must be on it. -/
theorem castAll_spelled (h : ∀ d ∈ conditions, d.Holds column target) :
    castAll [(column, target)] (conditions.map spelled) = .ok (conditions.map regained) := by
  rw [castAll, mapM_eq_ok_iff, List.map_map, List.map_map]
  refine List.map_congr_left fun d hd => ?_
  obtain ⟨hfield, hop, htyped⟩ := h d hd
  simp [hfield, cast, hop, Target.cast_spelled htyped, spelled, regained]

theorem sameOf_regained {d : Condition} (h : d.Holds column target) : SameOf target d.regained d :=
  ⟨rfl, rfl, Target.equal?_regained h.2.2⟩

/-- All fields are allowed, so that one filter makes its conditions.  No filter can be dropped on
the way. -/
theorem ofFilters_singleton (f : Filter) : ofFilters pattern none [f] = ofFilter pattern f := by
  have hfilter : ([f].filter fun g => allowed none g.field) = [f] := rfl
  unfold ofFilters
  rw [hfilter, List.mapM_cons, List.mapM_nil]
  cases ofFilter pattern f <;> simp [bind, Except.bind, pure, Except.pure]

/-- The condition of a filter with a single value or a list.  A value that is empty makes none. -/
theorem ofFilter_value {f : Filter} {c : Field} (hconfig : f.config = some c)
    (hbetween : f.operator ≠ .between) (his : f.operator ≠ .is)
    (hpattern : f.operator.isPattern = false) :
    ofFilter pattern f
      = .ok (if f.value.isEmpty then [] else [⟨c.column, f.operator, f.value⟩]) := by
  have hpredicate : hasPredicate f.operator f.value = true := by simp [hasPredicate, his]
  have hoperand : operand pattern f.operator f.value = f.value := by simp [operand, hpattern]
  rw [ofFilter_of_ne_between pattern hconfig hbetween, hpredicate, hoperand, Bool.not_true,
    Bool.or_false]

/-- The conditions of a filter with bounds.  So each bound is a comparison of its own. -/
theorem ofFilter_range {f : Filter} {c : Field} (hconfig : f.config = some c)
    (hop : f.operator = .between) {lower upper : Option Value}
    (hvalue : f.value = .range (lower.getD .null) (upper.getD .null))
    (hlower : ∀ x ∈ lower, x.isNull = false) (hupper : ∀ x ∈ upper, x.isNull = false) :
    ofFilter pattern f = .ok ((lower.toList.map fun x => ⟨c.column, .gte, x⟩)
      ++ upper.toList.map fun x => ⟨c.column, .lte, x⟩) := by
  rw [ofFilter_of_between pattern hconfig hop hvalue, ofBounds]
  cases lower <;> cases upper <;> simp_all [Value.isNull]

end Condition

/-! ### Writing -/

/-- Two filters are written in the same way if they set the same parameter, or make the same
conditions of a range.  Their values may be of different types. -/
theorem Writing.params_singleton_congr {f g : Filter} (hop : f.operator = g.operator)
    (hset : f.value.isUnset = g.value.isUnset)
    (hentry : f.operator ≠ .between → parameter? f = parameter? g)
    (hrange : f.operator = .between →
      rangeConditions f.field f.value = rangeConditions g.field g.value)
    (groupKey : String) (base : Params) :
    params groupKey [f] base = params groupKey [g] base := by
  have hcollect : collect [f] base = collect [g] base := by
    by_cases hbetween : f.operator = .between
    · simp [collect, hset, ← hop, hbetween, hrange hbetween]
    · simp [collect, hset, ← hop, hbetween, hentry hbetween]
  rw [params, params, hcollect]

namespace Wire

/-- A single value is written like its text, for the operators that take any text.  The two
operators that are left out change the text of their value. -/
theorem written_spelledAtom {op : Operator} (hilike : op ≠ .ilike) (hnull : op ≠ .isNull)
    {v : Value} (hv : v.isCollection = false) : written op v.spelledAtom = written op v := by
  -- Such an operator neither adds stars nor changes to another one.
  have hplain : ∀ {w : Value}, w.isCollection = false →
      written op w = .text (String.ofList (op.symbol.toList ++ '.' :: scalar w)) := by
    intro w hw
    rcases written_eq_or op hw with h | ⟨h, -⟩ | ⟨h, -⟩
    · exact h
    · exact absurd h hilike
    · exact absurd h hnull
  -- The text of a text is the text itself.
  have hscalar : scalar v.spelledAtom = scalar v := by
    rw [Value.spelledAtom, scalar_text, String.toList_ofList]
  rw [hplain hv, hplain rfl, hscalar]

/-- The items of a list stand there like their texts.  The quotes depend on the characters alone. -/
theorem quoteItem_spelledAtom (v : Value) : quoteItem v.spelledAtom = quoteItem v := by
  rw [quoteItem, Value.spelledAtom, scalar_text, String.toList_ofList, quoteItem]

/-- A list is written like the texts of its items.  So a list comes back as the list of the texts of
its items. -/
theorem written_spelled_list (op : Operator) (items : List Value) :
    written op (Value.list items).spelled = written op (.list items) := by
  have hitems : (items.map Value.spelledAtom).map quoteItem = items.map quoteItem := by
    rw [List.map_map]
    exact List.map_congr_left fun v _ => quoteItem_spelledAtom v
  rw [Value.spelled, written, written, expression_list, expression_list, listLiteral, hitems,
    ← listLiteral]

/-- A bound is written like its text.  It is quoted like an item of a list. -/
theorem condition_spelledAtom (field : String) (op : Operator) {v : Value}
    (hv : v.isCollection = false) : condition field op v.spelledAtom = condition field op v := by
  have hatom : v.spelledAtom.isCollection = false := rfl
  rw [condition, condition, hatom, hv, quoteItem_spelledAtom, if_neg Bool.false_ne_true,
    if_neg Bool.false_ne_true]

end Wire

/-! ### What is read back -/

namespace Target

variable {target : Target} {v : Value}

theorem Typed.isCollection (h : target.Typed v) : v.isCollection = false := by
  cases h <;> rfl

theorem Typed.isNull (h : target.Typed v) : v.isNull = false := by
  cases h <;> rfl

/-- The limit on the digits of an integer of the kind is the one that writing has.  So every value
of a kind can be written. -/
theorem Typed.isWritable (h : target.Typed v) : v.isWritable = true := by
  cases h with
  | int h => exact Number.Integer.isWritable_iff.2 h
  | _ => rfl

theorem TypedAll.isWritable (h : target.TypedAll v) : v.isWritable = true := by
  rcases h with h | ⟨items, rfl, h⟩
  · exact h.isWritable
  · exact Value.isWritable_list_iff.2 fun x hx => (h x hx).isWritable

theorem Typed.spelled_eq (h : target.Typed v) : v.spelled = v.spelledAtom := by
  cases h <;> rfl

/-- Only a text can be empty: no other kind has a value whose text is empty.  An empty text would be
taken for no value at all. -/
theorem Typed.scalar_ne_nil (h : target.Typed v) (hgiven : v.isEmptyText = false) :
    Wire.scalar v ≠ [] := by
  intro hnil
  have hcast := castAtom?_spelledAtom h
  rw [Value.spelledAtom, hnil] at hcast
  cases h with
  | text s =>
    have hs : s = "" := by simpa using hnil
    rw [hs] at hgiven
    exact absurd hgiven (by decide)
  -- An empty text has no counterpart of any other kind.
  | _ => exact Option.some_ne_none _ (hcast.symm.trans rfl)

theorem Typed.isEmpty (h : target.Typed v) (hgiven : v.isEmptyText = false) :
    v.isEmpty = false ∧ v.spelledAtom.isEmpty = false := by
  constructor
  · cases h <;> first | rfl | simpa [Value.isEmpty, Value.isUnset, Value.isNull, Value.tuple?]
  · have hne := h.scalar_ne_nil hgiven
    simp [Value.isEmpty, Value.isUnset, Value.isNull, Value.tuple?, Value.spelledAtom,
      Value.isEmptyText, hne]

end Target

/-- What there is to know about an operator whose value is compared as it is.  These are the
operators that take the values of a kind as they are. -/
theorem Operator.of_isComparison_or_isMulti {op : Operator}
    (h : op.isComparison = true ∨ op.isMulti = true) :
    op.onWire = true ∧ op.isPattern = false ∧ Condition.keepsValue op = false ∧ op ≠ .between ∧
      op ≠ .is ∧ op ≠ .isNull ∧ op ≠ .ilike := by
  revert h
  cases op <;> decide

namespace Filter

variable {s : Scheme} {c : Field} {target : Target}

/-- A filter is read back as a part, whose conditions are those of the filter with texts for values.
The filter that is read back is the one of the part; it differs from the one that was written in its
identifier and in the types of its values. -/
def ReadsAs (pattern : String → String) (s : Scheme) (c : Field) (target : Target) (f : Filter)
    (part : Part s) : Prop :=
  part.name = c.name ∧
    Writing.params s.groupKey [f] .empty = Writing.params s.groupKey [part.filter] .empty ∧
    ∃ conditions : List Condition, Condition.ofFilters pattern none [f] = .ok conditions ∧
      Condition.ofFilters pattern none [part.filter] = .ok (conditions.map Condition.spelled) ∧
      ∀ d ∈ conditions, d.Holds c.column target

/-- A filter with a single value or a list.  The hypotheses are what the two forms of values have in
common. -/
theorem exists_readsAs_value (hs : s.Plain) (hc : c ∈ s.fields) (hsingle : c.kind.isRange = false)
    {op : Operator} (hop : op.isComparison = true ∨ op.isMulti = true) {v : Value}
    (htyped : target.TypedAll v) (hsettled : Wire.Settled op v.spelled)
    (hwritten : Wire.written op v.spelled = Wire.written op v)
    (hunset : v.isUnset = false ∧ v.spelled.isUnset = false)
    (hempty : v.spelled.isEmpty = v.isEmpty) (id : String) :
    ∃ part : Part s, ReadsAs pattern s c target ⟨c.name, op, v, some c, id⟩ part := by
  obtain ⟨hwire, hpattern, hkeeps, hbetween, his, -, -⟩ := Operator.of_isComparison_or_isMulti hop
  have hkey := hs.no_key c hc
  refine ⟨.value ⟨c, hc, hsingle, op, hwire, v.spelled, hsettled, hunset.2⟩, rfl, ?_,
    if v.isEmpty then [] else [⟨c.column, op, v⟩], ?_, ?_, ?_⟩
  · refine Writing.params_singleton_congr ?_ ?_ (fun _ => ?_) (fun h => absurd h hbetween) _ _
    · rfl
    · exact hunset.1.trans hunset.2.symm
    have hentry : ∀ (w : Value) (i : String), w.isWritable = true →
        Writing.parameter? ⟨c.name, op, w, some c, i⟩ = .ok (c.name, Wire.written op w) := by
      intro w i hw
      rw [Writing.parameter?_of_isWritable hw]
      simp [Writing.entry, hkey, Wire.written]
    rw [Part.filter, FieldValue.filter, hentry v id htyped.isWritable,
      hentry v.spelled c.name hsettled.isWritable, hwritten]
  · rw [Condition.ofFilters_singleton, Condition.ofFilter_value rfl hbetween his hpattern]
  · -- An empty list makes no condition, and neither do its texts.
    rw [Condition.ofFilters_singleton, Part.filter,
      Condition.ofFilter_value rfl hbetween his hpattern, FieldValue.filter, hempty]
    split <;> rfl
  · -- The one condition, if there is one, is on the column of the field.
    intro d hd
    split at hd
    · exact absurd hd List.not_mem_nil
    · obtain rfl := List.mem_singleton.1 hd
      exact ⟨rfl, hkeeps, htyped⟩

/-- The text of a bound, if it is given.  A bound that is not given stays so. -/
theorem ofBound_spelled (bound : Option Value) :
    Value.ofBound (bound.map fun x => String.ofList (Wire.scalar x))
      = (bound.map Value.spelledAtom).getD .null := by
  cases bound <;> rfl

/-- The text of a bound is set and can be written, whatever the bound is. -/
theorem of_mem_map_spelledAtom {bound : Option Value} {x : Value}
    (h : x ∈ bound.map Value.spelledAtom) : x.isNull = false ∧ x.isWritable = true := by
  obtain ⟨y, -, rfl⟩ := Option.map_eq_some_iff.1 h
  exact ⟨rfl, rfl⟩

/-- A bound and its text give the same, if they do so where the bound is given.  Without a bound
there is nothing to give. -/
theorem map_toList_spelledAtom {α : Type} {make remake : Value → α} {bound : Option Value}
    (h : ∀ x ∈ bound, make x.spelledAtom = remake x) :
    (bound.map Value.spelledAtom).toList.map make = bound.toList.map remake := by
  cases bound with
  | none => rfl
  | some x => simp [h x rfl]

/-- A filter with bounds.  The text of each bound is given, so the part is a range of texts. -/
theorem exists_readsAs_range (hc : c ∈ s.fields) (hrange : c.kind.isRange = true)
    {lower upper : Option Value} (hlower : ∀ x ∈ lower, target.Typed x)
    (hupper : ∀ x ∈ upper, target.Typed x) (hgiven : lower.isSome = true ∨ upper.isSome = true)
    (id : String) :
    ∃ part : Part s, ReadsAs pattern s c target
      ⟨c.name, .between, .range (lower.getD .null) (upper.getD .null), some c, id⟩ part := by
  have hlowerSet : ∀ x ∈ lower, x.isNull = false := fun x hx => (hlower x hx).isNull
  have hupperSet : ∀ x ∈ upper, x.isNull = false := fun x hx => (hupper x hx).isNull
  refine ⟨.range ⟨c, hc, hrange, lower.map fun x => String.ofList (Wire.scalar x),
      upper.map fun x => String.ofList (Wire.scalar x), by simpa using hgiven⟩, rfl, ?_,
    (lower.toList.map fun x => ⟨c.column, .gte, x⟩)
      ++ upper.toList.map fun x => ⟨c.column, .lte, x⟩, ?_, ?_, ?_⟩
  · refine Writing.params_singleton_congr ?_ ?_ (fun h => absurd rfl h) (fun _ => ?_) _ _
    · rfl
    · rw [Part.isUnset_filter, Value.isUnset_range hlowerSet hupperSet hgiven]
    · -- A bound and its text are written as the same condition.
      have hbound : ∀ (op : Operator) (bound : Option Value), (∀ x ∈ bound, target.Typed x) →
          ((bound.map Value.spelledAtom).toList.map fun x => Wire.condition c.name op x)
            = bound.toList.map fun x => Wire.condition c.name op x := fun op bound h =>
        map_toList_spelledAtom fun x hx =>
          Wire.condition_spelledAtom c.name op (h x hx).isCollection
      rw [Part.filter, FieldRange.filter, FieldRange.value, ofBound_spelled, ofBound_spelled,
        Writing.rangeConditions_range hlowerSet hupperSet (fun x hx => (hlower x hx).isWritable)
          fun x hx => (hupper x hx).isWritable,
        Writing.rangeConditions_range (fun _ hx => (of_mem_map_spelledAtom hx).1)
          (fun _ hx => (of_mem_map_spelledAtom hx).1) (fun _ hx => (of_mem_map_spelledAtom hx).2)
          fun _ hx => (of_mem_map_spelledAtom hx).2,
        hbound _ lower hlower, hbound _ upper hupper]
  · rw [Condition.ofFilters_singleton,
      Condition.ofFilter_range rfl rfl rfl hlowerSet hupperSet]
  · -- The condition on the text of a bound is the spelled one.
    have hbound : ∀ (op : Operator) (bound : Option Value), (∀ x ∈ bound, target.Typed x) →
        ((bound.map Value.spelledAtom).toList.map fun x => (⟨c.column, op, x⟩ : Condition))
          = (bound.toList.map fun x => ⟨c.column, op, x⟩).map Condition.spelled := by
      intro op bound h
      rw [List.map_map]
      exact map_toList_spelledAtom fun x hx => by simp [Condition.spelled, (h x hx).spelled_eq]
    rw [Condition.ofFilters_singleton, Part.filter, FieldRange.filter, FieldRange.value,
      ofBound_spelled, ofBound_spelled,
      Condition.ofFilter_range rfl rfl rfl (fun _ hx => (of_mem_map_spelledAtom hx).1)
        fun _ hx => (of_mem_map_spelledAtom hx).1, List.map_append,
      hbound _ lower hlower, hbound _ upper hupper]
  · intro d hd
    rw [List.mem_append, List.mem_map, List.mem_map] at hd
    rcases hd with ⟨x, hx, rfl⟩ | ⟨x, hx, rfl⟩
    · exact ⟨rfl, rfl, .inl (hlower x (Option.mem_toList.1 hx))⟩
    · exact ⟨rfl, rfl, .inl (hupper x (Option.mem_toList.1 hx))⟩

/-- **What is read back of a filter with values of a kind.**  Neither the kind of the field nor its
column matters here. -/
theorem Holds.exists_readsAs (hs : s.Plain) (hc : c ∈ s.fields) {f : Filter}
    (h : f.Holds c target) : ∃ part : Part s, ReadsAs pattern s c target f part := by
  -- The three forms of filters: one value, a list, and bounds.
  cases h with
  | @single op v id hsingle hop htyped hgiven =>
    obtain ⟨-, hpattern, -, -, his, hnull, hilike⟩ := Operator.of_isComparison_or_isMulti (.inl hop)
    obtain ⟨hempty, hempty'⟩ := htyped.isEmpty hgiven
    have hspelled := htyped.spelled_eq
    refine exists_readsAs_value hs hc hsingle (.inl hop) (.inl htyped) ?_ ?_ ?_ ?_ id
    · rw [hspelled]
      have hmulti : op.isMulti = false := by
        cases op <;> first | rfl | exact absurd hop (by decide)
      exact ⟨hmulti, fun h => absurd h (by simp [hpattern]),
        fun h => absurd h (by simp [his, hnull])⟩
    · rw [hspelled, Wire.written_spelledAtom hilike hnull htyped.isCollection]
    · rw [hspelled]
      exact ⟨Value.isUnset_of_isEmpty hempty, Value.isUnset_of_isEmpty hempty'⟩
    · rw [hspelled, hempty, hempty']
  | @list op items id hsingle hop htyped =>
    refine exists_readsAs_value hs hc hsingle (.inr hop) (.inr ⟨items, rfl, htyped⟩) ?_ ?_ ?_ ?_ id
    · refine ⟨hop, items.map Wire.scalar, ?_⟩
      rw [List.map_map]
      rfl
    · exact Wire.written_spelled_list op items
    · exact ⟨rfl, rfl⟩
    · cases items <;> rfl
  | range hrange hlower hupper hgiven =>
    exact exists_readsAs_range hc hrange hlower hupper hgiven _

end Filter

/-! ### The whole way -/

namespace Scheme

variable {s : Scheme} {c : Field} {target : Target}

/-- **The conditions of a filter with values of a kind come back.**  The filter is written, one
filter is read back and nothing is left over, and the casts of the conditions of both give
conditions on the same column with the same operator and equal values of the kind.  In particular
the cast of the text of a single value gives an equal value of the kind. -/
theorem Plain.cast_reads_back (hs : s.Plain) (hc : c ∈ s.fields)
    (halone : ∀ d ∈ s.fields, d.alwaysOn = true → d.name = c.name) {f : Filter}
    (h : f.Holds c target) :
    (∃ p g conditions again, Writing.params s.groupKey [f] .empty = .ok p ∧
      s.read p = .ok ⟨[g], .empty⟩ ∧
      (Condition.ofFilters pattern none [f]).bind (Condition.castAll [(c.column, target)])
        = .ok conditions ∧
      (Condition.ofFilters pattern none [g]).bind (Condition.castAll [(c.column, target)])
        = .ok again ∧
      List.Forall₂ (Condition.SameOf target) again conditions) ∧
    ∀ x, target.Typed x → ∃ y, target.cast (.text (String.ofList (Wire.scalar x))) = .ok y ∧
      y.equal? x = .ok true ∧ Target.ofValue y = target := by
  refine ⟨?_, fun x hx => ⟨x.regainedAtom, ?_, Target.equal?_regainedAtom hx,
    Target.ofValue_regainedAtom hx⟩⟩
  · obtain ⟨part, hname, hwritten, conditions, hown, hback, hholds⟩ := h.exists_readsAs hs hc
    -- No field starts by itself: the only one that may is the one that is asked for.
    have habsent : s.absent [part.name] = [] := by
      rw [absent, List.filter_eq_nil_iff]
      intro d hd
      by_cases hon : d.alwaysOn = true
      · simp [halone d hd hon, hname]
      · simp [hon]
    have hone : ([part].map Part.name).Nodup := List.nodup_singleton _
    obtain ⟨p, hparams, hread⟩ := hs.read_parts hone
    -- Only one part was written, and it is read back as the only filter.
    have hfilters : (Part.values [part]).map FieldValue.filter
        ++ (Part.ranges [part]).map FieldRange.filter = [part.filter] := by
      cases part <;> rfl
    rw [List.map_singleton, habsent, hfilters] at hread
    refine ⟨p, part.filter, conditions, conditions.map Condition.regained,
      hwritten.trans hparams, hread, ?_, ?_, ?_⟩
    · rw [hown]
      exact Condition.castAll_self hholds
    · rw [hback]
      exact Condition.castAll_spelled hholds
    · rw [List.forall₂_map_left_iff, List.forall₂_same]
      exact fun d hd => Condition.sameOf_regained (hholds d hd)
  · show target.castLone x.spelledAtom = _
    rw [Target.castLone, Target.castAtom?_spelledAtom hx]

/-- Prices can be filtered.  Numbers are fields of one value, which also take lists of them. -/
def prices : Scheme where
  fields := [.ofKind .number "price"]

/-- A hundred with its zeros in the exponent, and a negative number with a zero behind the point.
Both texts differ from the texts that are usual for these numbers. -/
def somePrices : List Value :=
  [.decimal (.finite false 1 2), .decimal (.finite true 50 (-2))]

/-- Decimal numbers come back, with the zeros of a hundred written out. -/
theorem prices_cast_reads_back :
    ∃ p g again, Writing.params "and"
        [⟨"price", .among, .list somePrices, some (.ofKind .number "price"), "p"⟩] .empty = .ok p ∧
      prices.read p = .ok ⟨[g], .empty⟩ ∧
      (Condition.ofFilters Condition.substringPattern none [g]).bind
        (Condition.castAll [("price", .decimal)]) = .ok again ∧
      List.Forall₂ (Condition.SameOf .decimal) again [⟨"price", .among, .list somePrices⟩] ∧
      ∃ y, Target.decimal.cast (.text "100") = .ok y ∧
        y.equal? (.decimal (.finite false 1 2)) = .ok true ∧ Target.ofValue y = .decimal := by
  have hs : prices.Plain := by decide
  have htyped : ∀ x ∈ somePrices, Target.decimal.Typed x := by
    simp only [somePrices, List.forall_mem_cons, List.not_mem_nil, false_implies, implies_true,
      and_true]
    exact ⟨.decimal rfl, .decimal rfl⟩
  obtain ⟨⟨p, g, conditions, again, hwrite, hread, hown, hback, hsame⟩, hscalar⟩ :=
    hs.cast_reads_back (c := .ofKind .number "price") (List.mem_singleton.2 rfl)
      (fun d hd _ => by rw [List.mem_singleton.1 hd])
      (f := ⟨"price", .among, .list somePrices, some (.ofKind .number "price"), "p"⟩)
      (.list rfl rfl htyped)
  have hof : Condition.ofFilters Condition.substringPattern none
      [⟨"price", .among, .list somePrices, some (.ofKind .number "price"), "p"⟩]
        = .ok [⟨"price", .among, .list somePrices⟩] := rfl
  have hself : Condition.castAll [((Field.ofKind .number "price").column, .decimal)]
      [⟨"price", .among, .list somePrices⟩] = .ok [⟨"price", .among, .list somePrices⟩] := by
    refine Condition.castAll_self fun d hd => ?_
    rw [List.mem_singleton.1 hd]
    exact ⟨rfl, rfl, .inr ⟨_, rfl, htyped⟩⟩
  rw [hof, Except.bind, hself] at hown
  obtain rfl := Except.ok.inj hown
  have htext : String.ofList (Wire.scalar (.decimal (.finite false 1 2))) = "100" := by decide
  have hhundred := hscalar (.decimal (.finite false 1 2)) (htyped _ List.mem_cons_self)
  rw [htext] at hhundred
  exact ⟨p, g, again, hwrite, hread, hback, hsame, hhundred⟩

end Scheme

/-- A moment, at an offset that may be known.  Such a moment is equal to another one at a known
offset only if both are. -/
def Calendar.DateTime.morning (offset : Option Calendar.UtcOffset) : Calendar.DateTime where
  date := ⟨2024, 1, 5, by decide, by decide, by decide⟩
  time := { TimeOfDay.midnight with
    hour := 10
    minute := 30
    hour_lt := by decide
    minute_lt := by decide }
  offset := offset

/-- An offset of less than a second is lost.  The reader takes it for zero, so the two moments are
not equal. -/
theorem Target.offset_of_microsecond_is_lost :
    ¬ ∀ (t : Calendar.DateTime) (y : Value),
      Target.dateTime.cast (.text (String.ofList (Wire.scalar (.dateTime t)))) = .ok y →
      y.equal? (.dateTime t) = .ok true := by
  intro h
  have hcast : Target.dateTime.cast (Value.dateTime (.morning (some ⟨1, by decide⟩))).spelledAtom
      = .ok (.dateTime (.morning (some .utc))) := by
    show Target.castLone _ _ = _
    rw [castLone, castAtom?_spelledAtom_dateTime]
    rfl
  have hequal : Except.ok (_ == some Ordering.eq) = Except.ok true := h _ _ hcast
  exact Calendar.DateTime.compare?_ne_of_offset _ _ (by decide)
    (beq_iff_eq.1 (Except.ok.inj hequal))

end UrlFilter
