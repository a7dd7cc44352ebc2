import UrlFilter.Proofs.Calendar.TextOrder
import UrlFilter.Proofs.Memory.Conjunction
import UrlFilter.Proofs.Memory.Order
import UrlFilter.Proofs.TypedRoundTrip

namespace UrlFilter

open UrlFilter.Text UrlFilter.Calendar

/-!
# Ranges of dates

The bounds of a range that comes out of a URL are texts.  They select the same dates whether these
are texts as well, or dates to which the bounds are cast one by one, or dates with the kind of their
column, to which the bounds are cast at once.

* `Filter.ofDates` — a filter of dates by the texts of two bounds.
* `Calendar.Date.within` — a date lies between two bounds.
* `Memory.Orders` — cells and bounds compare as the dates that they stand for.
* `Memory.rows_of_orders` — what conditions of such bounds leave of such cells.
* `Memory.rows_ofDates` — texts and dates are selected alike.
-/

/-- The text of a date as a value.  It is the form that a date has in a URL. -/
def Calendar.Date.written (d : Date) : Value :=
  .text (String.ofList d.text)

/-- The date lies between two bounds, both of them included; a bound may be missing.  Without both
bounds every date lies between them. -/
def Calendar.Date.within (lower upper : Option Date) (d : Date) : Bool :=
  lower.all (fun b => d.compare b != .lt) && upper.all (fun b => d.compare b != .gt)

/-- A filter of dates by the texts of two bounds.  A bound that is missing is the absent value. -/
def Filter.ofDates (c : Field) (lower upper : Option Date) : Filter where
  field := c.name
  operator := .between
  value := .range ((lower.map Date.written).getD .null) ((upper.map Date.written).getD .null)
  config := some c
  id := c.name

/-- It is what a field makes of a tuple of two bounds.  No other constructor of filters is needed
here. -/
theorem Filter.ofField_dates (c : Field) (lower upper : Option Date) :
    Filter.ofField c .between
        (.tuple [(lower.map Date.written).getD .null, (upper.map Date.written).getD .null])
      = .ok (ofDates c lower upper) :=
  rfl

/-- The text of a date is cast to the date. -/
theorem Target.cast_written (d : Date) : Target.date.cast d.written = .ok (.date d) := by
  have hwritten : d.written = (Value.date d).spelledAtom := by
    rw [Value.spelledAtom, Wire.scalar, Date.written]
  rw [cast_of_isSingle rfl, hwritten]
  simp only [castLone, castAtom?_spelledAtom (.date d), Value.regainedAtom]

namespace Condition

/-- The conditions of two bounds, given by values.  The lower bound comes first. -/
def ofDates (column : String) (bound : Date → Value) (lower upper : Option Date) :
    List Condition :=
  (lower.toList.map fun b => ⟨column, .gte, bound b⟩)
    ++ upper.toList.map fun b => ⟨column, .lte, bound b⟩

variable {column : String} {bound : Date → Value} {lower upper : Option Date}

/-- What holds of the conditions of all bounds. -/
theorem forall_mem_ofDates {P : Condition → Prop} (hlower : ∀ b, P ⟨column, .gte, bound b⟩)
    (hupper : ∀ b, P ⟨column, .lte, bound b⟩) : ∀ d ∈ ofDates column bound lower upper, P d := by
  intro d hd
  rcases List.mem_append.1 hd with hd | hd
  · obtain ⟨b, -, rfl⟩ := List.mem_map.1 hd
    exact hlower b
  · obtain ⟨b, -, rfl⟩ := List.mem_map.1 hd
    exact hupper b

/-- The filter makes the conditions of its texts.  It makes none of a bound that is missing. -/
theorem ofFilters_ofDates (pattern : String → String) (c : Field) (lower upper : Option Date) :
    ofFilters pattern none [Filter.ofDates c lower upper]
      = .ok (ofDates c.column Date.written lower upper) := by
  have hbound : ∀ (b : Option Date), ∀ x ∈ b.map Date.written, x.isNull = false := by
    rintro (_ | d) x hx <;> cases hx
    rfl
  rw [ofFilters_singleton, ofFilter_range rfl rfl rfl (hbound lower) (hbound upper)]
  cases lower <;> cases upper <;> rfl

/-- The casts of the texts are the dates.  They never fail. -/
theorem castAll_ofDates (column : String) (lower upper : Option Date) :
    castAll [(column, .date)] (ofDates column Date.written lower upper)
      = .ok (ofDates column Value.date lower upper) := by
  rw [castAll, mapM_eq_ok_iff]
  -- Each bound may be given or not.
  cases lower <;> cases upper <;> simp [ofDates, cast, keepsValue, Target.cast_written]

end Condition

namespace Memory

/-! ### Cells and bounds -/

/-- Cells and bounds compare as the dates that they stand for.  No comparison of such a cell and
such a bound raises an error. -/
def Orders (cell bound : Date → Value) : Prop :=
  ∀ (c : Comparison) (d b : Date), compare c (cell d) (bound b) = .ok (c.holds (d.compare b))

theorem orders_date : Orders .date .date := fun _ _ _ => rfl

/-- The order of texts is that of the dates.  Here no cast takes place. -/
theorem orders_written : Orders Date.written Date.written := by
  intro c d b
  refine compare_of_compare? rfl ?_
  rw [← Date.compare_text]
  rfl

/-- A text is cast to a date before the two are compared.  A date and a text have no order of their
own. -/
theorem orders_date_written : Orders .date Date.written := by
  intro c d b
  rw [compare_of_unordered rfl fun _ => rfl, Target.ofValue, Target.cast_written]
  rfl

variable {ι ρ σ : Type} [Record ρ] [Record σ] {column : String} {cell bound : Date → Value}

/-! ### Selected records -/

/-- A record meets a condition of one bound if its date does. -/
theorem meets_of_orders (h : Orders cell bound) {r : ρ} {d : Date}
    (hread : Record.read r column = cell d) (c : Comparison) (b : Date) :
    meets ⟨column, c.operator, bound b⟩ r = .ok (c.holds (d.compare b)) := by
  rw [meets, holds_operator, hread, h]

/-- A record meets the conditions of two bounds if its date lies between them.  Both bounds are
included. -/
theorem all_satisfies_ofDates (h : Orders cell bound) {r : ρ} {d : Date}
    (hread : Record.read r column = cell d) (lower upper : Option Date) :
    ((Condition.ofDates column bound lower upper).all fun c => satisfies r (meets c))
      = d.within lower upper := by
  -- The answer of a condition is that of the comparison of the two dates.
  have hmeets : ∀ (c : Comparison) (b : Date),
      satisfies r (meets ⟨column, c.operator, bound b⟩) = c.holds (d.compare b) := by
    intro c b
    rw [satisfies, meets_of_orders h hread]
    rfl
  have hlower : (fun b => satisfies r (meets ⟨column, .gte, bound b⟩))
      = fun b => d.compare b != .lt := funext (hmeets .atLeast)
  have hupper : (fun b => satisfies r (meets ⟨column, .lte, bound b⟩))
      = fun b => d.compare b != .gt := funext (hmeets .atMost)
  rw [Condition.ofDates, List.all_append, List.all_map, List.all_map, Function.comp_def,
    Function.comp_def, hlower, hupper]
  cases lower <;> cases upper <;> simp [Date.within]

omit [Record ρ] in
/-- Without a limit and an offset all that is matched lies on the page.  This is how a query
starts. -/
theorem page_of_unlimited {q : Query ρ} (hlimit : q.limit = none) (hoffset : q.offset = none)
    (matched : List ρ) : q.page matched = matched := by
  simp [Query.page, hlimit, hoffset, slice, placeIn]

/-- **What conditions of two bounds leave:** the records whose dates lie between them.  The records
come in the order of their items. -/
theorem rows_of_orders (h : Orders cell bound) {date : ι → Date} {record : ι → ρ}
    (hread : ∀ i, Record.read (record i) column = cell (date i)) (items : List ι)
    (lower upper : Option Date) :
    Query.rows ⟨items.map record, (Condition.ofDates column bound lower upper).map meets, none,
        none⟩
      = .ok ((items.filter fun i => (date i).within lower upper).map record) := by
  have hmeets : ∀ r ∈ items.map record,
      ∀ p ∈ (Condition.ofDates column bound lower upper).map meets, ∃ answer, p r = .ok answer := by
    intro r hr
    obtain ⟨i, -, rfl⟩ := List.mem_map.1 hr
    rw [List.forall_mem_map]
    exact Condition.forall_mem_ofDates (fun b => ⟨_, meets_of_orders h (hread i) .atLeast b⟩)
      fun b => ⟨_, meets_of_orders h (hread i) .atMost b⟩
  have hall : ∀ i, ((Condition.ofDates column bound lower upper).map meets).all
      (satisfies (record i)) = (date i).within lower upper := by
    intro i
    rw [List.all_map]
    exact all_satisfies_ofDates h (hread i) lower upper
  rw [Query.rows, matching_eq hmeets, List.filter_map]
  simp only [Function.comp_def, hall]
  exact congrArg Except.ok (page_of_unlimited rfl rfl _)

variable {fields : Option (List String)} {operators : List Operator}

/-- The filter narrows a query by the conditions of its bounds, after a cast if there is one.  The
kinds of columns are optional, and without them nothing is cast. -/
theorem apply_ofDates {c : Field} {lower upper : Option Date} (kinds : Option Condition.Kinds)
    (hcast : Condition.castAll (kinds.getD []) (Condition.ofDates c.column Date.written lower upper)
      = .ok (Condition.ofDates c.column bound lower upper))
    (hcolumn : Condition.allowed fields c.column = true) (hgte : operators.contains .gte = true)
    (hlte : operators.contains .lte = true) (records : List ρ) :
    (backend ρ fields operators).apply (.ofRecords records) none kinds
        [Filter.ofDates c lower upper]
      = .ok ⟨records, (Condition.ofDates c.column bound lower upper).map meets, none, none⟩ := by
  have hsupported : ∀ d ∈ Condition.ofDates c.column Date.written lower upper,
      d.operator ∈ (backend ρ fields operators).supported :=
    Condition.forall_mem_ofDates (fun _ => List.contains_iff_mem.1 hgte)
      fun _ => List.contains_iff_mem.1 hlte
  have hknown : ∀ d ∈ Condition.ofDates c.column bound lower upper,
      Condition.allowed fields d.field = true ∧ operators.contains d.operator = true :=
    Condition.forall_mem_ofDates (fun _ => ⟨hcolumn, hgte⟩) fun _ => ⟨hcolumn, hlte⟩
  rw [Backend.apply, Condition.ofFilters_ofDates]
  simp only [bind, Except.bind, Backend.checkSupported_of_mem _ hsupported, Backend.narrowAll,
    hcast]
  exact foldlM_narrow_of_known hknown _

/-- **Texts and dates are selected alike.**  Let records hold dates, or their texts, in a column.
Then a filter by the texts of two bounds, of which one or both may be missing, leaves exactly the
records whose dates lie between the bounds.  This is so for texts, for dates, and for dates if the
kind of the column is given. -/
theorem rows_ofDates (fields : Option (List String)) (operators : List Operator) (c : Field)
    (lower upper : Option Date) (hcolumn : Condition.allowed fields c.column = true)
    (hgte : operators.contains .gte = true) (hlte : operators.contains .lte = true)
    (items : List ι) (date : ι → Date) (texts : ι → ρ)
    (htexts : ∀ i, Record.read (texts i) c.column = (date i).written) (dates : ι → σ)
    (hdates : ∀ i, Record.read (dates i) c.column = .date (date i)) :
    ∃ f selected, Filter.ofField c .between
        (.tuple [(lower.map Date.written).getD .null, (upper.map Date.written).getD .null])
          = .ok f ∧
      selected = (items.filter fun i => (date i).within lower upper) ∧
      ((backend ρ fields operators).apply (.ofRecords (items.map texts)) none none [f]
        >>= Query.rows) = .ok (selected.map texts) ∧
      ((backend σ fields operators).apply (.ofRecords (items.map dates)) none none [f]
        >>= Query.rows) = .ok (selected.map dates) ∧
      ((backend σ fields operators).apply (.ofRecords (items.map dates)) none
        (some [(c.column, .date)]) [f] >>= Query.rows) = .ok (selected.map dates) := by
  -- The three ways differ only in what cells and bounds are.
  refine ⟨_, _, Filter.ofField_dates c lower upper, rfl, ?_, ?_, ?_⟩
  · rw [apply_ofDates none (Condition.castAll_nil _) hcolumn hgte hlte]
    exact rows_of_orders orders_written htexts items lower upper
  · rw [apply_ofDates none (Condition.castAll_nil _) hcolumn hgte hlte]
    exact rows_of_orders orders_date_written hdates items lower upper
  · rw [apply_ofDates (some _) (Condition.castAll_ofDates _ _ _) hcolumn hgte hlte]
    exact rows_of_orders orders_date hdates items lower upper

/-- A record of a day.  The day may be a text or a date. -/
def dayRecord (v : Value) : Value :=
  .map [("day", v)]

/-- A day at the end of the year 999, which is written with a zero in front.  Without that zero it
would be behind all other days as a text. -/
def lastDayOf999 : Date :=
  ⟨999, 12, 31, by decide, by decide, by decide⟩

/-- A leap day. -/
def leapDay : Date :=
  ⟨2000, 2, 29, by decide, by decide, by decide⟩

/-- The day after a leap day. -/
def marchFirst : Date :=
  ⟨2000, 3, 1, by decide, by decide, by decide⟩

/-- Days up to a leap day, given as a text.  There is no lower bound. -/
def untilLeapDay : Filter :=
  ⟨"day", .between, .range .null (.text "2000-02-29"), some (.ofKind .dateRange "day"), "day"⟩

/-- Of three days the first two are left.  This is so of texts and of dates alike. -/
theorem threeDays_rows_ofDates :
    Filter.ofField (.ofKind .dateRange "day") .between (.tuple [.null, leapDay.written])
      = .ok untilLeapDay ∧
    ((backend Value none Operator.wire).apply
        (.ofRecords ([lastDayOf999, leapDay, marchFirst].map fun d => dayRecord d.written)) none
        none [untilLeapDay] >>= Query.rows)
      = .ok [dayRecord lastDayOf999.written, dayRecord leapDay.written] ∧
    ((backend Value none Operator.wire).apply
        (.ofRecords ([lastDayOf999, leapDay, marchFirst].map fun d => dayRecord (.date d))) none
        (some [("day", .date)]) [untilLeapDay] >>= Query.rows)
      = .ok [dayRecord (.date lastDayOf999), dayRecord (.date leapDay)] := by
  obtain ⟨f, selected, hf, hselected, htexts, -, hdates⟩ :=
    rows_ofDates none Operator.wire (.ofKind .dateRange "day") none (some leapDay) rfl rfl rfl
      [lastDayOf999, leapDay, marchFirst] id (fun d => dayRecord d.written) (fun _ => rfl)
      (fun d => dayRecord (.date d)) fun _ => rfl
  obtain rfl : untilLeapDay = f := Except.ok.inj hf
  obtain rfl : selected = [lastDayOf999, leapDay] := hselected
  exact ⟨hf, htexts, hdates⟩

end Memory

end UrlFilter
