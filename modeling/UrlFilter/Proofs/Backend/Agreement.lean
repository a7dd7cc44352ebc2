import UrlFilter.Proofs.Backend.Recorder
import UrlFilter.Proofs.Memory.Conjunction
import UrlFilter.Proofs.Relational.Evaluate
import UrlFilter.Proofs.Scheme

namespace UrlFilter

open Relational

/-!
# The same filters in memory and in a database

Filters that compare columns with values of their kinds keep the same rows in memory and in a
database, but for two things: an empty cell differs from a value in memory alone, and a database has
no order of a yes and a no.

* `Model.record` — a row of a model as a record in memory.
* `Filter.Asks` — the filter compares a column of a model with values of its kind.
* `Model.meets`, `Model.missed` — a row meets filters in memory, and a database misses it.
* `Memory.foldlM_narrow`, `Relational.foldlM_narrow` — conditions narrow a query one after another.
* `Backend.keeps_of_apply` — the rows that filters keep in memory and in a database.
-/

/-! ### Rows of a model -/

namespace Relational

/-- What a row has under an attribute.  A column that the row does not have is an empty cell. -/
def Attribute.cell (a : Attribute) (row : Row) : Value :=
  (Operand.column a.column).value row

namespace Model

/-- The attribute of a name; of several the first.  Conditions name attributes, and not columns. -/
def attribute? (m : Model) (name : String) : Option Attribute :=
  m.attributes.find? fun a => name == a.name

/-- A row as a record whose fields are the attributes.  A row and its record hold the same values,
so that both backends are asked about the same data. -/
def record (m : Model) (row : Row) : Value :=
  .map (m.attributes.map fun a => (a.name, a.cell row))

/-- Each cell of the row is empty or holds a value of the kind of its column.  A database keeps no
other values in a column, which is what typed columns are for. -/
def Admits (m : Model) (row : Row) : Prop :=
  ∀ a ∈ m.attributes, ∀ kind, a.kind = some kind → kind.Cell (a.cell row)

variable {m : Model} {name : String} {a : Attribute}

/-- What is listed under the names of attributes is found at the first attribute of a name.  Fields
and columns are both looked up in this way, and so agree on the attribute. -/
theorem lookup_map_attributes {β : Type} (attributes : List Attribute) (g : Attribute → β)
    (name : String) : (attributes.map fun a => (a.name, g a)).lookup name
      = (attributes.find? fun a => name == a.name).map g := by
  induction attributes with
  | nil => rfl
  | cons a attributes ih =>
    rw [List.map_cons, List.lookup_cons, List.find?_cons]
    cases name == a.name with
    | true => rfl
    | false => exact ih

/-- The record of a row has the cells of the row in its fields. -/
theorem fieldOf_record (h : m.attribute? name = some a) (row : Row) :
    Memory.fieldOf (m.record row) name = a.cell row := by
  rw [record, Memory.fieldOf, lookup_map_attributes, ← attribute?, h]
  rfl

/-- The column of an attribute is what a query of the database finds under its name. -/
theorem resolve_of_attribute? (h : m.attribute? name = some a) :
    (Source.model m).resolve name = .ok a.column := by
  rw [Source.resolve, Source.columns, lookup_map_attributes, ← attribute?, h]
  rfl

end Model

end Relational

/-! ### Conditions on a model -/

namespace Condition

/-- The condition compares a column of the model with values of its kind.  A cast to the kinds of
the columns leads to such conditions. -/
def On (m : Model) (c : Condition) : Prop :=
  ∃ a kind, m.attribute? c.field = some a ∧ a.kind = some kind ∧ Suits kind c.operator c.value

/-- The row meets the condition in memory.  The answer is a plain yes or no, since the condition
compares values of one kind. -/
def metIn (m : Model) (row : Row) (c : Condition) : Bool :=
  c.metBy (Memory.fieldOf (m.record row) c.field)

/-- The condition asks for a difference from some value where the row has none.  In memory the
absent value differs from every other one, while a database knows nothing of it. -/
def missedIn (m : Model) (row : Row) (c : Condition) : Bool :=
  c.asksDifference && (Memory.fieldOf (m.record row) c.field).isNull

variable {m : Model} {c : Condition} {row : Row}

/-- What suits a column has an operator that both backends support. -/
theorem contains_wire_of_suits {kind : Target} {op : Operator} {w : Value} (h : Suits kind op w) :
    Operator.wire.contains op = true := by
  cases h with
  | order o hop =>
    subst hop
    cases o <;> decide
  | _ => decide

/-- A condition on a model has an operator that both backends support. -/
theorem On.contains_wire (h : c.On m) : Operator.wire.contains c.operator = true := by
  obtain ⟨a, kind, -, -, hsuits⟩ := h
  exact contains_wire_of_suits hsuits

/-- Whether a row meets a condition in memory is defined.  It is the reading of the condition in
memory. -/
theorem On.meets_record (h : c.On m) (hrow : m.Admits row) :
    Memory.meets c (m.record row) = .ok (c.metIn m row) := by
  obtain ⟨a, kind, ha, hkind, hsuits⟩ := h
  -- The field of the record is the cell that the row has in the column.
  have hcell : kind.Cell (Memory.fieldOf (m.record row) c.field) := by
    rw [Model.fieldOf_record ha]
    exact hrow a (List.mem_of_find?_eq_some ha) kind hkind
  exact (readings_of_suits hsuits hcell).memory

end Condition

/-! ### Narrowing in memory -/

namespace Memory

/-- Conditions with operators of a URL narrow a query in memory.  Their predicates stand in the same
order. -/
theorem foldlM_narrow {ρ : Type} [Record ρ] {conditions : List Condition}
    (hwire : ∀ c ∈ conditions, Operator.wire.contains c.operator = true) (q : Query ρ) :
    conditions.foldlM (backend ρ none Operator.wire).narrow q
      = .ok { q with predicates := q.predicates ++ conditions.map meets } :=
  foldlM_narrow_of_known (fun c hc => ⟨rfl, hwire c hc⟩) q

end Memory

/-! ### Narrowing in a database -/

namespace Relational

variable {m : Model} {c : Condition} {conditions : List Condition}

/-- A condition on an attribute narrows a query by its predicate, if it makes one.  The look-up and
the operator are no reason for an error here. -/
theorem narrow_of_attribute? {a : Attribute} (ha : m.attribute? c.field = some a)
    (hwire : Operator.wire.contains c.operator = true) (q : Select) :
    (backend (.model m) Operator.wire).narrow q c
      = (Predicate.of c.field c.operator a.column c.value).map
          fun p => { q with predicates := q.predicates ++ [p] } := by
  simp only [backend, narrow, Model.resolve_of_attribute? ha, bind, Except.bind, hwire, if_true]
  cases Predicate.of c.field c.operator a.column c.value <;> rfl

/-- A condition narrows a query of a database, unless it asks for the order of a yes or no.  What it
keeps in addition to the rows before is decided for each row by itself. -/
theorem narrow_of_on (hon : c.On m) (hflag : c.ordersFlag = false) (q : Select) :
    ∃ s, (backend (.model m) Operator.wire).narrow q c = .ok s ∧ ∀ row, m.Admits row →
      s.keeps row = (q.keeps row && (c.metIn m row && !c.missedIn m row)) := by
  have hwire := hon.contains_wire
  obtain ⟨a, kind, ha, hkind, hsuits⟩ := hon
  have hmade := Condition.predicate_of_suits hsuits a.column
  rw [hflag, if_neg Bool.false_ne_true] at hmade
  obtain ⟨p, hp⟩ := hmade
  refine ⟨{ q with predicates := q.predicates ++ [p] }, ?_, fun row hrow => ?_⟩
  · rw [narrow_of_attribute? ha hwire, hp]
    rfl
  · have hcell := hrow a (List.mem_of_find?_eq_some ha) kind hkind
    -- The one new predicate is true of the row if it is met and not missed.
    have htruth := (Condition.readings_of_suits hsuits hcell).database a.column p row hp rfl
    rw [Select.keeps, List.all_append, List.all_cons, List.all_nil, Bool.and_true, htruth,
      Condition.metIn, Condition.missedIn, Model.fieldOf_record ha,
      Bool.and_comm (a.cell row).isNull]
    rfl

/-- A condition that asks for the order of a yes or no is refused before any row is looked at. -/
theorem narrow_of_flag (hon : c.On m) (hflag : c.ordersFlag = true) (q : Select) :
    (backend (.model m) Operator.wire).narrow q c = .error .badOperand := by
  have hwire := hon.contains_wire
  obtain ⟨a, kind, ha, -, hsuits⟩ := hon
  have hmade := Condition.predicate_of_suits hsuits a.column
  rw [hflag, if_pos rfl] at hmade
  rw [narrow_of_attribute? ha hwire, hmade]
  rfl

/-- **Conditions narrow a query of a database** to the rows that meet them in memory and that they
do not miss, if none of them asks for the order of a yes or no. -/
theorem foldlM_narrow (hon : ∀ c ∈ conditions, c.On m)
    (hflag : ∀ c ∈ conditions, c.ordersFlag = false) (q : Select) :
    ∃ s, conditions.foldlM (backend (.model m) Operator.wire).narrow q = .ok s ∧
      ∀ row, m.Admits row → s.keeps row = (q.keeps row &&
        (conditions.all (·.metIn m row) && !conditions.any (·.missedIn m row))) := by
  induction conditions generalizing q with
  | nil => exact ⟨q, rfl, by simp⟩
  | cons c conditions ih =>
    rw [List.forall_mem_cons] at hon hflag
    obtain ⟨s, hs, hkeeps⟩ := narrow_of_on hon.1 hflag.1 q
    obtain ⟨last, hlast, hrest⟩ := ih hon.2 hflag.2 s
    -- By induction on the conditions: each one takes away the rows that it does not keep, and the
    -- two tests of all conditions are built up from those of each.
    refine ⟨last, by rw [List.foldlM_cons, hs]; exact hlast, fun row hrow => ?_⟩
    rw [hrest row hrow, hkeeps row hrow, List.all_cons, List.any_cons, Bool.not_or]
    ac_rfl

/-- A condition that asks for the order of a yes or no stops the narrowing.  It does not matter
which conditions stand before it, as none of them fails in another way. -/
theorem foldlM_narrow_of_flag (hon : ∀ c ∈ conditions, c.On m)
    (hflag : ∃ c ∈ conditions, c.ordersFlag = true) (q : Select) :
    conditions.foldlM (backend (.model m) Operator.wire).narrow q = .error .badOperand := by
  induction conditions generalizing q with
  | nil => simp at hflag
  | cons c conditions ih =>
    rw [List.forall_mem_cons] at hon
    rw [List.foldlM_cons]
    -- Conditions before the first of this kind narrow the query, and the induction goes on with
    -- what they make of it.
    cases hc : c.ordersFlag with
    | true =>
      rw [narrow_of_flag hon.1 hc]
      rfl
    | false =>
      obtain ⟨s, hs, -⟩ := narrow_of_on hon.1 hc q
      rw [hs]
      exact ih hon.2 (by simpa [hc] using hflag) s

end Relational

/-! ### Filters -/

/-- The filter compares a column of the model with values of its kind, or has no value.  A range has
bounds that are absent or of the kind of the column. -/
def Filter.Asks (m : Model) (f : Filter) : Prop :=
  ∃ c a kind, f.config = some c ∧ m.attribute? c.column = some a ∧ a.kind = some kind ∧
    (f.value = .null ∨ Condition.Suits kind f.operator f.value ∨
      f.operator = .between ∧ ∃ lower upper, f.value = .range lower upper ∧
        kind.Cell lower ∧ kind.Cell upper)

/-- What suits a column is compared as it is, by an operator other than `between`.  A pattern search
suits no column here, so that no value is changed. -/
theorem Condition.operand_of_suits {kind : Target} {op : Operator} {w : Value}
    (h : Suits kind op w) (pattern : String → String) :
    op ≠ .between ∧ operand pattern op w = w := by
  cases h with
  | order o hop =>
    subst hop
    cases o <;> exact ⟨by decide, rfl⟩
  | _ => exact ⟨by decide, rfl⟩

/-- A bound that is given suits the column that it bounds.  It is a comparison of an order,
whichever of the two it is. -/
theorem Condition.on_of_mem_ofBounds {m : Model} {column : String} {a : Attribute} {kind : Target}
    (ha : m.attribute? column = some a) (hkind : a.kind = some kind) {lower upper : Value}
    (hlower : kind.Cell lower) (hupper : kind.Cell upper) {d : Condition}
    (hd : d ∈ ofBounds column lower upper) : d.On m := by
  rcases mem_ofBounds.1 hd with ⟨hnull, rfl⟩ | ⟨hnull, rfl⟩
  · rcases hlower with rfl | hlower
    · simp [Value.isNull] at hnull
    · exact ⟨a, kind, ha, hkind, .order .atLeast rfl hlower⟩
  · rcases hupper with rfl | hupper
    · simp [Value.isNull] at hnull
    · exact ⟨a, kind, ha, hkind, .order .atMost rfl hupper⟩

variable {pattern : String → String}

/-- The conditions of a filter that compares a column with values of its kind do so too.  They are
made without an error, as the filter has its settings. -/
theorem Filter.Asks.conditions_on {m : Model} {f : Filter} (h : f.Asks m) :
    Condition.ofFilter pattern f = .ok (f.conditions pattern) ∧
      ∀ d ∈ f.conditions pattern, d.On m := by
  obtain ⟨c, a, kind, hconfig, ha, hkind, hvalue⟩ := h
  -- Without a value there is no condition, otherwise one, or one for each bound.
  rcases hvalue with hnull | hsuits | ⟨hop, lower, upper, hrange, hlower, hupper⟩
  · have hempty : f.value.isEmpty = true := by rw [hnull]; rfl
    rw [Filter.conditions_of_isEmpty hempty, Condition.ofFilter, hempty]
    exact ⟨rfl, fun d hd => absurd hd List.not_mem_nil⟩
  · obtain ⟨hop, hoperand⟩ := Condition.operand_of_suits hsuits pattern
    have hmade := Condition.ofFilter_of_ne_between pattern hconfig hop
    rw [hoperand] at hmade
    rw [Filter.conditions_of_eq_ok hmade]
    refine ⟨hmade, fun d hd => ?_⟩
    split at hd
    · exact absurd hd List.not_mem_nil
    · obtain rfl := List.mem_singleton.1 hd
      exact ⟨a, kind, ha, hkind, hsuits⟩
  · have hmade := Condition.ofFilter_of_between pattern hconfig hop hrange
    rw [Filter.conditions_of_eq_ok hmade]
    exact ⟨hmade, fun d hd => Condition.on_of_mem_ofBounds ha hkind hlower hupper hd⟩

/-- Filters that compare columns with values of their kinds narrow any query by their conditions.
No cast is made, since there are no kinds to cast to. -/
theorem Backend.apply_of_asks {m : Model} {filters : List Filter} (h : ∀ f ∈ filters, f.Asks m)
    {Query : Type} (b : Backend Query) (hwire : b.supported = Operator.wire) (q : Query) :
    (∀ c ∈ filters.flatMap (Filter.conditions b.pattern), c.On m) ∧
      b.apply q none none filters =
        (filters.flatMap (Filter.conditions b.pattern)).foldlM b.narrow q := by
  have hon : ∀ f ∈ filters, ∀ c ∈ f.conditions b.pattern, c.On m :=
    fun f hf => (h f hf).conditions_on.2
  refine ⟨fun c hc => ?_, b.apply_eq_foldlM q (fun f hf => (h f hf).conditions_on.1) ?_⟩
  · obtain ⟨f, hf, hc⟩ := List.mem_flatMap.1 hc
    exact hon f hf c hc
  · intro f hf c hc
    rw [Backend.supports, hwire]
    exact (hon f hf c hc).contains_wire

/-! ### Rows that are kept -/

open Condition (substringPattern)

namespace Relational.Model

/-- The row meets all filters in memory.  This is what a query in memory answers. -/
def meets (m : Model) (filters : List Filter) (row : Row) : Bool :=
  (filters.flatMap (Filter.conditions substringPattern)).all (·.metIn m row)

/-- Some filter asks for a difference from a value where the row has none.  Such a row is kept in
memory only. -/
def missed (m : Model) (filters : List Filter) (row : Row) : Bool :=
  (filters.flatMap (Filter.conditions substringPattern)).any (·.missedIn m row)

end Relational.Model

/-- Which records of rows meet conditions on their model is defined.  No record is a reason for an
error. -/
theorem Memory.matching_of_on {m : Model} {rows : List Row} (hrows : ∀ row ∈ rows, m.Admits row)
    {conditions : List Condition} (hon : ∀ c ∈ conditions, c.On m) {q : Query Value}
    (hrecords : q.records = rows.map m.record)
    (hpredicates : q.predicates = conditions.map Memory.meets) :
    q.matching = .ok ((rows.filter fun row => conditions.all (·.metIn m row)).map m.record) := by
  -- Each predicate has an answer for each record, so that all of them together have one.
  have hmeets : ∀ r ∈ rows.map m.record, ((conditions.map Memory.meets).allM fun p => p r)
      = .ok (conditions.all fun c => c.metBy (fieldOf r c.field)) := by
    intro r hr
    obtain ⟨row, hrow, rfl⟩ := List.mem_map.1 hr
    rw [allM_map]
    exact allM_eq_ok fun c hc => (hon c hc).meets_record (hrows row hrow)
  rw [Query.matching, hrecords, hpredicates, filterM_eq_ok hmeets, List.filter_map]
  rfl

/-- Rows that are left out make fewer only if some of them would have been kept. -/
theorem Relational.length_filter_eq_iff (rows : List Row) (meets missed : Row → Bool) :
    (rows.filter fun row => meets row && !missed row).length = (rows.filter meets).length ↔
      ∀ row ∈ rows, meets row = true → missed row = false := by
  have hfilter : (rows.filter fun row => meets row && !missed row)
      = (rows.filter meets).filter fun row => !missed row := by
    rw [List.filter_filter]
    exact List.filter_congr fun row _ => Bool.and_comm _ _
  rw [hfilter, List.length_filter_eq_length_iff]
  simp [and_imp]

namespace Backend

/-- **The same filters in memory and in a database.**  If filters compare columns of a model with
values of their kinds, then in memory each row meets them or not.  A database refuses them if one of
them asks for the order of a yes or no; otherwise it keeps the rows that meet them, but for those
where a filter asks an empty cell for a difference from a value.  So both count equally many rows
exactly if no row that meets the filters has an empty cell where one of them asks for a
difference. -/
theorem keeps_of_apply (m : Model) {rows : List Row} (hrows : ∀ row ∈ rows, m.Admits row)
    {filters : List Filter} (hfilters : ∀ f ∈ filters, f.Asks m) :
    ∃ q, (Memory.backend Value none Operator.wire).apply (.ofRecords (rows.map m.record)) none none
        filters = .ok q ∧
      q.matching = .ok ((rows.filter (m.meets filters)).map m.record) ∧
      ((∃ f ∈ filters, ∃ c ∈ f.conditions substringPattern, c.ordersFlag = true) →
        (Relational.backend (.model m) Operator.wire).apply (.ofSource (.model m)) none none filters
          = .error .badOperand) ∧
      ((∀ f ∈ filters, ∀ c ∈ f.conditions substringPattern, c.ordersFlag = false) →
        ∃ s, (Relational.backend (.model m) Operator.wire).apply (.ofSource (.model m)) none none
            filters = .ok s ∧
          (∀ row ∈ rows, s.keeps row = (m.meets filters row && !m.missed filters row)) ∧
          (s.countWith (some rows) = q.count ↔
            ∀ row ∈ rows, m.meets filters row = true → m.missed filters row = false)) := by
  obtain ⟨hon, hmemory⟩ := apply_of_asks hfilters (Memory.backend Value none Operator.wire) rfl
    (.ofRecords (rows.map m.record))
  obtain ⟨-, hdatabase⟩ := apply_of_asks hfilters (Relational.backend (.model m) Operator.wire) rfl
    (.ofSource (.model m))
  rw [Memory.foldlM_narrow fun c hc => (hon c hc).contains_wire] at hmemory
  -- In memory nothing can fail.
  obtain ⟨q, hq, hmatching⟩ : ∃ q, (Memory.backend Value none Operator.wire).apply
        (.ofRecords (rows.map m.record)) none none filters = .ok q ∧
      q.matching = .ok ((rows.filter (m.meets filters)).map m.record) :=
    ⟨_, hmemory, Memory.matching_of_on hrows hon rfl rfl⟩
  refine ⟨q, hq, hmatching, ?_, ?_⟩
  · rintro ⟨f, hf, c, hc, hflag⟩
    rw [hdatabase]
    exact foldlM_narrow_of_flag hon ⟨c, List.mem_flatMap.2 ⟨f, hf, hc⟩, hflag⟩ _
  · intro hflag
    have hnone :
        ∀ c ∈ filters.flatMap (Filter.conditions substringPattern), c.ordersFlag = false := by
      intro c hc
      obtain ⟨f, hf, hc⟩ := List.mem_flatMap.1 hc
      exact hflag f hf c hc
    obtain ⟨s, hs, hkeeps⟩ := Relational.foldlM_narrow hon hnone (.ofSource (.model m))
    have hkept : ∀ row ∈ rows, s.keeps row = (m.meets filters row && !m.missed filters row) :=
      fun row hrow => hkeeps row (hrows row hrow)
    -- The rows that a database counts are cut out of those that meet the filters.
    have hcount : s.count rows
        = (rows.filter fun row => m.meets filters row && !m.missed filters row).length :=
      congrArg List.length (List.filter_congr hkept)
    refine ⟨s, hdatabase.trans hs, hkept, ?_⟩
    rw [← Relational.length_filter_eq_iff, Select.countWith, hcount,
      Memory.count_of_matching hmatching, List.length_map, Except.ok.injEq]

/-- Orders with their totals and whether they are paid.  Totals can be ordered, and whether an order
is paid cannot. -/
def orderModel : Model where
  name := "Order"
  table := "orders"
  attributes :=
    [⟨"total", ⟨"orders", "total"⟩, some .decimal⟩, ⟨"paid", ⟨"orders", "paid"⟩, some .bool⟩]

/-- An order.  Either value may be absent. -/
def orderRow (total paid : Value) : Row :=
  [("total", total), ("paid", paid)]

/-- Three orders, one of them without a total. -/
def orderRows : List Row :=
  [orderRow (.decimal (.ofInt 1)) (.bool true), orderRow .null (.bool false),
    orderRow (.decimal (.ofInt 5)) .null]

/-- An order has cells of the right kinds if its two values are of these kinds. -/
theorem admits_orderRow {total paid : Value} (htotal : Target.decimal.Cell total)
    (hpaid : Target.bool.Cell paid) : orderModel.Admits (orderRow total paid) := by
  intro a ha kind hkind
  simp only [orderModel, List.mem_cons, List.not_mem_nil, or_false] at ha
  rcases ha with rfl | rfl
  · cases hkind
    exact htotal
  · cases hkind
    exact hpaid

/-- A filter on totals.  Its field has the name of the column. -/
def ofTotal (op : Operator) (v : Value) : Filter :=
  ⟨"total", op, v, some (.ofKind .number "total"), "total"⟩

/-- A filter on whether orders are paid. -/
def ofPaid (op : Operator) (v : Value) : Filter :=
  ⟨"paid", op, v, some (.ofKind .boolean "paid"), "paid"⟩

/-- Orders with a total up to 5 that are paid.  The range has no lower bound. -/
def paidUpToFive : List Filter :=
  [ofTotal .between (.range .null (.decimal (.ofInt 5))), ofPaid .among (.list [.bool true])]

/-- Paid orders with a total up to 5 are counted alike.  Of the orders whose total is not 5, the one
without a total is counted in memory alone; and orders are not ordered by whether they are paid. -/
theorem orders_keeps_of_apply :
    (∃ q s, (Memory.backend Value none Operator.wire).apply
          (.ofRecords (orderRows.map orderModel.record)) none none paidUpToFive = .ok q ∧
      (Relational.backend (.model orderModel) Operator.wire).apply (.ofSource (.model orderModel))
          none none paidUpToFive = .ok s ∧
      s.countWith (some orderRows) = q.count) ∧
    (∃ q s, (Memory.backend Value none Operator.wire).apply
          (.ofRecords (orderRows.map orderModel.record)) none none
          [ofTotal .neq (.decimal (.ofInt 5))] = .ok q ∧
      (Relational.backend (.model orderModel) Operator.wire).apply (.ofSource (.model orderModel))
          none none [ofTotal .neq (.decimal (.ofInt 5))] = .ok s ∧
      s.countWith (some orderRows) ≠ q.count) ∧
    (Relational.backend (.model orderModel) Operator.wire).apply (.ofSource (.model orderModel))
        none none [ofPaid .gte (.bool true)] = .error .badOperand := by
  have hfive : Target.decimal.Stores (.decimal (.ofInt 5)) := .decimal rfl
  have hrows : ∀ row ∈ orderRows, orderModel.Admits row := by
    simp only [orderRows, List.forall_mem_cons]
    exact ⟨admits_orderRow (.inr (.decimal rfl)) (.inr (.bool true)),
      admits_orderRow (.inl rfl) (.inr (.bool false)), admits_orderRow (.inr hfive) (.inl rfl),
      fun row hrow => absurd hrow List.not_mem_nil⟩
  have htotal : ∀ {op v}, (v = .null ∨ Condition.Suits .decimal op v ∨
        op = .between ∧ ∃ lower upper, v = .range lower upper ∧
          Target.decimal.Cell lower ∧ Target.decimal.Cell upper) →
      (ofTotal op v).Asks orderModel := fun h => ⟨_, _, .decimal, rfl, rfl, rfl, h⟩
  have hpaid : ∀ {op v}, Condition.Suits .bool op v → (ofPaid op v).Asks orderModel :=
    fun h => ⟨_, _, .bool, rfl, rfl, rfl, .inr (.inl h)⟩
  refine ⟨?_, ?_, ?_⟩
  · have hasks : ∀ f ∈ paidUpToFive, f.Asks orderModel := by
      simp only [paidUpToFive, List.forall_mem_cons]
      refine ⟨htotal (.inr (.inr ⟨rfl, _, _, rfl, .inl rfl, .inr hfive⟩)),
        hpaid (.among rfl rfl ?_), fun f hf => absurd hf List.not_mem_nil⟩
      exact List.forall_mem_singleton.2 (.bool true)
    obtain ⟨q, hq, -, -, hkept⟩ := keeps_of_apply orderModel hrows hasks
    obtain ⟨s, hs, -, hcount⟩ := hkept (by decide)
    exact ⟨q, s, hq, hs, hcount.2 (by decide)⟩
  · have hasks : ∀ f ∈ [ofTotal .neq (.decimal (.ofInt 5))], f.Asks orderModel :=
      List.forall_mem_singleton.2 (htotal (.inr (.inl (.neq hfive))))
    obtain ⟨q, hq, -, -, hkept⟩ := keeps_of_apply orderModel hrows hasks
    obtain ⟨s, hs, -, hcount⟩ := hkept (by decide)
    exact ⟨q, s, hq, hs, fun h => absurd (hcount.1 h) (by decide)⟩
  · have hasks : ∀ f ∈ [ofPaid .gte (.bool true)], f.Asks orderModel :=
      List.forall_mem_singleton.2 (hpaid (.order .atLeast rfl (.bool true)))
    obtain ⟨q, -, -, hflag, -⟩ := keeps_of_apply orderModel hrows hasks
    exact hflag (by decide)

end Backend

end UrlFilter
