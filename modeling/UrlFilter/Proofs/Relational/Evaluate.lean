import UrlFilter.Memory.Query
import UrlFilter.Proofs.Memory.Order
import UrlFilter.Relational.Evaluate

namespace UrlFilter

open Relational

/-!
# One condition of one cell

In memory a condition of a cell is met or not.  In a database it may also be unknown, which an empty
cell makes of all conditions but those that ask for it.  Where the condition asks for a difference
an empty cell meets it in memory and does not in a database; elsewhere both agree.

* `Condition.Suits` — the values that a condition may compare the cells of a column with.
* `Condition.asksDifference` — the conditions that an empty cell meets in memory alone.
* `Condition.ordersFlag` — the conditions that no predicate of a database is made of.
* `Condition.metBy` — a condition is met in memory.
* `Condition.Readings` — what a condition of a cell says in memory and in a database.
* `Condition.readings_of_suits` — both readings of one condition of one cell.
-/

/-! ### Three truth values -/

namespace Relational

variable {kind : Target} {v w : Value}

theorem Truth.ofBool_beq_yes (b : Bool) : (Truth.ofBool b == .yes) = b := by
  cases b <;> rfl

theorem Truth.not_ofBool (b : Bool) : (Truth.ofBool b).not = .ofBool !b := by
  cases b <;> rfl

/-- What is known but for a gap is true where it is yes and there is no gap.  This is how a
condition of a cell comes out where the cell is empty. -/
theorem Truth.beq_yes_of_gap (gap b : Bool) :
    ((if gap then Truth.unknown else .ofBool b) == .yes) = (b && !gap) := by
  cases gap <;> cases b <;> rfl

/-- The opposite of what is known but for a gap is not known there either.  So neither an equality
nor its opposite holds of an empty cell. -/
theorem Truth.not_beq_yes_of_gap (gap b : Bool) :
    ((if gap then Truth.unknown else .ofBool b).not == .yes) = (!b && !gap) := by
  cases gap <;> cases b <;> rfl

theorem Truth.or_ofBool (a b : Bool) : (Truth.ofBool a).or (.ofBool b) = .ofBool (a || b) := by
  cases a <;> cases b <;> rfl

/-- The equality of a cell and a value is known, unless the cell is empty.  A value that a column
stores is never the absent one. -/
theorem equalTruth_of_cell (hv : kind.Cell v) (hw : kind.Stores w) :
    equalTruth v w = if v.isNull then .unknown else .ofBool (v.equals w) := by
  rw [equalTruth, Target.isNull_of_stores hw, (Value.equal?_eq_equals hv hw).1, Bool.or_false]

/-- Whether a cell is among values is known, unless the cell is empty and there are some.  No cell
is among no values, not even an empty one. -/
theorem amongTruth_of_cell {items : List Value} (hv : kind.Cell v)
    (hitems : ∀ w ∈ items, kind.Stores w) :
    amongTruth v items
      = if v.isNull && !items.isEmpty then .unknown else .ofBool (items.any v.equals) := by
  -- An empty cell keeps the truth unknown along the values; any other cell adds one answer after
  -- another.
  rcases hv with rfl | hv
  · have hunknown : ∀ items : List Value, items.foldl
        (fun (truth : Truth) item => truth.or (equalTruth .null item)) .unknown = .unknown := by
      intro items
      induction items with
      | nil => rfl
      | cons w items ih => exact ih
    cases items with
    | nil => rfl
    | cons w items => exact hunknown items
  · have hknown : ∀ a : Bool, items.foldl
        (fun (truth : Truth) item => truth.or (equalTruth v item)) (.ofBool a)
          = .ofBool (a || items.any v.equals) := by
      induction items with
      | nil => simp
      | cons w items ih =>
        rw [List.forall_mem_cons] at hitems
        intro a
        rw [List.foldl_cons, equalTruth_of_cell (.inr hv) hitems.1, Target.isNull_of_stores hv,
          if_neg Bool.false_ne_true, Truth.or_ofBool, ih hitems.2, List.any_cons, Bool.or_assoc]
    rw [Target.isNull_of_stores hv, Bool.false_and, if_neg Bool.false_ne_true]
    exact (hknown false).trans (by rw [Bool.false_or])

/-- **The order of a cell and a value is the same in memory and in a database,** where an empty cell
is in none.  An empty cell is in none of the four, so both sides say no. -/
theorem exists_compare_and_orderTruth (c : Comparison) (hv : kind.Cell v) (hw : kind.Stores w) :
    ∃ b, Memory.compare c v w = .ok b ∧ (orderTruth c v w == .yes) = b := by
  -- An empty cell is asked for before anything is compared.
  rcases hv with rfl | hv
  · exact ⟨false, rfl, rfl⟩
  · obtain ⟨b, hb⟩ := Target.exists_compare? c hv hw
    refine ⟨b, ?_, ?_⟩
    · rw [Memory.compare, Target.isNull_of_stores hv, if_neg Bool.false_ne_true, hb]
    · rw [orderTruth, Target.isNull_of_stores hv, Target.isNull_of_stores hw, hb]
      exact Truth.ofBool_beq_yes b

end Relational

/-! ### Conditions on columns -/

namespace Condition

/-- The operator and the value of a condition on a column of the kind: a value of the column, or a
collection of such values, or whether cells are to be empty.  Patterns and searches are left out, as
they are not compared but read. -/
inductive Suits (kind : Target) : Operator → Value → Prop where
  | eq {w : Value} (h : kind.Stores w) : Suits kind .eq w
  | neq {w : Value} (h : kind.Stores w) : Suits kind .neq w
  | order (o : Comparison) {op : Operator} (hop : op = o.operator) {w : Value}
      (h : kind.Stores w) : Suits kind op w
  | among {w : Value} {items : List Value} (hcollection : w.isCollection = true)
      (helements : w.elements? = some items) (h : ∀ x ∈ items, kind.Stores x) : Suits kind .among w
  | notAmong {w : Value} {items : List Value} (hcollection : w.isCollection = true)
      (helements : w.elements? = some items) (h : ∀ x ∈ items, kind.Stores x) :
      Suits kind .notAmong w
  | isNull (w : Value) : Suits kind .isNull w

/-- The condition asks for a difference from some value.  Without any value there is nothing to
differ from. -/
def asksDifference (c : Condition) : Bool :=
  match c.operator with
  | .neq => true
  | .notAmong => c.value.elements?.any fun items => !items.isEmpty
  | _ => false

/-- The condition asks for the order of a yes or no.  The order of a yes or no is defined in memory,
but not in a database. -/
def ordersFlag (c : Condition) : Bool :=
  c.value.isBool && [.gt, .gte, .lt, .lte].contains c.operator

/-- The condition is met in memory by a value of its field.  An error counts as not met; conditions
that suit their column have none. -/
def metBy (c : Condition) (v : Value) : Bool :=
  (Memory.holds c.operator v c.value).toOption.getD false

theorem metBy_of_holds {c : Condition} {v : Value} {b : Bool}
    (h : Memory.holds c.operator v c.value = .ok b) : c.metBy v = b := by
  rw [metBy, h]
  rfl

end Condition

namespace Relational.Predicate

variable {kind : Target} {w : Value}

/-- The truth of a predicate that asks for equality with a value, or for its opposite.  A yes or no
and an absent value have predicates of their own, with the same truth. -/
theorem truth_equality (plain absent : Relation) (column : Column) (hw : kind.Stores w)
    (row : Row) :
    (equality plain absent column w).truth row
      = plain.truth ((Operand.column column).value row) w := by
  cases hw <;> rfl

/-- The relation that asks for an order.  The four comparisons have relations of the same names. -/
def relationOf : Comparison → Relation
  | .below => .lt
  | .atMost => .le
  | .above => .gt
  | .atLeast => .ge

theorem of_order (name : String) (c : Comparison) (column : Column) (w : Value) :
    of name c.operator column w = ordering (relationOf c) column w := by
  cases c <;> rfl

theorem truth_relationOf (c : Comparison) (v w : Value) :
    (relationOf c).truth v w = orderTruth c v w := by
  cases c <;> rfl

/-- A collection is bound as the list of its values.  A set has its elements in some order. -/
theorem choices_of_elements? {items : List Value} (hcollection : w.isCollection = true)
    (helements : w.elements? = some items) : choices w = .ok (.list items) := by
  have htext : w.asText? = none := by
    cases w <;> first | rfl | exact absurd hcollection Bool.false_ne_true
  rw [choices, htext, helements]
  rfl

end Relational.Predicate

namespace Condition

variable {kind : Target} {c : Condition} {v : Value}

/-- **A condition makes a predicate of a database, unless it asks for the order of a yes or no.**
Whether it does depends on the condition alone, not on any row. -/
theorem predicate_of_suits (hsuits : Suits kind c.operator c.value) (column : Column) :
    if c.ordersFlag then Predicate.of c.field c.operator column c.value = .error .badOperand
    else ∃ p, Predicate.of c.field c.operator column c.value = .ok p := by
  obtain ⟨field, op, w⟩ := c
  dsimp only at hsuits ⊢
  -- Only the order of a value can be refused, which depends on whether it is a yes or no.
  cases hsuits with
  | eq h => simp [ordersFlag, Predicate.of]
  | neq h => simp [ordersFlag, Predicate.of]
  | order o hop h =>
    subst hop
    have hop : [.gt, .gte, .lt, .lte].contains o.operator = true := by cases o <;> rfl
    have hconstant : (Predicate.constant? w).isSome = w.isBool := by cases h <;> rfl
    simp only [ordersFlag, hop, Bool.and_true, Predicate.of_order, Predicate.ordering, hconstant]
    cases w.isBool <;> simp
  | among hcollection helements h =>
    have hchoices := Predicate.choices_of_elements? hcollection helements
    simp [ordersFlag, Predicate.of, hchoices, bind, Except.bind, pure, Except.pure]
  | notAmong hcollection helements h =>
    have hchoices := Predicate.choices_of_elements? hcollection helements
    simp [ordersFlag, Predicate.of, hchoices, bind, Except.bind, pure, Except.pure]
  | isNull w => simp [ordersFlag, Predicate.of]

/-- The two readings of a condition of a cell.  In memory there is the given answer; a predicate
that the condition makes is true in a database exactly if the answer is yes and the condition is not
one that asks an empty cell for a difference.  The column may be any whose cell in the row is the
given one. -/
structure Readings (c : Condition) (v : Value) (met : Bool) : Prop where
  memory : Memory.holds c.operator v c.value = .ok met
  database : ∀ column p row, Predicate.of c.field c.operator column c.value = .ok p →
    (Operand.column column).value row = v →
    (p.truth row == .yes) = (met && !(v.isNull && c.asksDifference))

variable {field : String} {w : Value} {items : List Value}

/-- An empty cell is equal to no value that a column has.  So an equality that is not known is one
that fails in memory. -/
theorem equals_and_not_isNull (hv : kind.Cell v) (hw : kind.Stores w) :
    (v.equals w && !v.isNull) = v.equals w := by
  rcases hv with rfl | hv
  · rw [Value.equals_null hw]
    rfl
  · rw [Target.isNull_of_stores hv, Bool.not_false, Bool.and_true]

theorem readings_eq (h : kind.Stores w) (hv : kind.Cell v) :
    Readings ⟨field, .eq, w⟩ v (v.equals w) where
  memory := by
    show Memory.lift (v.equal? w) = _
    rw [(Value.equal?_eq_equals hv h).1]
    rfl
  database := by
    rintro column p row hp hcell
    obtain rfl := Except.ok.inj hp
    have hasks : asksDifference ⟨field, .eq, w⟩ = false := rfl
    rw [Predicate.truth_equality _ _ _ h, hcell, Relation.truth, equalTruth_of_cell hv h,
      Truth.beq_yes_of_gap, equals_and_not_isNull hv h, hasks, Bool.and_false, Bool.not_false,
      Bool.and_true]

/-- In a database the opposite of an equality that is not known is not known: this is where an empty
cell is met in memory alone. -/
theorem readings_neq (h : kind.Stores w) (hv : kind.Cell v) :
    Readings ⟨field, .neq, w⟩ v (!v.equals w) where
  memory := by
    simp only [Memory.holds, (Value.equal?_eq_equals hv h).1]
    rfl
  database := by
    rintro column p row hp hcell
    obtain rfl := Except.ok.inj hp
    have hasks : asksDifference ⟨field, .neq, w⟩ = true := rfl
    rw [Predicate.truth_equality _ _ _ h, hcell, Relation.truth, equalTruth_of_cell hv h,
      Truth.not_beq_yes_of_gap, hasks, Bool.and_true]

theorem exists_readings_order (o : Comparison) (h : kind.Stores w) (hv : kind.Cell v) :
    ∃ met, Readings ⟨field, o.operator, w⟩ v met := by
  obtain ⟨met, hcompare, htruth⟩ := exists_compare_and_orderTruth o hv h
  refine ⟨met, (Memory.holds_operator o v w).trans hcompare, ?_⟩
  rintro column p row hp hcell
  have hasks : asksDifference ⟨field, o.operator, w⟩ = false := by cases o <;> rfl
  rw [Predicate.of_order, Predicate.ordering] at hp
  split at hp
  · -- A yes or no has no order in a database, so no predicate is made of it.
    exact absurd hp (by simp)
  · obtain rfl := Except.ok.inj hp
    rw [hasks, Bool.and_false, Bool.not_false, Bool.and_true, ← htruth, ← hcell,
      ← Predicate.truth_relationOf]
    rfl

/-- The predicate of a choice has the truth of its values, or the opposite.  The values are bound as
one list. -/
theorem predicate_of_choice {op : Operator} {relation : Relation} {column : Column}
    {p : Predicate} (hop : op = .among ∧ relation = .among ∨ op = .notAmong ∧ relation = .notAmong)
    (hcollection : w.isCollection = true) (helements : w.elements? = some items)
    (hp : Predicate.of field op column w = .ok p) :
    p = ⟨relation, .column column, .bind (.list items)⟩ := by
  have hchoices := Predicate.choices_of_elements? hcollection helements
  rcases hop with ⟨rfl, rfl⟩ | ⟨rfl, rfl⟩ <;>
  · simp only [Predicate.of, hchoices] at hp
    exact (Except.ok.inj hp).symm

theorem readings_among (hcollection : w.isCollection = true) (helements : w.elements? = some items)
    (h : ∀ x ∈ items, kind.Stores x) (hv : kind.Cell v) :
    Readings ⟨field, .among, w⟩ v (items.any v.equals) where
  memory := by
    show Memory.lift (w.holds? v) = _
    rw [Value.holds?_of_elements? hcollection helements h hv]
    rfl
  database := by
    rintro column p row hp hcell
    obtain rfl := predicate_of_choice (.inl ⟨rfl, rfl⟩) hcollection helements hp
    have htruth : Predicate.truth ⟨.among, .column column, .bind (.list items)⟩ row
        = amongTruth v items := by rw [← hcell]; rfl
    have hasks : asksDifference ⟨field, .among, w⟩ = false := rfl
    rw [htruth, amongTruth_of_cell hv h, Truth.beq_yes_of_gap, hasks, Bool.and_false]
    -- No value is equal to an empty cell, so the gap takes nothing away.
    rcases hv with rfl | hv
    · rw [Value.any_equals_null h]
      rfl
    · rw [Target.isNull_of_stores hv]
      rfl

theorem readings_notAmong (hcollection : w.isCollection = true)
    (helements : w.elements? = some items) (h : ∀ x ∈ items, kind.Stores x) (hv : kind.Cell v) :
    Readings ⟨field, .notAmong, w⟩ v (!items.any v.equals) where
  memory := by
    simp only [Memory.holds, Value.holds?_of_elements? hcollection helements h hv]
    rfl
  database := by
    rintro column p row hp hcell
    obtain rfl := predicate_of_choice (.inr ⟨rfl, rfl⟩) hcollection helements hp
    have htruth : Predicate.truth ⟨.notAmong, .column column, .bind (.list items)⟩ row
        = (amongTruth v items).not := by rw [← hcell]; rfl
    -- Without any value there is nothing to be different from.
    have hasks : asksDifference ⟨field, .notAmong, w⟩ = !items.isEmpty := by
      simp [asksDifference, helements]
    rw [htruth, amongTruth_of_cell hv h, Truth.not_beq_yes_of_gap, hasks]

theorem readings_isNull (v w : Value) :
    Readings ⟨field, .isNull, w⟩ v (v.isNull == w.isTrue) where
  memory := rfl
  database := by
    rintro column p row hp hcell
    obtain rfl := Except.ok.inj hp
    have hasks : asksDifference ⟨field, .isNull, w⟩ = false := rfl
    have htruth : isTruth v .null = .ofBool v.isNull := by
      rw [isTruth, if_pos (by simp [Value.isNull])]
      simp [Value.isNull]
    rw [hasks, Bool.and_false, Bool.not_false, Bool.and_true, Predicate.truth, hcell]
    -- Whether cells are to be empty or not, an empty cell has a known answer.
    cases w.isTrue <;>
      simp [Relation.truth, Operand.value, htruth, Truth.not_ofBool, Truth.ofBool_beq_yes]

/-- **One condition of one cell.**  Whether it is met in memory is defined, and it is true in a
database exactly if it is met and is not one that asks an empty cell for a difference.  Each way to
suit a column has its lemma above. -/
theorem readings_of_suits (hsuits : Suits kind c.operator c.value) (hv : kind.Cell v) :
    Readings c v (c.metBy v) := by
  suffices h : ∃ met, Readings c v met by
    obtain ⟨met, hreadings⟩ := h
    rw [metBy_of_holds hreadings.memory]
    exact hreadings
  obtain ⟨field, op, w⟩ := c
  dsimp only at hsuits
  -- One lemma for each of the six shapes.
  cases hsuits with
  | eq h => exact ⟨_, readings_eq h hv⟩
  | neq h => exact ⟨_, readings_neq h hv⟩
  | order o hop h => exact hop ▸ exists_readings_order o h hv
  | among hcollection helements h => exact ⟨_, readings_among hcollection helements h hv⟩
  | notAmong hcollection helements h => exact ⟨_, readings_notAmong hcollection helements h hv⟩
  | isNull w => exact ⟨_, readings_isNull v w⟩

end Condition

end UrlFilter
