import UrlFilter.Proofs.Value.Stored

namespace UrlFilter

open UrlFilter.Number UrlFilter.Calendar

/-!
# One order behind all comparisons

The four questions about the order of two single values, and the question whether they are equal,
have one order for their answer, if they have an answer at all.

* `Comparison.operator` — the operator that asks for an order.
* `Value.isSingle` — the values that hold no other values and are not absent.
* `Value.Unordered`, `Value.MeetsNan` — the two reasons why values cannot be compared.
* `Value.stands_of_isSingle` — how a single value stands to any other value.
* `Value.unordered_of_not_isSingle` — what holds other values has no order to a single value.
-/

/-- The operator that asks for an order.  The two operators of equality ask for none. -/
def Comparison.operator : Comparison → Operator
  | .below => .lt
  | .atMost => .lte
  | .above => .gt
  | .atLeast => .gte

/-- A number cannot be compared exactly if one of the two is a NaN.  Infinities can be compared with
all other numbers. -/
theorem Number.Decimal.compare?_eq_none_iff {x y : Decimal} :
    x.compare? y = none ↔ (x.isNan || y.isNan) = true := by
  -- Without a NaN there is an order; with one there is none.
  constructor
  · intro h
    by_contra hnan
    obtain ⟨hx, hy⟩ := Bool.or_eq_false_iff.1 (Bool.not_eq_true _ ▸ hnan)
    obtain ⟨o, ho⟩ := exists_compare? hx hy
    rw [h] at ho
    exact absurd ho (by simp)
  · intro h
    cases x <;> cases y <;> first | rfl | exact absurd h Bool.false_ne_true

/-- What an order calls equal is equal.  So equality and order give the same answer. -/
theorem beq_eq_beq_some {α : Type} [BEq α] [LawfulBEq α] {a b : α} {o : Ordering}
    (h : o = .eq ↔ a = b) : (a == b) = (some o == some Ordering.eq) := by
  rw [Bool.eq_iff_iff, beq_iff_eq, beq_iff_eq, Option.some.injEq, h]

/-- Dates stand at the same place of the calendar if they are the same.  There is only one way to
write a day. -/
theorem Calendar.Date.compare_eq_iff {d e : Date} : d.compare e = .eq ↔ d = e := by
  rw [Date.compare, Ordering.then_eq_eq, Ordering.then_eq_eq, Std.compare_eq_iff_eq,
    Std.compare_eq_iff_eq, Std.compare_eq_iff_eq]
  cases d
  cases e
  simp [and_assoc]

/-- An identifier is its number.  So identifiers are ordered as numbers. -/
theorem Uuid.value_inj {u u' : Uuid} : u.value = u'.value ↔ u = u' := by
  cases u
  cases u'
  simp

namespace Value

/-- The value holds no other values and is not absent.  Operators count as single values, since they
are texts. -/
def isSingle : Value → Bool
  | bool _ | int _ | binary _ | decimal _ | text _ | keyword _ | date _ | dateTime _ | uuid _ =>
    true
  | _ => false

theorem isNull_of_isSingle {v : Value} (h : v.isSingle = true) : v.isNull = false := by
  cases v <;> first | rfl | exact absurd h Bool.false_ne_true

/-- The kinds of two values have no order.  The error is the same for all four questions. -/
def Unordered (v w : Value) : Prop :=
  ∀ c : Comparison, v.compare? c w = .error .kindMismatch

/-- One of two numbers is a decimal number, and one of them is a NaN.  Two binary numbers have an
answer even then, namely no. -/
def MeetsNan (v w : Value) : Prop :=
  ∃ x y, v.number? = some x ∧ w.number? = some y ∧ (v.isDecimal || w.isDecimal) = true ∧
    (x.isNan || y.isNan) = true

/-- One order answers all questions about two values; a binary NaN is in none with any number.
Equality is answered by the same order. -/
def OrderedBy (v w : Value) (o : Option Ordering) : Prop :=
  (∀ c : Comparison, v.compare? c w = .ok (o.any c.holds)) ∧ v.equal? w = .ok (o == some .eq)

/-- How two values can stand to each other: an order answers all questions about them, or their
kinds have no order and they are not equal, or a NaN meets a decimal number and refuses an answer.
The three exclude each other. -/
inductive Stands (v w : Value) : Prop
  | ordered (o : Option Ordering) (h : v.OrderedBy w o)
  | unordered (h : v.Unordered w) (hequal : v.equal? w = .ok false)
  | nan (h : v.MeetsNan w)

variable {v w : Value}

theorem OrderedBy.not_unordered {o : Option Ordering} (h : v.OrderedBy w o) : ¬ v.Unordered w := by
  intro hunordered
  have hbelow := h.1 .below
  rw [hunordered .below] at hbelow
  exact absurd hbelow (by simp)

/-! ### Two numbers -/

/-- A number that is not decimal is no signaling NaN.  Integers and binary numbers are turned into
decimal ones before they are compared. -/
theorem isSignaling_of_isDecimal_eq_false {x : Decimal} (hx : v.number? = some x)
    (hdecimal : v.isDecimal = false) : x.isSignaling = false := by
  cases v with
  | bool b => cases hx; rfl
  | int n => cases hx; rfl
  | binary z => cases hx; exact Binary.isSignaling_toDecimal z
  | decimal z => exact absurd hdecimal (by simp [isDecimal])
  | _ => exact absurd hx (by simp [number?])

theorem compare?_of_meetsNan (h : v.MeetsNan w) (c : Comparison) :
    v.compare? c w = .error .undefinedComparison := by
  obtain ⟨x, y, hx, hy, hdecimal, hnan⟩ := h
  rw [compare?_of_number? c hx hy, compareNumbers?, Decimal.compare?_eq_none_iff.2 hnan, hdecimal]
  rfl

theorem MeetsNan.not_unordered (h : v.MeetsNan w) : ¬ v.Unordered w := by
  intro hunordered
  have hbelow := compare?_of_meetsNan h .below
  rw [hunordered .below] at hbelow
  exact absurd hbelow (by simp)

theorem OrderedBy.not_meetsNan {o : Option Ordering} (h : v.OrderedBy w o) : ¬ v.MeetsNan w := by
  intro hnan
  have hbelow := h.1 .below
  rw [compare?_of_meetsNan hnan] at hbelow
  exact absurd hbelow (by simp)

/-- **Two numbers are ordered by value,** unless a NaN meets a decimal number.  Their kinds need not
be the same. -/
theorem orderedBy_of_number? {x y : Decimal} (hx : v.number? = some x) (hy : w.number? = some y)
    (h : ¬ v.MeetsNan w) : v.OrderedBy w (x.compare? y) := by
  -- Without an order one of the two is a NaN, and then neither is a decimal number.
  cases hcompare : x.compare? y with
  | some o =>
    have hnan : (x.isNan || y.isNan) = false := by
      rw [← Bool.not_eq_true, ← Decimal.compare?_eq_none_iff, hcompare]
      exact Option.some_ne_none o
    obtain ⟨hx', hy'⟩ := Bool.or_eq_false_iff.1 hnan
    refine ⟨fun c => ?_, ?_⟩
    · rw [compare?_of_number? c hx hy, compareNumbers?, hcompare]
      rfl
    · rw [equal?_of_number? hx hy, equalNumbers?, Decimal.isSignaling_of_isNan hx',
        Decimal.isSignaling_of_isNan hy', hcompare]
      rfl
  | none =>
    have hbinary : (v.isDecimal || w.isDecimal) = false := by
      rw [← Bool.not_eq_true]
      exact fun hdecimal =>
        h ⟨x, y, hx, hy, hdecimal, Decimal.compare?_eq_none_iff.1 hcompare⟩
    obtain ⟨hv, hw⟩ := Bool.or_eq_false_iff.1 hbinary
    refine ⟨fun c => ?_, ?_⟩
    · rw [compare?_of_number? c hx hy, compareNumbers?, hcompare, hbinary]
      rfl
    · rw [equal?_of_number? hx hy, equalNumbers?, isSignaling_of_isDecimal_eq_false hx hv,
        isSignaling_of_isDecimal_eq_false hy hw, hcompare]
      rfl

/-! ### Two single values -/

/-- A number is ordered with numbers only.  A yes or no counts as a number. -/
theorem stands_of_number? {x : Decimal} (hx : v.number? = some x) (w : Value) : v.Stands w := by
  cases hy : w.number? with
  | some y =>
    by_cases hnan : v.MeetsNan w
    · exact .nan hnan
    · exact .ordered _ (orderedBy_of_number? hx hy hnan)
  | none => cases v <;> cases hx <;> cases w <;> cases hy <;> exact .unordered (fun _ => rfl) rfl

/-- A text is ordered with texts only.  They are ordered by their characters. -/
theorem stands_of_asText? {s : String} (hs : v.asText? = some s) (w : Value) : v.Stands w := by
  cases ht : w.asText? with
  | some t =>
    have hequal : (s == t) = (some (compare s t) == some Ordering.eq) :=
      beq_eq_beq_some Std.compare_eq_iff_eq
    cases v <;> cases hs <;> cases w <;> cases ht <;>
      exact .ordered (some (compare _ _)) ⟨fun _ => rfl, congrArg Except.ok hequal⟩
  | none => cases v <;> cases hs <;> cases w <;> cases ht <;> exact .unordered (fun _ => rfl) rfl

/-- Moments are ordered if both or neither of their offsets are known.  If only one of them is
known, the moments have no order and are not equal. -/
theorem stands_dateTime (s t : DateTime) : (dateTime s).Stands (dateTime t) := by
  have hequal : (dateTime s).equal? (dateTime t) = .ok (s.compare? t == some .eq) := rfl
  cases horder : s.compare? t with
  | some o =>
    rw [horder] at hequal
    exact .ordered (some o) ⟨fun c => by simp [compare?, compareAtoms?, number?, horder], hequal⟩
  | none =>
    rw [horder] at hequal
    exact .unordered (fun c => by simp [compare?, compareAtoms?, number?, horder]) hequal

/-- **How a single value stands to any other value.**  The other value may hold others. -/
theorem stands_of_isSingle (hv : v.isSingle = true) (w : Value) : v.Stands w := by
  -- Numbers and texts are treated together; days, moments and identifiers have an order of their
  -- own.
  cases v with
  | bool b => exact stands_of_number? rfl w
  | int n => exact stands_of_number? rfl w
  | binary x => exact stands_of_number? rfl w
  | decimal x => exact stands_of_number? rfl w
  | text s => exact stands_of_asText? rfl w
  | keyword op => exact stands_of_asText? rfl w
  | date d =>
    cases w with
    | date e =>
      have hequal := beq_eq_beq_some (Date.compare_eq_iff (d := d) (e := e))
      exact .ordered (some (d.compare e)) ⟨fun _ => rfl, congrArg Except.ok hequal⟩
    | _ => exact .unordered (fun _ => rfl) rfl
  | dateTime s =>
    cases w with
    | dateTime t => exact stands_dateTime s t
    | _ => exact .unordered (fun _ => rfl) rfl
  | uuid u =>
    cases w with
    | uuid u' =>
      have hequal : (u == u') = (some (compare u.value u'.value) == some Ordering.eq) :=
        beq_eq_beq_some (Std.compare_eq_iff_eq.trans Uuid.value_inj)
      exact .ordered (some (compare u.value u'.value)) ⟨fun _ => rfl, congrArg Except.ok hequal⟩
    | _ => exact .unordered (fun _ => rfl) rfl
  | _ => exact absurd hv Bool.false_ne_true

/-- A single value is not equal to what it has no order to.  So equality never casts. -/
theorem equal?_of_unordered (hv : v.isSingle = true) (h : v.Unordered w) :
    v.equal? w = .ok false := by
  cases stands_of_isSingle hv w with
  | ordered o ho => exact absurd h ho.not_unordered
  | unordered _ hequal => exact hequal
  | nan hnan => exact absurd h hnan.not_unordered

/-- What holds other values has no order to a single value.  Lists are ordered with lists only. -/
theorem unordered_of_not_isSingle (hv : v.isSingle = false) (hw : w.isSingle = true) :
    v.Unordered w := by
  cases v with
  | null => cases w <;> exact fun _ => rfl
  | list => cases w <;> first | exact fun _ => rfl | exact absurd hw Bool.false_ne_true
  | tuple => cases w <;> first | exact fun _ => rfl | exact absurd hw Bool.false_ne_true
  | range => cases w <;> first | exact fun _ => rfl | exact absurd hw Bool.false_ne_true
  | set => cases w <;> first | exact fun _ => rfl | exact absurd hw Bool.false_ne_true
  | map => exact fun _ => rfl
  | object => exact fun _ => rfl
  | _ => exact absurd hv.symm Bool.false_ne_true

end Value

end UrlFilter
