import UrlFilter.Proofs.Fallible
import UrlFilter.Value.Cast
import UrlFilter.Value.Membership
import UrlFilter.Value.Order

namespace UrlFilter

open UrlFilter.Number UrlFilter.Calendar

/-!
# Values of one kind

Two values that a column of some kind holds can always be compared, and for equality it does not
matter which of them comes first.

* `Target.Stores` — the values that a column of a kind holds.
* `Target.exists_equal?` — two of them are equal or not.
* `Target.exists_compare?` — two of them are in an order or not.
* `Target.Cell` — what a cell of a column holds, which may be nothing.
* `Value.holds?_of_elements?` — a cell is in a collection of values or not.
-/

/-! ### Numbers and moments -/

namespace Number.Decimal

theorem compareMagnitude_swap (c₁ : Nat) (e₁ : Int) (c₂ : Nat) (e₂ : Int) :
    (compareMagnitude c₁ e₁ c₂ e₂).swap = compareMagnitude c₂ e₂ c₁ e₁ := by
  unfold compareMagnitude
  by_cases hzero : c₁ = 0 ∨ c₂ = 0
  · rw [if_pos hzero, if_pos (Or.comm.1 hzero), Nat.compare_swap]
  rw [if_neg hzero, if_neg fun h => hzero (Or.comm.1 h)]
  -- Whichever number has its first digit further left, both comparisons find it.
  rcases Int.lt_trichotomy (e₁ + digitCount c₁) (e₂ + digitCount c₂) with h | h | h
  · simp [h, Int.not_lt.2 (Int.le_of_lt h)]
  · simp [h, Nat.compare_swap]
  · simp [h, Int.not_lt.2 (Int.le_of_lt h)]

/-- Numbers in the opposite order compare the other way.  A NaN has no order on either side. -/
theorem compare?_swap (x y : Decimal) : (x.compare? y).map Ordering.swap = y.compare? x := by
  -- The sign of each number is looked at before its magnitude.
  cases x with
  | nan => cases y <;> rfl
  | infinite n₁ =>
    cases y with
    | nan => rfl
    | infinite n₂ => cases n₁ <;> cases n₂ <;> rfl
    | finite => cases n₁ <;> rfl
  | finite n₁ c₁ e₁ =>
    cases y with
    | nan => rfl
    | infinite n₂ => cases n₂ <;> rfl
    | finite n₂ c₂ e₂ =>
      rw [compare?, compare?]
      by_cases hzero : c₁ = 0 ∧ c₂ = 0
      · rw [if_pos hzero, if_pos (And.comm.1 hzero)]
        rfl
      · rw [if_neg hzero, if_neg fun h => hzero (And.comm.1 h), Option.map_some,
          ← compareMagnitude_swap c₁]
        cases n₁ && c₁ != 0 <;> cases n₂ && c₂ != 0 <;> simp [compareSigned]

/-- Two numbers have an order if neither is a NaN.  Infinities take part. -/
theorem exists_compare? {x y : Decimal} (hx : x.isNan = false) (hy : y.isNan = false) :
    ∃ o, x.compare? y = some o := by
  cases x with
  | nan => exact absurd hx (by simp [isNan])
  | infinite n₁ =>
    cases y with
    | nan => exact absurd hy (by simp [isNan])
    | _ => exact ⟨_, rfl⟩
  | finite n₁ c₁ e₁ =>
    cases y with
    | nan => exact absurd hy (by simp [isNan])
    | infinite => exact ⟨_, rfl⟩
    | finite =>
      rw [compare?]
      split <;> exact ⟨_, rfl⟩

theorem isSignaling_of_isNan {x : Decimal} (h : x.isNan = false) : x.isSignaling = false := by
  cases x with
  | nan => exact absurd h (by simp [isNan])
  | _ => rfl

end Number.Decimal

theorem Number.Binary.isSignaling_toDecimal (x : Binary) : x.toDecimal.isSignaling = false := by
  unfold toDecimal
  split
  · split <;> rfl
  · rfl
  · rfl

/-- Two moments without offsets compare as their local times.  This is how a column without offsets
compares them. -/
theorem Calendar.DateTime.compare?_of_local {s t : DateTime} (hs : s.offset = none)
    (ht : t.offset = none) : s.compare? t = some (compare s.localTime t.localTime) := by
  rw [compare?, hs, ht]

namespace Value

theorem equalNumbers?_comm (x y : Decimal) : equalNumbers? x y = equalNumbers? y x := by
  rw [equalNumbers?, equalNumbers?, Bool.or_comm, ← Decimal.compare?_swap x y]
  cases x.compare? y with
  | none => rfl
  | some o => cases o <;> rfl

variable {v w : Value} {x y : Decimal}

theorem equal?_of_number? (hx : v.number? = some x) (hy : w.number? = some y) :
    v.equal? w = equalNumbers? x y := by
  have hatoms : v.equal? w = equalAtoms? v w := by
    cases v <;> first | rfl | simp [number?] at hx
  rw [hatoms]
  unfold equalAtoms?
  simp only [hx, hy]

theorem compare?_of_number? (c : Comparison) (hx : v.number? = some x) (hy : w.number? = some y) :
    v.compare? c w = compareNumbers? c (v.isDecimal || w.isDecimal) x y := by
  have hatoms : v.compare? c w = compareAtoms? c v w := by
    cases v <;> first | rfl | simp [number?] at hx
  rw [hatoms]
  unfold compareAtoms?
  simp only [hx, hy]

/-- Numbers are equal or not, whichever comes first, if neither is a signaling NaN.  A signaling NaN
refuses to be compared at all. -/
theorem exists_equal?_of_number? (hx : v.number? = some x) (hy : w.number? = some y)
    (hx' : x.isSignaling = false) (hy' : y.isSignaling = false) :
    ∃ b, v.equal? w = .ok b ∧ w.equal? v = .ok b := by
  rw [equal?_of_number? hx hy, equal?_of_number? hy hx, equalNumbers?_comm y x]
  simp [equalNumbers?, hx', hy']

/-- Numbers are in an order or not, if neither is a NaN that is compared with a decimal number.  A
binary NaN is simply in no order. -/
theorem exists_compare?_of_number? (c : Comparison) (hx : v.number? = some x)
    (hy : w.number? = some y)
    (hnan : (v.isDecimal || w.isDecimal) = false ∨ x.isNan = false ∧ y.isNan = false) :
    ∃ b, v.compare? c w = .ok b := by
  rw [compare?_of_number? c hx hy, compareNumbers?]
  rcases hnan with hbinary | ⟨hx', hy'⟩
  · rw [hbinary]
    cases x.compare? y <;> exact ⟨_, rfl⟩
  · obtain ⟨o, ho⟩ := Decimal.exists_compare? hx' hy'
    exact ⟨c.holds o, by rw [ho]⟩

end Value

/-! ### Values that columns hold -/

namespace Target

/-- A column of the kind holds the value.  A decimal number is no NaN there, and a moment has no
offset.  A column holds values of its own kind only, so nothing is cast. -/
inductive Stores : Target → Value → Prop where
  | int (n : Int) : Stores int (.int n)
  | bool (b : Bool) : Stores bool (.bool b)
  | float (x : Binary) : Stores float (.binary x)
  | decimal {x : Decimal} (h : x.isNan = false) : Stores decimal (.decimal x)
  | text (s : String) : Stores text (.text s)
  | date (d : Date) : Stores date (.date d)
  | dateTime {t : DateTime} (h : t.offset = none) : Stores dateTime (.dateTime t)
  | uuid (u : Uuid) : Stores uuid (.uuid u)

variable {kind : Target} {v w : Value}

theorem isNull_of_stores (h : kind.Stores v) : v.isNull = false := by
  cases h <;> rfl

theorem isHashable_of_stores (h : kind.Stores v) : v.isHashable = true := by
  cases h with
  | decimal h => simp [Value.isHashable, Decimal.isSignaling_of_isNan h]
  | _ => rfl

/-- **Two values of a column are equal or not,** whichever comes first.  So no error can come of a
column and its values. -/
theorem exists_equal? (hv : kind.Stores v) (hw : kind.Stores w) :
    ∃ b, v.equal? w = .ok b ∧ w.equal? v = .ok b := by
  cases hv with
  | int n => cases hw; exact Value.exists_equal?_of_number? rfl rfl rfl rfl
  | bool b => cases hw; exact Value.exists_equal?_of_number? rfl rfl rfl rfl
  | float x =>
    cases hw
    exact Value.exists_equal?_of_number? rfl rfl (Binary.isSignaling_toDecimal _)
      (Binary.isSignaling_toDecimal _)
  | decimal hx =>
    cases hw with
    | decimal hy =>
      exact Value.exists_equal?_of_number? rfl rfl (Decimal.isSignaling_of_isNan hx)
        (Decimal.isSignaling_of_isNan hy)
  | text s =>
    cases hw with
    | text t => exact ⟨s == t, rfl, congrArg Except.ok BEq.comm⟩
  | date d =>
    cases hw with
    | date e => exact ⟨d == e, rfl, congrArg Except.ok BEq.comm⟩
  | @dateTime s hs =>
    cases hw with
    | @dateTime t ht =>
      refine ⟨s.compare? t == some .eq, rfl, congrArg Except.ok ?_⟩
      rw [DateTime.compare?_of_local hs ht, DateTime.compare?_of_local ht hs, ← Int.compare_swap]
      cases compare s.localTime t.localTime <;> rfl
  | uuid u =>
    cases hw with
    | uuid u' => exact ⟨u == u', rfl, congrArg Except.ok BEq.comm⟩

/-- **Two values of a column are in an order or not.**  All four questions have an answer. -/
theorem exists_compare? (c : Comparison) (hv : kind.Stores v) (hw : kind.Stores w) :
    ∃ b, v.compare? c w = .ok b := by
  cases hv with
  | int n => cases hw; exact Value.exists_compare?_of_number? c rfl rfl (.inl rfl)
  | bool b => cases hw; exact Value.exists_compare?_of_number? c rfl rfl (.inl rfl)
  | float x => cases hw; exact Value.exists_compare?_of_number? c rfl rfl (.inl rfl)
  | decimal hx =>
    cases hw with
    | decimal hy => exact Value.exists_compare?_of_number? c rfl rfl (.inr ⟨hx, hy⟩)
  | text s => cases hw; exact ⟨_, rfl⟩
  | date d => cases hw; exact ⟨_, rfl⟩
  | @dateTime s hs =>
    cases hw with
    | @dateTime t ht =>
      refine ⟨c.holds (compare s.localTime t.localTime), ?_⟩
      simp [Value.compare?, Value.compareAtoms?, Value.number?, DateTime.compare?_of_local hs ht]
  | uuid u => cases hw; exact ⟨_, rfl⟩

/-! ### Cells -/

/-- What a cell of a column of the kind holds: a value or nothing.  An empty cell holds the absent
value. -/
def Cell (kind : Target) (v : Value) : Prop :=
  v = .null ∨ kind.Stores v

end Target

namespace Value

variable {kind : Target} {v w : Value} {items : List Value}

/-- The values are equal, as far as equality is defined.  An error counts as not equal; cells and
values of one column have none. -/
def equals (v w : Value) : Bool :=
  (v.equal? w).toOption.getD false

/-- The equality of a cell and a value is defined, whichever comes first.  The cell may be empty. -/
theorem equal?_eq_equals (hv : kind.Cell v) (hw : kind.Stores w) :
    v.equal? w = .ok (v.equals w) ∧ w.equal? v = .ok (v.equals w) := by
  rcases hv with rfl | hv
  · cases hw <;> exact ⟨rfl, rfl⟩
  · obtain ⟨b, hvw, hwv⟩ := Target.exists_equal? hv hw
    have hequals : v.equals w = b := by rw [equals, hvw]; rfl
    exact ⟨by rw [hvw, hequals], by rw [hwv, hequals]⟩

/-- An empty cell is equal to no value.  This is so on either side. -/
theorem equals_null (hw : kind.Stores w) : null.equals w = false := by
  cases hw <;> rfl

/-- An empty cell is not among the values of a column.  There may be no values at all. -/
theorem any_equals_null (h : ∀ w ∈ items, kind.Stores w) :
    items.any null.equals = false := by
  rw [List.any_eq_false]
  intro w hw
  rw [equals_null (h w hw)]
  exact Bool.false_ne_true

/-- **Whether a cell is in a collection of values of its column is defined.**  A set asks for a
value that can be hashed, which all of them can. -/
theorem holds?_of_elements? {container : Value} (hcollection : container.isCollection = true)
    (helements : container.elements? = some items) (hitems : ∀ w ∈ items, kind.Stores w)
    (hv : kind.Cell v) : container.holds? v = .ok (items.any v.equals) := by
  have hany : items.anyM (equal? · v) = .ok (items.any v.equals) :=
    anyM_eq_ok fun w hw => (equal?_eq_equals hv (hitems w hw)).2
  have hhashable : v.isHashable = true := by
    rcases hv with rfl | hv
    · rfl
    · exact Target.isHashable_of_stores hv
  -- The kinds of collections differ only in how their elements are found.
  cases container with
  | list others => cases helements; exact hany
  | tuple others => cases helements; exact hany
  | range lower upper => cases helements; exact hany
  | set others => cases helements; rwa [holds?, if_pos hhashable]
  | _ => exact absurd hcollection Bool.false_ne_true

end Value

end UrlFilter
