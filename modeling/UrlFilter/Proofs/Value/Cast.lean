import UrlFilter.Proofs.Calendar.IsoText
import UrlFilter.Proofs.Number.Decimal
import UrlFilter.Proofs.Uuid
import UrlFilter.Proofs.Wire.Expression
import UrlFilter.Value.Cast
import UrlFilter.Value.Equality

namespace UrlFilter

open UrlFilter.Text UrlFilter.Number UrlFilter.Calendar

/-!
# Casts of written values

A value of a kind is written as a text, and the cast of the text to the kind gives the value again,
or an equal one.

* `Target.Typed` — the values of a kind that have a text of their own.
* `Value.spelled`, `Value.regained` — the text of a value, and the value that its cast gives.
* `Target.cast_typed`, `Target.cast_spelled` — what the casts of a value and of its text give.
* `Target.equal?_regained` — both are equal.
-/

/-! ### Values of a kind -/

namespace Target

/-- A single value of a kind: an integer of limited length, a yes or no, a text, a finite decimal
number, a date, a date and time whose offset is not less than a second, or an identifier.  Binary
numbers are left out, as their texts are not those that are read here. -/
inductive Typed : Target → Value → Prop where
  | int {n : Int} (h : (Nat.toDigits 10 n.natAbs).length ≤ maxIntegerDigits) : Typed int (.int n)
  | bool (b : Bool) : Typed bool (.bool b)
  | text (s : String) : Typed text (.text s)
  | decimal {x : Decimal} (h : x.Finite) : Typed decimal (.decimal x)
  | date (d : Date) : Typed date (.date d)
  | dateTime {t : DateTime} (h : t.OffsetInSeconds) : Typed dateTime (.dateTime t)
  | uuid (u : Uuid) : Typed uuid (.uuid u)

/-- A value of a kind, or a list of them.  A list may be empty. -/
def TypedAll (target : Target) (v : Value) : Prop :=
  target.Typed v ∨ ∃ items, v = .list items ∧ ∀ x ∈ items, target.Typed x

/-- A value that has a kind, or a list of them.  Its text need not be the usual one. -/
def HasKind (target : Target) (v : Value) : Prop :=
  ofValue v = target ∨ ∃ items, v = .list items ∧ ∀ x ∈ items, ofValue x = target

end Target

namespace Value

/-- The text of a single value.  This is what stands in a URL for it. -/
def spelledAtom (v : Value) : Value :=
  .text (String.ofList (Wire.scalar v))

/-- The text of a value, or the texts of the items of a list.  Lists in lists have no texts of their
own. -/
def spelled : Value → Value
  | list items => .list (items.map spelledAtom)
  | v => v.spelledAtom

/-- The single value that the cast of its text gives: a decimal number has its zeros written out.
All other values come back as they are. -/
def regainedAtom : Value → Value
  | decimal x => .decimal x.positional
  | v => v

/-- The value that the cast of its text gives.  The items of a list come back one by one. -/
def regained : Value → Value
  | list items => .list (items.map regainedAtom)
  | v => v.regainedAtom

end Value

namespace Target

variable {target : Target}

/-! ### Single values -/

theorem ofValue_of_typed {x : Value} (h : target.Typed x) : ofValue x = target := by
  cases h <;> rfl

theorem ofValue_regainedAtom {x : Value} (h : target.Typed x) :
    ofValue x.regainedAtom = target := by
  cases h <;> rfl

/-- A value of a kind is cast to itself.  Only a decimal number goes through its text, with its
exponent. -/
theorem castLone_typed {x : Value} (h : target.Typed x) : target.castLone x = .ok x := by
  cases h with
  | @decimal x h =>
    cases x with
    | finite negative coefficient exponent =>
      rw [castLone, castAtom?, trimmedText?_decimal, Option.bind_some, Decimal.read?_trim,
        Decimal.read?_scientific negative h]
      rfl
    | _ => exact absurd h id
  | _ => rfl

theorem trimmedText?_ofList (cs : List Char) :
    trimmedText? (.text (String.ofList cs)) = some (trim cs) := by
  rw [trimmedText?_text, String.toList_ofList]

/-- The text of a date and time is cast to what it denotes, whatever the offset is.  An offset of
less than a second is read as zero. -/
theorem castAtom?_spelledAtom_dateTime (t : DateTime) :
    dateTime.castAtom? (Value.dateTime t).spelledAtom
      = some (.dateTime { t with offset := t.offset.map UtcOffset.asRead }) := by
  simp only [Value.spelledAtom, Wire.scalar, castAtom?, toDateTime?, trimmedText?_ofList,
    Option.bind_some, trim_of_graphic t.isoChars_text.graphic, DateTime.read?_text, Option.map_some]

/-- **The text of a value of a kind is cast to the value,** but that a decimal number has its zeros
written out.  Blanks cannot matter, as none of these texts but those of texts holds any. -/
theorem castAtom?_spelledAtom {x : Value} (h : target.Typed x) :
    target.castAtom? x.spelledAtom = some x.regainedAtom := by
  -- Each kind has a reader that undoes its writer.
  cases h with
  | @int n h =>
    have hscalar : Wire.scalar (.int n) = Integer.text n := String.toList_ofList
    simp only [Value.spelledAtom, castAtom?, toInt?, trimmedText?_ofList, hscalar, Option.bind_some,
      Integer.read?_trim, Integer.read?_text h, Option.map_some, Value.regainedAtom]
  | bool b => cases b <;> rfl
  | text s =>
    rw [Value.spelledAtom, Wire.scalar_text, String.ofList_toList]
    rfl
  | @decimal x h =>
    cases x with
    | finite negative coefficient exponent =>
      rw [Value.spelledAtom, Wire.scalar, castAtom?, trimmedText?_ofList, Option.bind_some,
        Decimal.read?_trim, Decimal.read?_plain negative h]
      rfl
    | _ => exact absurd h id
  | date d =>
    simp only [Value.spelledAtom, Wire.scalar, castAtom?, toDate?, trimmedText?_ofList,
      Option.bind_some, trim_of_graphic (isoChars_dateText d).graphic, Date.read?_text,
      Option.map_some, Value.regainedAtom]
  | @dateTime t h =>
    rw [castAtom?_spelledAtom_dateTime, h.map_asRead]
    rfl
  | uuid u =>
    have hscalar : Wire.scalar (.uuid u) = u.text := String.toList_ofList
    simp only [Value.spelledAtom, castAtom?, toUuid?, trimmedText?_ofList, hscalar,
      Option.bind_some, trim_of_graphic u.graphic_text, Uuid.read?_text, Option.map_some,
      Value.regainedAtom]

/-- **A value of a kind is equal to what the cast of its text gives.**  Equality looks at what a
number denotes. -/
theorem equal?_regainedAtom {x : Value} (h : target.Typed x) :
    x.regainedAtom.equal? x = .ok true := by
  cases h with
  | @int n h =>
    show Value.equalNumbers? (.ofInt n) (.ofInt n) = _
    rw [Value.equalNumbers?, Decimal.ofInt, Decimal.compare?_finite_self]
    rfl
  | bool b => cases b <;> rfl
  | text s =>
    show Except.ok (s == s) = _
    rw [beq_self_eq_true]
  | @decimal x h =>
    obtain ⟨hsignaling, hsignaling'⟩ := Decimal.isSignaling_of_finite h
    show Value.equalNumbers? x.positional x = _
    rw [Value.equalNumbers?, hsignaling, hsignaling', Decimal.compare?_positional h]
    rfl
  | date d =>
    show Except.ok (d == d) = _
    rw [beq_self_eq_true]
  | @dateTime t h =>
    show Except.ok (t.compare? t == some .eq) = _
    rw [DateTime.compare?_self, beq_self_eq_true]
  | uuid u =>
    show Except.ok (u == u) = _
    rw [beq_self_eq_true]

/-- A value of a kind is neither absent nor a list.  So its cast never looks for items. -/
theorem cast_eq_castLone {x : Value} (h : target.Typed x) : target.cast x = target.castLone x := by
  cases h <;> rfl

/-! ### Lists -/

/-- A list is cast item by item.  The first item that cannot be cast would be the error. -/
theorem castItems_map {items : List Value} {f g : Value → Value}
    (h : ∀ x ∈ items, target.cast (f x) = .ok (g x)) :
    target.castItems (items.map f) = .ok (items.map g) := by
  -- The items are cast from the front on.
  induction items with
  | nil => rfl
  | cons x items ih =>
    rw [List.forall_mem_cons] at h
    rw [List.map_cons, castItems, h.1, ih h.2]
    rfl

/-- A value of a kind, or a list of them, is cast to itself.  So the casts of a filter that was
never written change nothing. -/
theorem cast_typed {v : Value} (h : target.TypedAll v) : target.cast v = .ok v := by
  have hlone : ∀ x, target.Typed x → target.cast x = .ok x := fun x hx => by
    rw [cast_eq_castLone hx, castLone_typed hx]
  rcases h with h | ⟨items, rfl, h⟩
  · exact hlone v h
  · have hitems := castItems_map (f := id) (g := id) fun x hx => hlone x (h x hx)
    rw [List.map_id] at hitems
    rw [cast, hitems]
    rfl

/-- **The text of a value of a kind, or the texts of a list of them, are cast to what is regained.**
No cast fails on the way. -/
theorem cast_spelled {v : Value} (h : target.TypedAll v) :
    target.cast v.spelled = .ok v.regained := by
  have hlone : ∀ x, target.Typed x → target.cast x.spelledAtom = .ok x.regainedAtom := by
    intro x hx
    show target.castLone x.spelledAtom = _
    rw [castLone, castAtom?_spelledAtom hx]
  rcases h with h | ⟨items, rfl, h⟩
  · have hatom := hlone v h
    cases h <;> exact hatom
  · have hitems := castItems_map fun x hx => hlone x (h x hx)
    rw [Value.spelled, cast, hitems]
    rfl

/-- Two lists have equal items if they are made of the same list in two ways that are equal item by
item.  Their lengths are the same. -/
theorem equalItems?_map {items : List Value} {f g : Value → Value}
    (h : ∀ x ∈ items, (f x).equal? (g x) = .ok true) :
    Value.equalItems? (items.map f) (items.map g) = .ok true := by
  induction items with
  | nil => rfl
  | cons x items ih =>
    rw [List.forall_mem_cons] at h
    rw [List.map_cons, List.map_cons, Value.equalItems?, h.1]
    exact ih h.2

/-- **What is regained is equal to the value,** and both have its kind.  The two may still be
written differently. -/
theorem equal?_regained {v : Value} (h : target.TypedAll v) :
    v.regained.equal? v = .ok true ∧ target.HasKind v.regained ∧ target.HasKind v := by
  rcases h with h | ⟨items, rfl, h⟩
  · have hequal := equal?_regainedAtom h
    have hkind := ofValue_regainedAtom h
    refine ⟨?_, .inl ?_, .inl (ofValue_of_typed h)⟩
    · cases h <;> exact hequal
    · cases h <;> exact hkind
  · -- A list is equal to another one item by item.
    have hitems := equalItems?_map (f := Value.regainedAtom) (g := id) fun x hx =>
      equal?_regainedAtom (h x hx)
    rw [List.map_id] at hitems
    refine ⟨?_, .inr ⟨_, rfl, ?_⟩, .inr ⟨_, rfl, fun x hx => ofValue_of_typed (h x hx)⟩⟩
    · rw [Value.regained, Value.equal?]
      simp [hitems]
    · rw [List.forall_mem_map]
      exact fun x hx => ofValue_regainedAtom (h x hx)

end Target

end UrlFilter
