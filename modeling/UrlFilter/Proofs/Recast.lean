import UrlFilter.Proofs.Backend.Recorder
import UrlFilter.Proofs.Memory.Order
import UrlFilter.Proofs.Number.Decimal

namespace UrlFilter

open UrlFilter.Text UrlFilter.Number

/-!
# Casts that are repeated

What a cast gives has its kind already, and a second cast to the kind leaves it as it is.  Most
casts look at the kind of a value first.  Only a decimal number goes back through its text, and
keeps its sign, its digits and its exponent on this way.

* `Target.ofValue_of_castAtom?` — the kind of what the cast of a single value gives.
* `Target.castAtom?_again`, `Target.cast_again` — a second cast of a single value, and of any value.
* `Condition.castAll_again` — a second cast of conditions.
* `casts_again` — a second cast of values and of conditions.
-/

namespace Target

variable {target : Target} {v w : Value}

/-! ### Single values -/

/-- **The cast of a single value to a kind that is known gives a value of this kind.**  A kind that
is not known casts nothing, so it says nothing about the result. -/
theorem ofValue_of_castAtom? (hknown : ∀ name, target ≠ unknown name)
    (h : target.castAtom? v = some w) : ofValue w = target := by
  -- One case for each way of casting: through a text, by kind or text, with a truth value refused,
  -- and between dates.
  cases target with
  | unknown name => exact absurd rfl (hknown name)
  | text | float | decimal =>
    obtain ⟨x, -, rfl⟩ := Option.map_eq_some_iff.1 h
    rfl
  | bool | uuid =>
    -- A value of the kind is given back, and the text of another one is read.
    simp only [castAtom?, toBool?.eq_def, toUuid?.eq_def] at h
    split at h
    · obtain rfl := Option.some.inj h
      rfl
    · obtain ⟨x, -, rfl⟩ := Option.map_eq_some_iff.1 h
      rfl
  | int =>
    simp only [castAtom?, toInt?.eq_def] at h
    split at h
    · exact absurd h (by simp)
    · obtain rfl := Option.some.inj h
      rfl
    · obtain ⟨x, -, rfl⟩ := Option.map_eq_some_iff.1 h
      rfl
  | date | dateTime =>
    -- Each of the two kinds has a counterpart of the other one.
    simp only [castAtom?, toDate?.eq_def, toDateTime?.eq_def] at h
    split at h
    · obtain rfl := Option.some.inj h
      rfl
    · obtain rfl := Option.some.inj h
      rfl
    · obtain ⟨x, -, rfl⟩ := Option.map_eq_some_iff.1 h
      rfl

/-- A value of a known kind is single.  So the cast of such a value does not look into it. -/
theorem isSingle_of_ofValue (hknown : ∀ name, target ≠ unknown name) (h : ofValue w = target) :
    w.isSingle = true := by
  cases w <;> first | rfl | exact absurd h.symm (hknown _)

/-- A value of a kind is cast to itself, unless it is a number with a point.  Both kinds of such
numbers go through their text. -/
theorem castAtom?_of_ofValue (hfloat : target ≠ float) (hdecimal : target ≠ decimal)
    (h : ofValue w = target) : target.castAtom? w = some w := by
  subst h
  cases w with
  | binary x => exact absurd rfl hfloat
  | decimal x => exact absurd rfl hdecimal
  | _ => rfl

/-- **What the cast of a single value gives is cast to itself.**  The value that was cast may be of
any kind. -/
theorem castAtom?_again (hfloat : target ≠ float) (hknown : ∀ name, target ≠ unknown name)
    (h : target.castAtom? v = some w) : target.castAtom? w = some w := by
  -- Every other kind looks at the value first and gives it back.
  by_cases hdecimal : target = decimal
  · subst hdecimal
    obtain ⟨x, hread, rfl⟩ := Option.map_eq_some_iff.1 h
    -- The number was read of a text, so it comes back from its own.
    obtain ⟨cs, -, hread⟩ := Option.bind_eq_some_iff.1 hread
    have hagain : Decimal.read? x.scientific = some x :=
      Decimal.read?_scientific_iff.2 ⟨cs, hread⟩
    rw [castAtom?, trimmedText?_decimal, Option.bind_some, Decimal.read?_trim, hagain,
      Option.map_some]
  · exact castAtom?_of_ofValue hfloat hdecimal (ofValue_of_castAtom? hknown h)

/-- What the cast of a lone value gives is cast to itself.  A kind that is not known gives the value
back, whatever it is. -/
theorem cast_of_castLone (hfloat : target ≠ float) (hlone : target.cast v = target.castLone v)
    (h : target.castLone v = .ok w) : target.cast w = .ok w := by
  have hatom : target.castAtom? v = some w := by
    rw [castLone] at h
    split at h
    · next x hx => rw [hx, Except.ok.inj h]
    · exact absurd h (by simp)
  by_cases hunknown : ∃ name, target = unknown name
  · obtain ⟨name, rfl⟩ := hunknown
    obtain rfl := Option.some.inj hatom
    rw [hlone, h]
  · have hknown : ∀ name, target ≠ unknown name := not_exists.1 hunknown
    have hsingle := isSingle_of_ofValue hknown (ofValue_of_castAtom? hknown hatom)
    rw [cast_of_isSingle hsingle, castLone, castAtom?_again hfloat hknown hatom]

/-! ### Lists -/

/-- **What a cast gives is cast to itself.**  A list, a tuple and a range are cast item by item and
keep their nesting. -/
theorem cast_again (hfloat : target ≠ float) (h : target.cast v = .ok w) :
    target.cast w = .ok w := by
  revert w
  -- The items of a list are cast in the same way, so both are shown at once.
  refine Target.cast.induct (fun v => ∀ {w}, target.cast v = .ok w → target.cast w = .ok w)
    (fun items => ∀ {ws}, target.castItems items = .ok ws → target.castItems ws = .ok ws)
    ?null ?list ?tuple ?range ?lone ?nil ?cons v
  case null =>
    intro w h
    obtain rfl := Except.ok.inj h
    rfl
  case list | tuple =>
    intro items ih w h
    rw [cast] at h
    obtain ⟨ws, hitems, hw⟩ := exists_of_bind_eq_ok h
    obtain rfl := Except.ok.inj hw
    rw [cast, ih hitems]
    rfl
  case range =>
    intro lower upper ihLower ihUpper w h
    rw [cast] at h
    obtain ⟨x, hlower, h⟩ := exists_of_bind_eq_ok h
    obtain ⟨y, hupper, hw⟩ := exists_of_bind_eq_ok h
    obtain rfl := Except.ok.inj hw
    rw [cast, castItems, castItems, castItems, ihLower hlower, ihUpper hupper]
    rfl
  case lone =>
    intro v hnull hlist htuple hrange w h
    have hlone : target.cast v = target.castLone v := by
      cases v with
      | null => exact absurd rfl hnull
      | list items => exact absurd rfl (hlist items)
      | tuple items => exact absurd rfl (htuple items)
      | range lower upper => exact absurd rfl (hrange lower upper)
      | _ => rfl
    exact cast_of_castLone hfloat hlone (hlone ▸ h)
  case nil =>
    intro ws h
    obtain rfl := Except.ok.inj h
    rfl
  case cons =>
    intro v items ih ihItems ws h
    rw [castItems] at h
    obtain ⟨w, hw, h⟩ := exists_of_bind_eq_ok h
    obtain ⟨rest, hrest, hws⟩ := exists_of_bind_eq_ok h
    obtain rfl := Except.ok.inj hws
    rw [castItems, ih hw, ihItems hrest]
    rfl

end Target

/-! ### Conditions -/

namespace Condition

variable {target : Target} {c d : Condition}

/-- The cast of a condition keeps its operator, and its value where the operator says so. -/
theorem cast_eq_ok_iff :
    cast target c = .ok d ↔ (keepsValue c.operator = true ∧ d = c) ∨
      (keepsValue c.operator = false ∧ ∃ v, target.cast c.value = .ok v ∧
        d = { c with value := v }) := by
  unfold cast
  cases hkeeps : keepsValue c.operator with
  | true => simp [eq_comm]
  | false => cases hcast : target.cast c.value <;> simp [eq_comm]

/-- What the cast of a condition gives is cast to itself.  Its operator has not changed, so its
value is kept or cast as before. -/
theorem cast_again (hfloat : target ≠ .float) (h : cast target c = .ok d) :
    cast target d = .ok d := by
  rcases cast_eq_ok_iff.1 h with ⟨hkeeps, rfl⟩ | ⟨hkeeps, v, hcast, rfl⟩
  · exact h
  · exact cast_eq_ok_iff.2 (.inr ⟨hkeeps, v, Target.cast_again hfloat hcast, rfl⟩)

/-- **What the casts of conditions give is cast to itself.**  Fields without a kind keep their
values. -/
theorem castAll_again {kinds : Kinds} {conditions results : List Condition}
    (hkinds : ∀ kind ∈ kinds, kind.2 ≠ .float) (h : castAll kinds conditions = .ok results) :
    castAll kinds results = .ok results := by
  rw [castAll, mapM_eq_ok_iff]
  refine List.map_congr_left fun d hd => ?_
  obtain ⟨c, -, hcast⟩ := exists_of_mem_mapM h hd
  -- Casting does not change the field, so the same kind is looked up again.
  split at hcast
  · next target hlookup =>
    rw [field_of_cast hcast, hlookup]
    obtain ⟨before, after, rfl, -⟩ := List.lookup_eq_some_iff.1 hlookup
    exact cast_again (hkinds (c.field, target) (by simp)) hcast
  · next hlookup =>
    obtain rfl := Except.ok.inj hcast
    rw [hlookup]

end Condition

/-- **Casts are idempotent.**  For every kind but binary numbers, what the cast of a value gives is
cast to itself, whatever the value is and however deep it is nested; so the casts of conditions to
the kinds of their columns leave what they give as it is. -/
theorem casts_again :
    (∀ {target : Target} {v w : Value}, target ≠ .float → target.cast v = .ok w →
      target.cast w = .ok w) ∧
    ∀ {kinds : Condition.Kinds} {conditions results : List Condition},
      (∀ kind ∈ kinds, kind.2 ≠ .float) → Condition.castAll kinds conditions = .ok results →
        Condition.castAll kinds results = .ok results :=
  ⟨Target.cast_again, Condition.castAll_again⟩

/-- Numbers in several notations, two of them in a tuple in a list.  The cast to decimal numbers
reads underscores, exponents and NaN with digits behind it. -/
def notations : Value :=
  .list [.text " 1_5.0E3 ", .tuple [.text "-nan012", .null], .text "-0e7", .int 7]

/-- The numbers of the notations.  A tuple becomes a list, and what is no value stays none. -/
def notedNumbers : Value :=
  .list [.decimal (.finite false 150 2), .list [.decimal (.nan true false 12), .null],
    .decimal (.finite true 0 7), .decimal (.finite false 7 0)]

/-- The exponents, the sign of zero and the payload of the NaN are kept. -/
theorem casts_again_notations :
    Target.decimal.cast notations = .ok notedNumbers ∧
      Target.decimal.cast notedNumbers = .ok notedNumbers ∧
      Condition.castAll [("price", .decimal)] [⟨"price", .among, notations⟩, ⟨"name", .eq, .int 1⟩]
        = .ok [⟨"price", .among, notedNumbers⟩, ⟨"name", .eq, .int 1⟩] ∧
      Condition.castAll [("price", .decimal)]
          [⟨"price", .among, notedNumbers⟩, ⟨"name", .eq, .int 1⟩]
        = .ok [⟨"price", .among, notedNumbers⟩, ⟨"name", .eq, .int 1⟩] := by
  have hcast : Target.decimal.cast notations = .ok notedNumbers := rfl
  have hall : Condition.castAll [("price", .decimal)]
      [⟨"price", .among, notations⟩, ⟨"name", .eq, .int 1⟩]
        = .ok [⟨"price", .among, notedNumbers⟩, ⟨"name", .eq, .int 1⟩] := rfl
  exact ⟨hcast, casts_again.1 (by decide) hcast, hall, casts_again.2 (by decide) hall⟩

end UrlFilter
