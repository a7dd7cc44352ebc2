import UrlFilter.Value.Equality

namespace UrlFilter

open UrlFilter.Number UrlFilter.Calendar

/-!
# Order of values

* `Comparison` — the four ways to ask for the order of two values.
* `Value.compare?` — the answer.  Numbers compare by value, texts by their characters, sequences by
  the first items that differ, and sets by inclusion; other kinds, and values of two kinds, have no
  order.
-/

/-- A question about the order of two values.  Each is answered on its own, since not all of them
are decided by the answer to one. -/
inductive Comparison where
  | below | atMost | above | atLeast
  deriving DecidableEq, Repr

/-- The answer for two values that are ordered in the given way.  Equal values are at most and at
least each other. -/
def Comparison.holds : Comparison → Ordering → Bool
  | below, o => o == .lt
  | atMost, o => o != .gt
  | above, o => o == .gt
  | atLeast, o => o != .lt

namespace Value

/-- The order of two numbers.  A binary NaN is neither below nor above anything, and a decimal
number refuses to be compared with a NaN.  `exact` tells whether one of the two is decimal. -/
def compareNumbers? (c : Comparison) (exact : Bool) (x y : Decimal) : Except Fault Bool :=
  match x.compare? y with
  | some o => .ok (c.holds o)
  | none => if exact then .error .undefinedComparison else .ok false

/-- A decimal number.  An operand of this kind decides how NaNs are compared. -/
def isDecimal : Value → Bool
  | decimal _ => true
  | _ => false

/-- The order of two values that hold no other values.  Moments of which only one has an offset, and
values of two kinds, have no order. -/
def compareAtoms? (c : Comparison) (v w : Value) : Except Fault Bool :=
  match v.number?, w.number? with
  | some x, some y => compareNumbers? c (v.isDecimal || w.isDecimal) x y
  | _, _ =>
    match v, w with
    | date d, date e => .ok (c.holds (d.compare e))
    | dateTime s, dateTime t =>
      match s.compare? t with
      | some o => .ok (c.holds o)
      | none => .error .kindMismatch
    | uuid u, uuid u' => .ok (c.holds (Ord.compare u.value u'.value))
    | _, _ =>
      match v.asText?, w.asText? with
      | some s, some t => .ok (c.holds (Ord.compare s t))
      | _, _ => .error .kindMismatch

/-- The order of two sets: one is at most another if each of its items is in the other, and below it
if the other has more items.  Two sets of which neither holds the other are in no relation, and that
is an answer and no fault. -/
def compareSets? (c : Comparison) (items others : List Value) : Except Fault Bool :=
  match c with
  | .below => if items.length < others.length then coveredBy? items others else .ok false
  | .atMost => if items.length ≤ others.length then coveredBy? items others else .ok false
  | .above => if others.length < items.length then coveredBy? others items else .ok false
  | .atLeast => if others.length ≤ items.length then coveredBy? others items else .ok false

mutual

/-- The order of two values.  A fault of an equality on the way is the fault of the whole. -/
def compare? (c : Comparison) : Value → Value → Except Fault Bool
  | list items, w =>
    match w with
    | list others => compareItems? c items others
    | _ => .error .kindMismatch
  | tuple items, w =>
    match w.tuple? with
    | some others => compareItems? c items others
    | none => .error .kindMismatch
  | range lower upper, w =>
    match w.tuple? with
    | some [] => .ok (c.holds .gt)
    | some (first :: rest) => do
      if ← equal? lower first then
        match rest with
        | [] => .ok (c.holds .gt)
        | second :: rest =>
          if ← equal? upper second then .ok (c.holds (if rest.isEmpty then .eq else .lt))
          else compare? c upper second
      else compare? c lower first
    | none => .error .kindMismatch
  | set items, w =>
    match w with
    | set others => compareSets? c items others
    | _ => .error .kindMismatch
  | map _, _ => .error .kindMismatch
  | object _, _ => .error .kindMismatch
  | null, w => compareAtoms? c null w
  | bool b, w => compareAtoms? c (bool b) w
  | int n, w => compareAtoms? c (int n) w
  | binary x, w => compareAtoms? c (binary x) w
  | decimal x, w => compareAtoms? c (decimal x) w
  | text s, w => compareAtoms? c (text s) w
  | keyword op, w => compareAtoms? c (keyword op) w
  | date d, w => compareAtoms? c (date d) w
  | dateTime t, w => compareAtoms? c (dateTime t) w
  | uuid u, w => compareAtoms? c (uuid u) w
termination_by structural v => v

/-- The order of two lists: that of the first items that are not equal, and otherwise that of the
lengths.  Items that are equal are skipped, even if they have no order. -/
def compareItems? (c : Comparison) : List Value → List Value → Except Fault Bool
  | [], others => .ok (c.holds (if others.isEmpty then .eq else .lt))
  | _ :: _, [] => .ok (c.holds .gt)
  | v :: items, w :: others => do
    if ← equal? v w then compareItems? c items others else compare? c v w

end

end Value

end UrlFilter
