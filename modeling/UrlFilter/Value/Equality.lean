import UrlFilter.Value.Basic

namespace UrlFilter

open UrlFilter.Number UrlFilter.Calendar

/-!
# Equality of values

* `Fault` — the reasons why an operation on values has no result.
* `Value.equal?` — equality.  All numbers are equal by value, whatever their kind, a yes counting
  as one and a no as zero; no NaN is equal to anything, and a signaling one refuses to be compared
  with a number.
* `Value.isHashable` — values that can be looked up in a set or a map.
-/

/-- The reasons why an operation on values has no result.  They become errors of the request where
the operation was needed for an answer. -/
inductive Fault where
  /-- The operation is not defined for values of these kinds. -/
  | kindMismatch
  /-- A NaN takes part in a comparison that it refuses. -/
  | undefinedComparison
  /-- An integer has too many digits to be written. -/
  | tooManyDigits
  deriving DecidableEq, Repr

namespace Value

/-- The value of a number; a yes counts as one and a no as zero.  All numbers have a decimal value,
since a binary number has finitely many decimal digits. -/
def number? : Value → Option Decimal
  | bool b => some (.ofInt (if b then 1 else 0))
  | int n => some (.ofInt n)
  | binary x => some x.toDecimal
  | decimal x => some x
  | _ => none

/-- Equality of two numbers.  A quiet NaN is equal to nothing, itself included. -/
def equalNumbers? (x y : Decimal) : Except Fault Bool :=
  if x.isSignaling || y.isSignaling then .error .undefinedComparison
  else .ok (x.compare? y == some .eq)

/-- Equality of values that hold no other values.  Values of two kinds are not equal, unless both
are numbers or both are texts; a date is no date and time.  Two moments of which only one has an
offset are not equal. -/
def equalAtoms? (v w : Value) : Except Fault Bool :=
  match v.number?, w.number? with
  | some x, some y => equalNumbers? x y
  | some _, none => .ok false
  | none, some _ => .ok false
  | none, none =>
    match v, w with
    | null, null => .ok true
    | date d, date e => .ok (d == e)
    | dateTime s, dateTime t => .ok (s.compare? t == some .eq)
    | uuid u, uuid u' => .ok (u == u')
    | _, _ =>
      match v.asText?, w.asText? with
      | some s, some t => .ok (s == t)
      | _, _ => .ok false

mutual

/-- Equality of two values.  Sequences are equal if their items are, and a range is the tuple of its
bounds; sets, maps and objects are equal if they hold the same, in whatever order.  The items are
compared from left to right up to the first that differ, so that what follows gives no fault. -/
def equal? : Value → Value → Except Fault Bool
  | list items, w =>
    match w with
    | list others =>
      if items.length = others.length then equalItems? items others else .ok false
    | _ => .ok false
  | tuple items, w =>
    match w.tuple? with
    | some others => equalItems? items others
    | none => .ok false
  | range lower upper, w =>
    match w.tuple? with
    | some [] => .ok false
    | some (first :: rest) => do
      if ← equal? lower first then
        match rest with
        | [] => .ok false
        | second :: rest =>
          if ← equal? upper second then .ok rest.isEmpty else .ok false
      else .ok false
    | none => .ok false
  | set items, w =>
    match w with
    | set others =>
      if items.length = others.length then coveredBy? items others else .ok false
    | _ => .ok false
  | map entries, w =>
    match w with
    | map others =>
      if entries.length = others.length then equalEntries? entries others else .ok false
    | _ => .ok false
  | object attributes, w =>
    match w with
    | object others =>
      if attributes.length = others.length then equalEntries? attributes others else .ok false
    | _ => .ok false
  | null, w => equalAtoms? null w
  | bool b, w => equalAtoms? (bool b) w
  | int n, w => equalAtoms? (int n) w
  | binary x, w => equalAtoms? (binary x) w
  | decimal x, w => equalAtoms? (decimal x) w
  | text s, w => equalAtoms? (text s) w
  | keyword op, w => equalAtoms? (keyword op) w
  | date d, w => equalAtoms? (date d) w
  | dateTime t, w => equalAtoms? (dateTime t) w
  | uuid u, w => equalAtoms? (uuid u) w
termination_by structural v => v

/-- Two lists have equal items one by one, and the same length.  The item that decides is the first
that has no equal. -/
def equalItems? : List Value → List Value → Except Fault Bool
  | [], others => .ok others.isEmpty
  | _ :: _, [] => .ok false
  | v :: items, w :: others => do
    if ← equal? v w then equalItems? items others else .ok false

/-- Each item has an equal among the others.  With equally many items on both sides this is equality
of sets. -/
def coveredBy? : List Value → List Value → Except Fault Bool
  | [], _ => .ok true
  | v :: items, others => do
    if ← others.anyM (equal? v ·) then coveredBy? items others else .ok false

/-- Each entry has one with the same key and an equal value among the others.  The keys of both
sides are pairwise different. -/
def equalEntries? : List (String × Value) → List (String × Value) → Except Fault Bool
  | [], _ => .ok true
  | (key, v) :: entries, others =>
    match others.lookup key with
    | some w => do if ← equal? v w then equalEntries? entries others else .ok false
    | none => .ok false

end

mutual

/-- The value can be looked up in a set or a map.  A collection that can be changed cannot, and
neither can a tuple that holds one. -/
def isHashable : Value → Bool
  | decimal x => !x.isSignaling
  | list _ => false
  | map _ => false
  | object _ => false
  | tuple items => allHashable items
  | range lower upper => isHashable lower && isHashable upper
  | _ => true

/-- All values can be looked up in a set or a map. -/
def allHashable : List Value → Bool
  | [] => true
  | v :: items => isHashable v && allHashable items

end

end Value

end UrlFilter
