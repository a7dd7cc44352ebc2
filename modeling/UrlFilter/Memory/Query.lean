import UrlFilter.Backend
import UrlFilter.Memory.Evaluate

namespace UrlFilter.Memory

/-!
# Queries in memory

* `Record` — what has fields to read.
* `Predicate` — what a record is asked; a condition on a field is one kind of predicate.
* `Query` — records, the predicates they must meet, and a page.
* `Query.matching` — the records that meet all predicates.
* `Query.rows` — those of them on the page.
* `backend` — the backend of such queries.
-/

/-- What has fields to read; a field that is missing reads as absent.  A record may be anything, as
long as its fields can be read by name. -/
class Record (ρ : Type) where
  read : ρ → String → Value

/-- The field of a map or an object.  No other value has fields. -/
def fieldOf (v : Value) (name : String) : Value :=
  match v with
  | .map entries => (entries.lookup name).getD .null
  | .object attributes => (attributes.lookup name).getD .null
  | _ => .null

instance : Record Value := ⟨fieldOf⟩

/-- What a record is asked.  Any function will do, not only one that looks at a single field; it may
have no answer for some records. -/
abbrev Predicate (ρ : Type) := ρ → Except Error Bool

/-- Records, the predicates they must meet, and a page.  The page takes part in neither the matching
records nor their number. -/
structure Query (ρ : Type) where
  records : List ρ
  predicates : List (Predicate ρ) := []
  limit : Option Int := none
  offset : Option Int := none

/-! ### Slices -/

/-- A place in a list of a given length; a negative one counts from the end.  A place beyond either
end is that end. -/
def placeIn (length : Nat) (place : Int) : Nat :=
  if place < 0 then (length + place).toNat else min place.toNat length

/-- The items of a list from one place up to another.  If the second place lies before the first,
there are none. -/
def slice {α : Type} (items : List α) (start : Int) (stop : Option Int) : List α :=
  let first := placeIn items.length start
  let last := (stop.map (placeIn items.length)).getD items.length
  (items.take last).drop first

namespace Query

variable {ρ : Type}

/-- All records.  Without predicates every record meets them all. -/
def ofRecords (records : List ρ) : Query ρ :=
  { records }

/-- The records that meet all predicates, whatever the page.  A record is asked one predicate after
another, up to the first that it does not meet. -/
def matching (q : Query ρ) : Except Error (List ρ) :=
  q.records.filterM fun r => q.predicates.allM fun p => p r

/-- The part of a list that lies on the page.  An offset without a limit leaves all that follows. -/
def page (q : Query ρ) (matched : List ρ) : List ρ :=
  let start := q.offset.getD 0
  slice matched start (q.limit.map (start + ·))

/-- The records that meet all predicates and lie on the page.  The page is cut from the records that
meet the predicates, and not the other way round. -/
def rows (q : Query ρ) : Except Error (List ρ) := do
  return q.page (← q.matching)

/-- The number of records that meet all predicates.  It does not depend on the page. -/
def count (q : Query ρ) : Except Error Nat := do
  return (← q.matching).length

end Query

/-! ### The backend -/

/-- The record meets a condition: the operator holds between its field and the value.  A field that
the record does not have is compared as an absent value. -/
def meets {ρ : Type} [Record ρ] (c : Condition) : Predicate ρ := fun r =>
  holds c.operator (Record.read r c.field) c.value

/-- The query with the predicate of one more condition on a field that is known, if only some are.
The field is looked at first, so that an unknown field is the error even where the operator is not
supported either. -/
def narrow {ρ : Type} [Record ρ] (fields : Option (List String)) (operators : List Operator)
    (q : Query ρ) (c : Condition) : Except Error (Query ρ) :=
  if Condition.allowed fields c.field then
    if operators.contains c.operator then .ok { q with predicates := q.predicates ++ [meets c] }
    else .error (.notAmong operators c.operator)
  else
    .error (.unknownField c.field "records" (Error.sortedNames (fields.getD []).eraseDups))

/-- The backend of queries in memory.  A new page replaces the old one, with both of its parts. -/
def backend (ρ : Type) [Record ρ] (fields : Option (List String)) (operators : List Operator) :
    Backend (Query ρ) where
  supported := operators
  narrow := narrow fields operators
  paginate q limit offset := { q with limit, offset }

end UrlFilter.Memory
