import UrlFilter.Relational.Select
import UrlFilter.Text.Pattern
import UrlFilter.Value.Membership
import UrlFilter.Value.Order

namespace UrlFilter.Relational

open UrlFilter.Text

/-!
# Rows that meet predicates

The three-valued logic of databases: a relation with an absent operand is neither true nor false,
and a row is kept only where all predicates are true.

* `Truth` — true, false or unknown.
* `Predicate.truth` — a predicate of a row.
* `Select.count` — the number of rows that are kept.

What the query language says of a relation is followed where its standard settles it: absent
operands, `IS`, `IN` as a disjunction of equalities, negation, and the conjunction of all
predicates.  Where it leaves the choice to a database, as for the case of letters in `LIKE` and for
the order of values of two kinds, it is that of the small database which the counts are taken in.
-/

/-- True, false or unknown.  Unknown is an answer of its own, not the lack of one: its opposite is
unknown again. -/
inductive Truth where
  | yes | no | unknown
  deriving DecidableEq, Repr

namespace Truth

/-- The truth of what is known. -/
def ofBool (b : Bool) : Truth :=
  if b then yes else no

/-- The opposite; what is unknown stays so.  This is why neither a condition nor its opposite keeps
a row with an empty cell. -/
def not : Truth → Truth
  | yes => no
  | no => yes
  | unknown => unknown

/-- One of two is true.  A truth decides by itself, whatever the other one is; otherwise one unknown
is enough for the answer to be unknown. -/
def or : Truth → Truth → Truth
  | yes, _ => yes
  | _, yes => yes
  | no, no => no
  | _, _ => unknown

end Truth

/-- The values of a row by the names of its columns.  A column without a value is an empty cell. -/
abbrev Row := List (String × Value)

/-- The value of an operand in a row.  Calls of functions stand in searches only, which are not
decided here, so their values do not matter. -/
def Operand.value (row : Row) : Operand → Value
  | column c => (row.lookup c.name).getD .null
  | bind v => v
  | null => .null
  | bool b => .bool b
  | call _ argument => argument.value row

/-! ### Relations of values -/

/-- The values are equal, as in memory; but nothing is known of an absent value, not even that it is
equal to another absent one. -/
def equalTruth (v w : Value) : Truth :=
  if v.isNull || w.isNull then .unknown
  else
    match v.equal? w with
    | .ok b => .ofBool b
    | .error _ => .unknown

/-- The values are in an order; where kinds have no order, numbers come before texts. -/
def orderTruth (c : Comparison) (v w : Value) : Truth :=
  if v.isNull || w.isNull then .unknown
  else
    match v.compare? c w with
    | .ok b => .ofBool b
    | .error _ =>
      match v.number?, w.number? with
      | some _, none => .ofBool (c.holds .lt)
      | none, some _ => .ofBool (c.holds .gt)
      | _, _ => .unknown

/-- Letters that are the same where case counts for no ASCII letter. -/
def sameAsciiLetter (c d : Char) : Bool :=
  c.toLower == d.toLower

/-- The text of a value fits a pattern; the case of ASCII letters does not count. -/
def likeTruth (v pattern : Value) : Truth :=
  if v.isNull || pattern.isNull then .unknown
  else .ofBool (Pattern.matchesAll sameAsciiLetter pattern.shown.toList v.shown.toList)

/-- The value is equal to one of a list: one of the equalities is true.  Without any there is
nothing to be unknown, so even an absent value is not in an empty list. -/
def amongTruth (v : Value) (items : List Value) : Truth :=
  items.foldl (fun truth item => truth.or (equalTruth v item)) .no

/-- The value is the constant; this is always known. -/
def isTruth (v constant : Value) : Truth :=
  if v.isNull || constant.isNull then .ofBool (v.isNull && constant.isNull)
  else equalTruth v constant

/-- A relation between two values; relations on arrays and searches are not decided here. -/
def Relation.truth (relation : Relation) (v w : Value) : Truth :=
  match relation with
  | .eq => equalTruth v w
  | .ne => (equalTruth v w).not
  | .gt => orderTruth .above v w
  | .ge => orderTruth .atLeast v w
  | .lt => orderTruth .below v w
  | .le => orderTruth .atMost v w
  | .like => likeTruth v w
  | .ilike => likeTruth v w
  | .among => amongTruth v (w.sequence?.getD [])
  | .notAmong => (amongTruth v (w.sequence?.getD [])).not
  | .is => isTruth v w
  | .isNot => (isTruth v w).not
  | .contains | .containedBy | .overlaps | .finds => .unknown

/-! ### Rows -/

/-- A predicate of a row. -/
def Predicate.truth (p : Predicate) (row : Row) : Truth :=
  p.relation.truth (p.left.value row) (p.right.value row)

/-- The row is kept: each predicate is true of it.  What is unknown keeps no row. -/
def Select.keeps (q : Select) (row : Row) : Bool :=
  q.predicates.all fun p => p.truth row == .yes

/-- The number of rows that are kept, whatever the page. -/
def Select.count (q : Select) (rows : List Row) : Nat :=
  (rows.filter q.counted.keeps).length

/-- The number of rows of a database.  This needs a connection, here the rows themselves; without
one there is no count. -/
def Select.countWith (q : Select) (connection : Option (List Row)) : Except Error Nat :=
  match connection with
  | some rows => .ok (q.count rows)
  | none => .error .noSession

end UrlFilter.Relational
