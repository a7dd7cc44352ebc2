import UrlFilter.Wire.Expression

namespace UrlFilter.Wire

open UrlFilter.Text

/-!
# Conditions in the grouping parameter

One parameter can hold several conditions on several fields, `(field.gte.1,field.lte.5)`.

* `unwrapGroup` — the conditions without the parentheses around them.
* `splitConditions` — the conditions between the commas that separate them.
* `readCondition?` — the field, the operator and the value of a condition.
* `condition` — the text of a condition; `condition?` writes it.
-/

/-! ### Splitting -/

/-- The text without blanks around it and without one parenthesis at either end.  The two
parentheses are not matched against each other, and either may be missing. -/
def unwrapGroup (cs : List Char) : List Char :=
  let inner := trim cs
  let opened := if inner.head? = some '(' then inner.drop 1 else inner
  if opened.getLast? = some ')' then opened.dropLast else opened

/-- Where a reader of conditions stands: inside so many brackets, and there between quotes or behind
a backslash between quotes.  A backslash has a meaning between quotes only. -/
inductive GroupState where
  | plain (depth : Nat)
  | quoted (depth : Nat)
  | escaped (depth : Nat)
  deriving DecidableEq, Repr

/-- The place of a reader after one more character.  A closing bracket without an opening one
changes nothing.  Brackets of both kinds count together. -/
def GroupState.next : GroupState → Char → GroupState
  | plain depth, c =>
    if c = '"' then quoted depth
    else if c = '(' ∨ c = '{' then plain (depth + 1)
    else if c = ')' ∨ c = '}' then plain (depth - 1)
    else plain depth
  | quoted depth, c =>
    if c = '\\' then escaped depth else if c = '"' then plain depth else quoted depth
  | escaped depth, _ => quoted depth

/-- A comma outside of quotes and brackets separates two conditions.  Inside of them it belongs to a
value. -/
def GroupState.separates (s : GroupState) (c : Char) : Bool :=
  s == plain 0 && c == ','

/-- The pieces between the separating commas, read from the given place; always at least one.  The
pieces put together again with commas are the text. -/
def piecesFrom : GroupState → List Char → List (List Char)
  | _, [] => [[]]
  | s, c :: cs =>
    if s.separates c then [] :: piecesFrom (.plain 0) cs
    else
      match piecesFrom (s.next c) cs with
      | [] => [[c]]
      | piece :: rest => (c :: piece) :: rest

/-- The conditions of a group, without the blanks around them.  Empty conditions are dropped, so
that a comma at an end does no harm. -/
def splitConditions (cs : List Char) : List (List Char) :=
  ((piecesFrom (.plain 0) cs).map trim).filter fun piece => !piece.isEmpty

theorem piecesFrom_ne_nil (s : GroupState) (cs : List Char) : piecesFrom s cs ≠ [] := by
  cases cs with
  | nil => simp [piecesFrom]
  | cons c cs =>
    rw [piecesFrom]
    split
    · simp
    · split <;> simp

/-! ### Single conditions -/

/-- A condition as text: the name of a field, the symbol of an operator and the text of a value.  It
has not been looked at yet whether there is such a field and such an operator. -/
structure ConditionText where
  field : String
  symbol : String
  value : List Char
  deriving DecidableEq, Repr

/-- The parts of a condition between its first two points; the field has a name.  The name and the
symbol may be anything without a point, and the value anything at all. -/
def readCondition? (cs : List Char) : Option ConditionText := do
  let (field, rest) ← splitFirst '.' cs
  let (symbol, value) ← splitFirst '.' rest
  if field.isEmpty then none
  else some ⟨String.ofList field, String.ofList symbol, value⟩

/-- A condition: field, operator and value with points between them.  A single value stands in
quotes if it holds a character that has a meaning in a group.  A collection is written as a list, in
which each item has its own quotes. -/
def condition (field : String) (op : Operator) (v : Value) : List Char :=
  field.toList ++ '.' ::
    if v.isCollection then expression op v
    else op.symbol.toList ++ '.' :: quoteItem v

/-- Writes a condition.  Its text is `condition`, and the name of the field is taken as it is. -/
def condition? (field : String) (op : Operator) (v : Value) : Except Fault (List Char) :=
  ifWritable v (condition field op v)

end UrlFilter.Wire
