import UrlFilter.Wire.ListLiteral

namespace UrlFilter.Wire

open UrlFilter.Text

/-!
# Operators and values in a URL

A parameter asks for an operator and a value, `operator.value`.

* `splitOperator?` — the operator, and the text behind the first point.
* `shape` — a text as the kind of value that its operator takes.
* `read?` — reads `operator.value`.
* `expression` — the text `operator.value`; `expression?` writes it.
* `bareValue` — the text of a value alone; `bareValue?` writes it.
-/

/-! ### Reading -/

/-- The operator in front of the first point and the text behind it.  Further points belong to the
value. -/
def splitOperator? (cs : List Char) : Option (Operator × List Char) := do
  let (name, rest) ← splitFirst '.' cs
  let op ← Operator.ofSymbol? (String.ofList name)
  if op.onWire then some (op, rest) else none

/-- What a word says about a value that may be absent: a yes, a no, or its absence or presence.  The
first two answer `is`, and the others `isNull`, but each word is understood by both. -/
inductive TriState where
  | yes | no | absent | present
  deriving DecidableEq, Repr

/-- The meaning of a word, whatever its case and the blanks around it.  Any other word says nothing,
and the value stays a text. -/
def TriState.read? (cs : List Char) : Option TriState :=
  let word := String.ofList (lower (trim cs))
  if word = "true" then some .yes
  else if word = "false" then some .no
  else if word = "null" then some .absent
  else if word = "not_null" then some .present
  else none

/-- A text as the kind of value that its operator takes: a list, a pattern without stars, or a yes
or no, where `is` with a word for absence or presence becomes `isNull`.  A list operator takes a
text that is no list as the only item of one. -/
def shape (op : Operator) (raw : Value) : Operator × Value :=
  let cs := (raw.asText?.getD "").toList
  if op.isMulti then
    (op, .list (((readList? op cs).map fun items => items.map fun x => .text (String.ofList x)).getD
      [raw]))
  else if op.isPattern then (op, stripWildcards raw)
  else if op = .is then
    match TriState.read? cs with
    | some .yes => (op, .bool true)
    | some .no => (op, .bool false)
    | some .absent => (.isNull, .bool true)
    | some .present => (.isNull, .bool false)
    | none => (op, raw)
  else if op = .isNull then
    match TriState.read? cs with
    | some .yes | some .absent => (op, .bool true)
    | some .no | some .present => (op, .bool false)
    | none => (op, raw)
  else (op, raw)

/-- The operator and the value of a text.  The symbol of the operator stands as it is, in lower case
and without blanks. -/
def readText? (cs : List Char) : Option (Operator × Value) := do
  let (op, rest) ← splitOperator? cs
  return shape op (.text (String.ofList rest))

/-- The operator and the value of a parameter; only texts have them.  A value that is no text has
been read already. -/
def read? (v : Value) : Option (Operator × Value) := do
  readText? (← v.asText?).toList

/-! ### Writing -/

/-- The word for absence or presence.  The absence of a value is written as a value of `is`. -/
def nullWord (absent : Bool) : List Char :=
  if absent then "null".toList else "not_null".toList

/-- A value alone, a list in brackets.  A set is written in whatever order its items have. -/
def body (op : Operator) (v : Value) : List Char :=
  match v with
  | .list items => listLiteral op items
  | .tuple items => listLiteral op items
  | .range lower upper => listLiteral op [lower, upper]
  | .set items => listLiteral op items
  | v => scalar v

/-- The operator that is written, and the value with it: the text of a case-insensitive search gets
stars, and `isNull` becomes `is` with a word.  A search that minds the case of letters is written
without stars, which a reader does not need. -/
def encode (op : Operator) (v : Value) : Operator × List Char :=
  match op, v with
  | .ilike, .text s => (op, wrapWildcards s.toList)
  | .ilike, .keyword w => (op, wrapWildcards w.symbol.toList)
  | .isNull, .bool absent => (.is, nullWord absent)
  | _, _ => (op, body op v)

/-- The text of an operator and a value, with a point between them.  This is the value of a
parameter that has the name of a field. -/
def expression (op : Operator) (v : Value) : List Char :=
  let (written, text) := encode op v
  written.symbol.toList ++ '.' :: text

/-- A value without its operator.  This is the value of a parameter with a name of its own, whose
operator is known to the reader. -/
def bareValue (op : Operator) (v : Value) : List Char :=
  match op, v with
  | .isNull, .bool absent => nullWord absent
  | _, _ => body op v

/-- Writes an operator and a value.  Its text is `expression`, and the digits are the only reason
for a failure. -/
def expression? (op : Operator) (v : Value) : Except Fault (List Char) :=
  ifWritable v (expression op v)

/-- Writes a value without its operator.  Its text is `bareValue`. -/
def bareValue? (op : Operator) (v : Value) : Except Fault (List Char) :=
  ifWritable v (bareValue op v)

end UrlFilter.Wire
