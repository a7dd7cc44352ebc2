import UrlFilter.Wire.Scalar

namespace UrlFilter.Wire

open UrlFilter.Text

/-!
# Lists in a URL

Lists are written in parentheses or braces with commas between the items.  An item that would not
read back as it is stands between double quotes, with a backslash before each quote and backslash.

* `quoteItem` — one item.
* `listLiteral` — a whole list.
* `quoteItem?`, `listLiteralOf?` — write an item and a list, as far as their integers can be
  written.
* `splitItems` — the items between the brackets.
* `unquoteItem` — a text without quotes, the inverse of `quoteItem`.
* `readList?` — reads a list; a text that is no list has no reading.
-/

/-! ### Writing -/

/-- The brackets of a list: braces for the operators on arrays, and otherwise parentheses.  The
reader of a list accepts only the brackets of its operator. -/
def brackets (op : Operator) : Char × Char :=
  if op.isArray then ('{', '}') else ('(', ')')

/-- A character that has a meaning between brackets.  A blank is no such character unless it stands
at an end. -/
def needsQuoting (c : Char) : Bool :=
  c == ',' || c == '(' || c == ')' || c == '{' || c == '}' || c == '"' || c == '\\'

/-- The text with a backslash before each quote and backslash.  All other characters stand for
themselves. -/
def escape (cs : List Char) : List Char :=
  cs.flatMap fun c => if c = '\\' ∨ c = '"' then ['\\', c] else [c]

/-- A text between double quotes.  Nothing in such a text ends the item that it is. -/
def enquote (cs : List Char) : List Char :=
  '"' :: escape cs ++ ['"']

/-- A text as it stands in a list: in quotes if it is empty, has blanks at its ends or holds a
character that has a meaning there.  A text that reads back as it is needs no quotes and has
none. -/
def quoteText (cs : List Char) : List Char :=
  if cs.isEmpty || cs != trim cs || cs.any needsQuoting then enquote cs else cs

/-- A value as it stands in a list.  A list in a list is written as its plain text, in quotes if
need be. -/
def quoteItem (v : Value) : List Char :=
  quoteText (scalar v)

/-- Writes a value as it stands in a list.  Its text is `quoteItem`. -/
def quoteItem? (v : Value) : Except Fault (List Char) :=
  ifWritable v (quoteItem v)

/-- The pieces with commas between them.  No pieces make the empty text. -/
def commaJoin (pieces : List (List Char)) : List Char :=
  [','].intercalate pieces

/-- A list of values.  An empty list is a pair of brackets. -/
def listLiteral (op : Operator) (items : List Value) : List Char :=
  (brackets op).1 :: commaJoin (items.map quoteItem) ++ [(brackets op).2]

/-- Writes the list of the values met in a value, if it has any.  A text has its characters, and a
number has no values to list. -/
def listLiteralOf? (op : Operator) (v : Value) : Except Fault (List Char) :=
  match v.elements? with
  | some items => ifWritable (.list items) (listLiteral op items)
  | none => .error .kindMismatch

/-! ### Reading -/

/-- Where a reader of items stands: outside of quotes, between them, or behind a backslash.  Only
outside of quotes does a comma end an item. -/
inductive ItemMode where
  | plain | quoted | escaped
  deriving DecidableEq, Repr

/-- An item of which a part has been read: its characters, the last one first, and whether it had
quotes.  That an item had quotes is remembered even if nothing stands between them. -/
structure ItemDraft where
  reversed : List Char
  quoted : Bool
  deriving DecidableEq, Repr

/-- The item with one more character.  It is the last one so far. -/
def ItemDraft.push (d : ItemDraft) (c : Char) : ItemDraft :=
  { d with reversed := c :: d.reversed }

/-- The finished item: blanks around it count only if it had quotes.  Between quotes blanks are as
good as other characters. -/
def ItemDraft.finish (d : ItemDraft) : List Char :=
  if d.quoted then d.reversed.reverse else trim d.reversed.reverse

/-- An item of which nothing has been read. -/
def ItemDraft.empty : ItemDraft :=
  ⟨[], false⟩

/-- The items of a text, given what has been read of the first one.  An opening quote discards what
stands before it in the item.  A closing quote does not end the item: what follows up to the comma
is added to it. -/
def itemsFrom : ItemMode → ItemDraft → List Char → List (List Char)
  | _, item, [] => [item.finish]
  | .escaped, item, c :: cs => itemsFrom .quoted (item.push c) cs
  | .quoted, item, c :: cs =>
    if c = '\\' then itemsFrom .escaped item cs
    else if c = '"' then itemsFrom .plain item cs
    else itemsFrom .quoted (item.push c) cs
  | .plain, item, c :: cs =>
    if c = '"' then itemsFrom .quoted ⟨[], true⟩ cs
    else if c = ',' then item.finish :: itemsFrom .plain .empty cs
    else itemsFrom .plain (item.push c) cs

/-- The items between brackets; a blank text has none.  Between commas there may be empty items, and
they count. -/
def splitItems (cs : List Char) : List (List Char) :=
  if (trim cs).isEmpty then [] else itemsFrom .plain .empty cs

/-- A text without the quotes around it; any other text stays as it is.  A text in quotes that holds
several items stands for the first of them. -/
def unquoteItem (cs : List Char) : List Char :=
  let inner := trim cs
  if 2 ≤ inner.length ∧ inner.head? = some '"' ∧ inner.getLast? = some '"' then
    (splitItems inner).headD []
  else cs

/-- The items of a list in brackets, and none of a blank text; any other text is no list.  Blanks
around the brackets do not count. -/
def readList? (op : Operator) (cs : List Char) : Option (List (List Char)) :=
  let inner := trim cs
  let (opener, closer) := brackets op
  if inner.head? = some opener ∧ inner.getLast? = some closer ∧ 2 ≤ inner.length then
    some (splitItems (inner.drop 1).dropLast)
  else if inner.isEmpty then some []
  else none

/-- The items of a list; a text that is no list is the only item of one.  This is how a value of a
list operator without brackets is understood. -/
def readList (op : Operator) (cs : List Char) : List (List Char) :=
  (readList? op cs).getD [cs]

end UrlFilter.Wire
