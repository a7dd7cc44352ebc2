import UrlFilter.Value.Equality
import UrlFilter.Value.Shown

namespace UrlFilter.Wire

open UrlFilter.Text UrlFilter.Number UrlFilter.Calendar

/-!
# Single values in a URL

* `ifWritable` — what is written of a value, unless an integer in it has too many digits.
* `scalar` — the text of a value that is no list; `scalar?` writes it.
* `wrapWildcards`, `stripWildcards` — the stars around the text that a pattern search looks for.
-/

/-- The text of a value that is no list: numbers without exponents, dates in ISO 8601, and words for
the absent value and for yes and no.  All other values have their plain text. -/
def scalar : Value → List Char
  | .null => "null".toList
  | .bool b => if b then "true".toList else "false".toList
  | .decimal x => x.plain
  | .date d => d.text
  | .dateTime t => t.text
  | .keyword op => op.symbol.toList
  | v => v.shown.toList

/-- What is written of a value is its text, unless an integer in the value has too many digits.  The
text is always there; whether it may be used is decided in this one place. -/
def ifWritable (v : Value) (text : List Char) : Except Fault (List Char) :=
  if v.isWritable then .ok text else .error .tooManyDigits

/-- Writes a value that is no list.  Its text is `scalar`. -/
def scalar? (v : Value) : Except Fault (List Char) :=
  ifWritable v (scalar v)

/-! ### Wildcards -/

/-- The star that stands at the ends of a pattern.  It stands for any text, as the percent sign does
in a pattern. -/
def isStar (c : Char) : Bool :=
  c == '*'

/-- A text without the stars at its two ends.  Stars inside of it stay. -/
def dropStars (cs : List Char) : List Char :=
  dropEndWhile isStar (cs.dropWhile isStar)

/-- A text without the stars at its two ends; a value that is no text stays as it is.  What a user
typed with stars is looked for without them. -/
def stripWildcards (v : Value) : Value :=
  match v.asText? with
  | some s => .text (String.ofList (dropStars s.toList))
  | none => v

/-- A text with a star at either end; a star that is there already is not repeated.  A text that is
a star by itself gets no other. -/
def wrapWildcards (cs : List Char) : List Char :=
  let opened := if cs.head? = some '*' then cs else '*' :: cs
  if opened.getLast? = some '*' then opened else opened ++ ['*']

end UrlFilter.Wire
