import UrlFilter.Error
import UrlFilter.Text.Pattern
import UrlFilter.Value.Membership
import UrlFilter.Value.Order

namespace UrlFilter.Memory

open UrlFilter.Text

/-!
# Operators on values in memory

* `compare` — the order of a value and an operand, which is cast if it has to be.
* `ofTexts` — the answer of a test of texts, if both values have one.
* `TextSearch` — three ways to look for words in a text.
* `holds` — an operator holds between a value and its operand.

An absent value is never in any order, and no pattern, search or array operator holds of it.
-/

/-- An operation on values without a result is an error.  Nothing else can go wrong in an operation
on values. -/
def lift {α : Type} (result : Except Fault α) : Except Error α :=
  result.mapError .noResult

/-! ### Order -/

/-- The name of a value in errors that arise outside of any field.  A comparison does not know which
field it is made for. -/
def anonymous : String := "<value>"

/-- The order of a value and an operand.  An operand of a kind without an order to the value is cast
to the kind of the value and compared again.  So a number is compared with the number that a text
denotes.  The error is the operand that cannot be cast, or the operand itself if the cast value has
no order to the other either. -/
def compare (c : Comparison) (v operand : Value) : Except Error Bool :=
  if v.isNull then .ok false
  else
    match v.compare? c operand with
    | .ok b => .ok b
    | .error .kindMismatch =>
      let target := Target.ofValue v
      match target.cast operand with
      | .error other => .error (.rejected anonymous other target)
      | .ok cast =>
        match v.compare? c cast with
        | .ok b => .ok b
        | .error .kindMismatch => .error (.rejected anonymous operand target)
        | .error fault => .error (.noResult fault)
    | .error fault => .error (.noResult fault)

/-! ### Texts -/

/-- The answer of a test of the texts of two values.  Without the first value nothing is tested, and
there is no answer where an integer in one of them has too many digits to be written. -/
def ofTexts (v operand : Value) (answer : Bool) : Except Error Bool :=
  if v.isNull || (v.isWritable && operand.isWritable) then .ok answer
  else .error (.noResult .tooManyDigits)

/-- The text of a value fits a pattern, given the letters that count as the same.  An absent value
has no text, and fits nothing. -/
def fits (same : Char → Char → Bool) (v pattern : Value) : Bool :=
  !v.isNull && Pattern.accepts same pattern.shown.toList v.shown.toList

/-- A character that separates the terms of a search.  A sign has no meaning of its own here: it
only separates. -/
def separatesTerms (c : Char) : Bool :=
  isBlank c || c == '&' || c == '|' || c == '!' || c == '(' || c == ')'

namespace TextSearch

/-- The terms of a search: what stands between blanks and the signs of a search expression.  Each is
looked for anywhere in the text. -/
def terms (cs : List Char) : List (List Char) :=
  (cut separatesTerms cs).filter fun term => !term.isEmpty

/-- Each term occurs in the text.  A search without terms finds every text. -/
def anywhere (text query : List Char) : Bool :=
  (terms query).all fun term => occursIn term text

/-- Each word of the search is a word of the text.  No word is found as a part of another one. -/
def asWords (text query : List Char) : Bool :=
  (words query).all fun word => (words text).contains word

/-- Words with one blank between them.  Blanks at the ends are dropped, and any others count as
one. -/
def phrase (cs : List Char) : List Char :=
  [' '].intercalate (words cs)

/-- The words of the search occur in the text side by side, the first and the last one maybe as
parts of longer words. -/
def asPhrase (text query : List Char) : Bool :=
  occursIn (phrase query) (phrase text)

end TextSearch

/-- A search finds its words in the text of a value; case does not count.  The two texts are put
into lower case before they are compared. -/
def finds (search : List Char → List Char → Bool) (v query : Value) : Bool :=
  !v.isNull && search (lower v.shown.toList) (lower query.shown.toList)

/-! ### Arrays -/

/-- The values met in a value, which must be one that has any.  A text is a collection of its
characters here. -/
def elements (v : Value) : Except Error (List Value) :=
  match v.elements? with
  | some items => .ok items
  | none => .error (.noResult .kindMismatch)

/-- All items are in the container.  The answer is no as soon as an item is missing, whatever
follows. -/
def allIn (container : Value) (items : List Value) : Except Error Bool :=
  lift (items.allM container.holds?)

/-- Some item is in the container.  The answer is yes as soon as an item is found, whatever
follows. -/
def someIn (container : Value) (items : List Value) : Except Error Bool :=
  lift (items.anyM container.holds?)

/-! ### Operators -/

/-- An operator holds between a value and its operand.  `between` has no meaning of its own: it
stands for two bounds. -/
def holds (op : Operator) (v operand : Value) : Except Error Bool :=
  match op with
  | .eq => lift (v.equal? operand)
  | .neq => do return !(← lift (v.equal? operand))
  | .gt => compare .above v operand
  | .gte => compare .atLeast v operand
  | .lt => compare .below v operand
  | .lte => compare .atMost v operand
  | .like => ofTexts v operand (fits (· == ·) v operand)
  | .ilike => ofTexts v operand (fits sameLetter v operand)
  | .among => lift (operand.holds? v)
  | .notAmong => do return !(← lift (operand.holds? v))
  | .is => lift (v.equal? operand)
  | .isNull => .ok (v.isNull == operand.isTrue)
  | .contains => if v.isNull then .ok false else do allIn v (← elements operand)
  | .containedBy => if v.isNull then .ok false else do allIn operand (← elements v)
  | .overlaps => if v.isNull then .ok false else do someIn v (← elements operand)
  | .search => ofTexts v operand (finds TextSearch.anywhere v operand)
  | .plainSearch => ofTexts v operand (finds TextSearch.asWords v operand)
  | .phraseSearch => ofTexts v operand (finds TextSearch.asPhrase v operand)
  | .between => .error (.notAmong Operator.wire op)

end UrlFilter.Memory
