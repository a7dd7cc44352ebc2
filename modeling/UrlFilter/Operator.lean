import UrlFilter.Text.Blank
import UrlFilter.Text.Case

namespace UrlFilter

open UrlFilter.Text

/-!
# Filter operators

* `Operator` — the relations between a field and a value that a filter can ask for.
* `Operator.symbol` — the word that stands for an operator in a URL.
* `Operator.ofSymbol?` — the operator of a word, the inverse of `symbol`.
* `Operator.onWire` — the operators that may stand before a value in a URL: all but `between`,
  which is written as two bounds.
-/

/-- A relation between a field and a value.  Not every one of them can be asked of every field: a
field lists those that it allows. -/
inductive Operator where
  | eq | neq | gt | gte | lt | lte
  | like | ilike
  | among | notAmong
  | is | isNull
  | contains | containedBy | overlaps
  | search | plainSearch | phraseSearch
  | between
  deriving DecidableEq, Repr

namespace Operator

/-- All operators.  The order is that in which a message lists them. -/
def all : List Operator :=
  [eq, neq, gt, gte, lt, lte, like, ilike, among, notAmong, is, isNull, contains, containedBy,
    overlaps, search, plainSearch, phraseSearch, between]

/-- The word that stands for an operator in a URL.  No two operators share one. -/
def symbol : Operator → String
  | eq => "eq"
  | neq => "neq"
  | gt => "gt"
  | gte => "gte"
  | lt => "lt"
  | lte => "lte"
  | like => "like"
  | ilike => "ilike"
  | among => "in"
  | notAmong => "not_in"
  | is => "is"
  | isNull => "is_null"
  | contains => "cs"
  | containedBy => "cd"
  | overlaps => "ov"
  | search => "fts"
  | plainSearch => "plfts"
  | phraseSearch => "phfts"
  | between => "gte_lte"

/-- The operator with the given symbol.  A text that is no symbol is not an error here; the caller
decides what it stands for. -/
def ofSymbol? (s : String) : Option Operator :=
  all.find? fun op => op.symbol = s

/-- The operator that a text names, whatever its case and the blanks around it.  In a URL neither is
ignored: there a symbol has to stand as it is. -/
def read? (s : String) : Option Operator :=
  ofSymbol? (lowered (trimmed s))

@[simp] theorem ofSymbol?_symbol (op : Operator) : ofSymbol? op.symbol = some op := by
  cases op <;> rfl

theorem mem_all (op : Operator) : op ∈ all := by
  cases op <;> decide

theorem symbol_of_ofSymbol? {s : String} {op : Operator} (h : ofSymbol? s = some op) :
    op.symbol = s := by
  simpa using List.find?_some h

theorem ofSymbol?_eq_some_iff {s : String} {op : Operator} :
    ofSymbol? s = some op ↔ op.symbol = s :=
  ⟨symbol_of_ofSymbol?, fun h => h ▸ ofSymbol?_symbol op⟩

/-! ### Classes of operators -/

/-- The value is a list of which the array field holds, is held by or meets the items. -/
def isArray : Operator → Bool
  | contains | containedBy | overlaps => true
  | _ => false

/-- The value is a list.  A URL writes it in parentheses. -/
def isMulti : Operator → Bool
  | among | notAmong | contains | containedBy | overlaps => true
  | _ => false

/-- The value is a pattern.  The value of a filter is the text to look for, and a condition makes a
pattern of it. -/
def isPattern : Operator → Bool
  | like | ilike => true
  | _ => false

/-- The operator may stand before a value in a URL.  Only `between` may not. -/
def onWire : Operator → Bool
  | between => false
  | _ => true

/-- The operators that may stand before a value in a URL.  Unless told otherwise, a backend supports
all of these. -/
def wire : List Operator :=
  all.filter onWire

/-! ### Wording -/

/-- What a person reads between the field and the value.  Forms of some kinds of fields have a
wording of their own. -/
def label : Operator → String
  | eq => "is"
  | neq => "is not"
  | gt => "is greater than"
  | gte => "is at least"
  | lt => "is less than"
  | lte => "is at most"
  | like => "like"
  | ilike => "contains"
  | among => "is any of"
  | notAmong => "is none of"
  | is => "is"
  | isNull => "is null"
  | contains => "contains all"
  | containedBy => "contained by"
  | overlaps => "contains any"
  | search => "search"
  | plainSearch => "search"
  | phraseSearch => "phrase search"
  | between => "between"

end Operator

end UrlFilter
