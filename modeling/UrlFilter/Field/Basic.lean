import UrlFilter.Field.Kind
import UrlFilter.Text.Case
import UrlFilter.Value.Shown

namespace UrlFilter

open UrlFilter.Text

/-!
# Fields

* `FieldSettings` — what is said about a field: its name, its operators and how forms show it.
* `Field` — settings that fit together.
* `Field.column` — the column of the backend that holds it.
* `Field.key` — the parameter that filters it.
* `humanize` — the label that a name makes.
-/

/-- How a form shows a few choices.  With many choices neither is used. -/
inductive ChoiceStyle where
  | pills | radios
  deriving DecidableEq, Repr

/-- How a form shows the time of day.  It has no effect on how times are written in URLs. -/
inductive ClockStyle where
  | twelveHour | twentyFourHour
  deriving DecidableEq, Repr

/-- The minutes between two times that a form offers.  Times in between can still be asked for in a
URL. -/
inductive MinuteStep where
  | one | five | fifteen | thirty
  deriving DecidableEq, Repr

/-- What is said about a field.  Only the operators, the keys, the choices and what the field starts
with matter for reading and writing filters. -/
structure FieldSettings where
  name : String
  kind : FieldKind
  label : String
  operators : List Operator
  defaultOperator : Operator
  defaultValue : Value
  columnName : Option String
  parameter : Option String
  choices : Option (List Value)
  supplier : Option (List Value)
  placeholder : Option String
  alwaysOn : Bool
  removable : Bool
  trueLabel : String
  falseLabel : String
  anyLabel : String
  nullable : Bool
  choiceStyle : ChoiceStyle
  inlineThreshold : Nat
  clockStyle : ClockStyle
  minuteStep : MinuteStep
  deriving Repr

/-- A field that can be filtered.  The default operator is among the operators, and a field with
choices says where they come from: a list, or a supplier that is asked when they are needed. -/
structure Field extends FieldSettings where
  default_mem : defaultOperator ∈ operators
  choices_given : kind.isChoice = true → choices.isSome = true ∨ supplier.isSome = true
  deriving Repr

/-- A text with blanks for underscores and the first letter in upper case.  It is what a form shows
if no label is given. -/
def humanize (cs : List Char) : List Char :=
  upperFirst (trim (cs.map fun c => if c = '_' then ' ' else c))

/-- A text that is given and not empty.  An empty text in the settings is as good as none. -/
def nonEmpty? (s : Option String) : Option String :=
  s.filter fun t => !t.isEmpty

namespace Field

/-- The column of the backend that holds the field.  Conditions name it, and not the field. -/
def column (f : Field) : String :=
  (nonEmpty? f.columnName).getD f.name

/-- The parameter of the field that has a name of its own.  Such a parameter holds a value alone:
its operator is the one that the field starts with. -/
def customKey? (f : Field) : Option String :=
  nonEmpty? f.parameter

/-- The parameter that filters the field.  Fields without a parameter of their own share their names
with their parameters. -/
def key (f : Field) : String :=
  f.customKey?.getD f.name

/-- The field allows an operator.  Reading does not ask this; `Limits.check` does. -/
def allows (f : Field) (op : Operator) : Bool :=
  f.operators.contains op

/-- A value names an operator that the field allows.  A value that is no text names none. -/
def allowsNamed (f : Field) (v : Value) : Bool :=
  v.asText?.any fun s => f.operators.any fun op => op.symbol == s

/-- The choices: those that are listed, and otherwise those of the supplier.  A field that is no
choice may have some nonetheless. -/
def choiceList (f : Field) : List Value :=
  (f.choices <|> f.supplier).getD []

end Field

/-! ### Choices -/

namespace Choice

/-- The label and the value of a choice that is a pair.  A choice is a pair if it is a tuple of two
items, whatever these are. -/
def pair? (choice : Value) : Option (Value × Value) :=
  match choice.tuple? with
  | some [label, value] => some (label, value)
  | _ => none

/-- The value that a choice stands for.  A choice that is no pair stands for itself. -/
def value (choice : Value) : Value :=
  ((pair? choice).map (·.2)).getD choice

/-- The label of a choice.  It may be any value, and is shown as a text later. -/
def label (choice : Value) : Value :=
  ((pair? choice).map (·.1)).getD choice

/-- The value that an object holds under the name `value`; an operator holds its symbol.  All other
values stand for themselves. -/
def inner? : Value → Option Value
  | .keyword op => some (.text op.symbol)
  | .object attributes => attributes.lookup "value"
  | _ => none

/-- The value of a choice as a text to compare with a parameter.  So a choice and the parameter that
selects it can be told to be the same. -/
def valueText (choice : Value) : String :=
  let v := value choice
  (((inner? v).bind Value.asText?).getD v.shown)

/-- The label of a choice as a form shows it: a value without a label starts with a capital.  A
label that is given stays as it is. -/
def labelText (choice : Value) : String :=
  match pair? choice with
  | some (label, _) => label.shown
  | none => String.ofList (capitalized ((inner? choice).getD choice).shown.toList)

end Choice

end UrlFilter
