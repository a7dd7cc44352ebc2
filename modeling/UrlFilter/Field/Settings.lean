import UrlFilter.Error
import UrlFilter.Field.Basic
import UrlFilter.Settings.Reader

namespace UrlFilter

open UrlFilter.Number UrlFilter.Settings

/-!
# Settings of fields

* `Field.ofSettings` — the field that settings describe, or all that is wrong with them.
* `Field.build` — a field of a given kind, whose operators follow from the kind unless they are
  given.
-/

namespace FieldSettings

/-- Settings in which a field without a label gets the one that its name makes.  A name that reads
as no, such as an empty text, makes no label. -/
def withLabel (settings : Params) : Params :=
  match settings.get? "field" with
  | some name =>
    if name.isTrue && !(settings.get? "label").any Value.isTrue then
      settings.insert "label" (.text (String.ofList (humanize name.shown.toList)))
    else settings
  | none => settings

/-- How a form shows a few choices.  The words are literals, and case matters. -/
def readChoiceStyle : Reader ChoiceStyle :=
  readWord .notLiteral fun word =>
    if word = "pills" then some .pills else if word = "radios" then some .radios else none

/-- How a form shows the time of day.  Other words are a fault. -/
def readClockStyle : Reader ClockStyle :=
  readWord .notLiteral fun word =>
    if word = "twelve_hour" then some .twelveHour
    else if word = "twenty_four_hour" then some .twentyFourHour
    else none

/-- The minutes between two times: any number that is equal to one of those on offer.  A yes counts
as one here. -/
def readMinuteStep : Reader MinuteStep := fun v =>
  match v.number?.bind Decimal.toInt? with
  | some 1 => .ok .one
  | some 5 => .ok .five
  | some 15 => .ok .fifteen
  | some 30 => .ok .thirty
  | _ => .error .notLiteral

/-- What a supplier supplies.  It is a list here, since what is supplied does not depend on
anything. -/
def readSupplier : Reader (List Value)
  | .list items => .ok items
  | _ => .error .supplierNeeded

/-- The choices that are listed, if any are.  An absent value counts as no list. -/
def readChoices (settings : Params) : Checked (Option (List Value)) :=
  match settings.get? "options" with
  | none | some .null => .ok none
  | some v => (listOf readAny "options" v).map some

/-- Reads the settings of a field.  The issues are told in the order of the settings, whatever the
order in which they are given. -/
def read (settings : Params) : Checked FieldSettings :=
  let start : Checked _ := .ok FieldSettings.mk
  let text (name default : String) : Checked String := optional settings name readText default
  let textOption (name : String) : Checked (Option String) :=
    optional settings name (readOption readText) none
  let flag (name : String) (default : Bool) : Checked Bool :=
    optional settings name readBool default
  start
    |>.app (required settings "field" readText)
    |>.app (required settings "type" (readWord .notListed FieldKind.ofSymbol?))
    |>.app (text "label" "")
    |>.app (requiredList settings "operators" (readWord .notListed Operator.ofSymbol?))
    |>.app (required settings "default_operator" (readWord .notListed Operator.ofSymbol?))
    |>.app (optional settings "default_value" readAny .null)
    |>.app (textOption "query_field")
    |>.app (textOption "custom_param")
    |>.app (readChoices settings)
    |>.app (optional settings "options_fn" (readOption readSupplier) none)
    |>.app (textOption "placeholder")
    |>.app (flag "always_on" false)
    |>.app (flag "removable" true)
    |>.app (text "true_label" "Yes")
    |>.app (text "false_label" "No")
    |>.app (text "any_label" "Any")
    |>.app (flag "nullable" false)
    |>.app (optional settings "style" readChoiceStyle .pills)
    |>.app (optional settings "inline_threshold" readNat 4)
    |>.app (optional settings "time_format" readClockStyle .twelveHour)
    |>.app (optional settings "minute_step" readMinuteStep .one)

/-- The issue of a broken rule.  It concerns several settings at once, so that it has no path. -/
def broken (message : String) : Checked Field :=
  .error [⟨[], .rule message⟩]

/-- The field of settings that fit together.  The rules are checked one after another, and the first
that is broken is the only issue. -/
def check (s : FieldSettings) : Checked Field :=
  if s.operators = [] then broken s!"Field '{s.name}' must allow at least one operator"
  else if default_mem : s.defaultOperator ∈ s.operators then
    if choices_given : s.kind.isChoice = true → s.choices.isSome = true ∨ s.supplier.isSome = true
    then
      .ok { s with default_mem, choices_given }
    else
      broken s!"Field '{s.name}' of type '{s.kind.symbol}' requires 'options' or 'options_fn'"
  else
    broken (s!"Default operator '{s.defaultOperator.symbol}' of field '{s.name}' "
      ++ "is not among its operators")

end FieldSettings

namespace Field

/-- The field that settings describe.  The rules are checked only if every setting could be read. -/
def ofSettings (settings : Params) : Except Error Field :=
  let read := FieldSettings.read (FieldSettings.withLabel settings)
  (read.bind FieldSettings.check).mapError .settings

/-- The values listed by a setting.  A text lists its characters. -/
def listed (v : Value) : Except Error (List Value) :=
  match v.elements? with
  | some items => .ok items
  | none => .error .badCall

/-- The operators of a field: those given, or else those of its kind.  They are not checked yet. -/
def operatorsOf (kind : FieldKind) (options : Params) : Except Error (List Value) :=
  match options.get? "operators" with
  | some v => listed v
  | none => .ok (kind.operators.map .keyword)

/-- The operator to start with: that of the kind if it is among the operators, or else the first
one.  Operators are recognised by their symbols here. -/
def startingOperator (kind : FieldKind) (operators : List Value) : Value :=
  if operators.any fun v => v.asText? == some kind.defaultOperator.symbol then
    .keyword kind.defaultOperator
  else operators.headD (.keyword kind.defaultOperator)

/-- The choices of a field as a sequence, unless there are none.  Any collection may be given, and
becomes a sequence. -/
def withChoices (options : Params) : Except Error Params :=
  match options.get? "options" with
  | none | some .null => .ok options
  | some v => do return options.insert "options" (.tuple (← listed v))

/-- A field of a given kind.  The name must be given exactly once, and neither it nor the kind may
be given again among the options. -/
def build (kind : FieldKind) (name : Option Value) (options : Params) : Except Error Field := do
  let name ← match name with
    | some name => if options.contains "field" then .error .badCall else .ok name
    | none => .error .badCall
  let operators ← operatorsOf kind options
  let options ← withChoices options
  if options.contains "type" then .error .badCall
  let settings := ((options.insert "field" name).insert "type" (.text kind.symbol)).insert
    "operators" (.tuple operators)
  ofSettings
    (if options.contains "default_operator" then settings
      else settings.insert "default_operator" (startingOperator kind operators))

end Field

end UrlFilter
