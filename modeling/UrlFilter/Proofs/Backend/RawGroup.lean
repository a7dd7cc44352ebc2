import UrlFilter.Proofs.Backend.Recorder
import UrlFilter.Proofs.Writing

namespace UrlFilter

/-!
# Conditions in a group

A column can be asked for with a parameter of its own or with a condition in the grouping parameter.
Either way of writing an operator and a value asks for the same.

* `Wire.read?_symbol_scalar` — the written value of an operator reads like the plain one.
* `Backend.groupedEntry?_condition` — what a written condition asks for.
* `Backend.applyRaw_group` — a group narrows a query like the parameters of its conditions, one
  after another.
-/

namespace Wire

/-! ### Two ways of writing a value -/

/-- **A written value reads like the plain text of the value** behind the symbol.  They differ in
the stars of a search and in the words for absence. -/
theorem read?_symbol_scalar (op : Operator) {v : Value} (hv : v.isCollection = false) :
    read? (.text (String.ofList (op.symbol.toList ++ '.' :: scalar v))) = read? (written op v) := by
  -- Only a case-insensitive search and an absence are written in another form.
  rcases written_eq_or op hv with h | ⟨rfl, h⟩ | ⟨rfl, b, rfl⟩
  · rw [h]
  · -- The stars around the text are dropped again.
    rw [h, read?_symbol_append rfl, read?_symbol_append rfl, shape_of_isPattern rfl,
      shape_of_isPattern rfl, String.toList_ofList, String.toList_ofList, dropStars_wrapWildcards]
  · rw [read?_symbol_append rfl, read?_written_bool (.inr rfl)]
    cases b <;> rfl

/-- The text of a collection is no item between quotes.  It starts with a bracket. -/
theorem unquoteItem_listLiteral (op : Operator) (items : List Value) :
    unquoteItem (listLiteral op items) = listLiteral op items := by
  obtain ⟨hopen, hclose⟩ := not_isBlank_brackets op
  have htrim : Text.trim (listLiteral op items) = listLiteral op items :=
    Text.trim_cons_concat hopen hclose _
  have hhead : (listLiteral op items).head? ≠ some '"' := by
    cases op <;> simp [listLiteral, brackets, Operator.isArray]
  rw [unquoteItem, htrim, if_neg (by simp [hhead])]

/-- A condition is its field, its symbol and a text that reads like the written value, in quotes or
not.  What stands between quotes reads the same without them. -/
theorem exists_condition_unquote (field : String) (op : Operator) (v : Value) :
    ∃ tail, condition field op v = field.toList ++ '.' :: (op.symbol.toList ++ '.' :: tail) ∧
      read? (.text (String.ofList (op.symbol.toList ++ '.' :: unquoteItem tail)))
        = read? (written op v) := by
  unfold condition
  -- A collection is written in brackets, and any other value as one item.
  by_cases hv : v.isCollection = true
  · obtain ⟨items, hitems⟩ := expression_collection op hv
    refine ⟨listLiteral op items, by rw [if_pos hv, hitems], ?_⟩
    rw [unquoteItem_listLiteral, ← hitems, written]
  · refine ⟨quoteItem v, by rw [if_neg hv], ?_⟩
    rw [quoteItem, unquoteItem_quoteText, read?_symbol_scalar op (by simpa using hv)]

end Wire

namespace Backend

/-! ### Single conditions -/

variable (pattern : String → String) (supports : Operator → Bool) {groupKey : String}

/-- What a written condition asks for: its column, and a text that reads like its written value; an
operator that may not stand in a URL asks for nothing.  The points inside the value do no harm, as
the first two decide. -/
theorem groupedEntry?_condition {field : String} (h : PlainName field) (op : Operator) (v : Value) :
    ∃ raw, groupedEntry? (Wire.condition field op v)
        = (if op.onWire then some (field, raw) else none) ∧
      Wire.read? raw = Wire.read? (Wire.written op v) := by
  obtain ⟨tail, htail, hread⟩ := Wire.exists_condition_unquote field op v
  have hparts : Wire.readCondition? (Wire.condition field op v) = some ⟨field, op.symbol, tail⟩ :=
    Wire.readCondition?_eq_some_iff.2
      ⟨htail, h.1, h.point_not_mem, Wire.point_not_mem_symbol op⟩
  refine ⟨_, ?_, hread⟩
  simp only [ groupedEntry?, hparts, Option.bind_eq_bind, Option.bind_some,
    Operator.ofSymbol?_symbol]

/-- An operator that may not stand in a URL reads as nothing.  Such an operator can be written, but
no reader accepts it. -/
theorem read?_written_of_not_onWire {op : Operator} (h : op.onWire = false) (v : Value) :
    Wire.read? (Wire.written op v) = none := by
  have hsymbol : (Wire.encode op v).1.onWire = false := by
    cases op <;> first | rfl | exact absurd h (by decide)
  have hsplit : Wire.splitOperator? (Wire.expression op v) = none := by
    simp [Wire.splitOperator?, Wire.expression,
      Text.splitFirst_append (Wire.point_not_mem_symbol (Wire.encode op v).1), hsymbol]
  simp [Wire.read?, Wire.written, Value.asText?, Wire.readText?, hsplit]

/-- A written condition makes the condition that a parameter of its own makes.  Both ways lead
through one text. -/
theorem filterMap_groupedEntry?_condition {field : String} (h : PlainName field) (op : Operator)
    (v : Value) :
    (( groupedEntry? (Wire.condition field op v)).bind fun e =>
        rawCondition? pattern supports e.1 e.2)
      = rawCondition? pattern supports field (Wire.written op v) := by
  obtain ⟨raw, hentry, hread⟩ := groupedEntry?_condition h op v
  rw [hentry]
  by_cases hw : op.onWire = true
  · rw [if_pos hw, Option.bind_some, rawCondition?, rawCondition?, hread]
  · rw [if_neg hw, Option.bind_none, rawCondition?, read?_written_of_not_onWire (by simpa using hw)]
    rfl

/-! ### Groups -/

/-- A parameter of its own for a condition.  The operator is written with the value. -/
def ownParameter (c : Condition) : Params :=
  .ofList [(c.field, Wire.written c.operator c.value)]

/-- The grouping parameter with some conditions.  The conditions are written one after another, in
parentheses. -/
def groupParameter (groupKey : String) (conditions : List Condition) : Params :=
  .ofList [(groupKey, Writing.group
    (conditions.map fun c => Wire.condition c.field c.operator c.value))]

/-- What a parameter of its own asks for.  It is at most one condition. -/
theorem rawConditions_ownParameter {c : Condition} (hne : c.field ≠ groupKey) :
    rawConditions pattern supports groupKey none (ownParameter c)
      = (rawCondition? pattern supports c.field (Wire.written c.operator c.value)).toList := by
  have hentries : (ownParameter c).entries = [(c.field, Wire.written c.operator c.value)] := rfl
  have hraw : rawEntries groupKey (c.field, Wire.written c.operator c.value)
      = [(c.field, Wire.written c.operator c.value)] := by
    rw [rawEntries, if_neg hne]
    rfl
  have hallowed : Condition.allowed none c.field = true := rfl
  rw [rawConditions, hentries, List.flatMap_singleton, hraw]
  cases hmade : rawCondition? pattern supports c.field (Wire.written c.operator c.value) <;>
    simp [hallowed, hmade]

/-- What the conditions of a group ask for: each what a parameter of its own asks for, in order.
Names without special characters keep the conditions apart. -/
theorem rawConditions_groupParameter {conditions : List Condition}
    (h : ∀ c ∈ conditions, PlainName c.field ∧ c.field ≠ groupKey) :
    rawConditions pattern supports groupKey none (groupParameter groupKey conditions)
      = conditions.flatMap fun c =>
        rawConditions pattern supports groupKey none (ownParameter c) := by
  -- Between the parentheses the conditions are cut apart where they were joined.
  have hsplit : Wire.splitConditions (Wire.commaJoin
        (conditions.map fun c => Wire.condition c.field c.operator c.value))
      = conditions.map fun c => Wire.condition c.field c.operator c.value := by
    refine Wire.splitConditions_commaJoin (separable_of_plainName ?_).1
    intro text htext
    obtain ⟨c, hc, rfl⟩ := List.mem_map.1 htext
    exact ⟨_, _, _, (h c hc).1, rfl⟩
  have hraw : rawEntries groupKey (groupKey, Writing.group
        (conditions.map fun c => Wire.condition c.field c.operator c.value))
      = (conditions.map fun c => Wire.condition c.field c.operator c.value).filterMap
        groupedEntry? := by
    rw [rawEntries, if_pos rfl]
    show List.flatMap _ [Writing.group _] = _
    have hshown : ∀ texts, (Writing.group texts).shown.toList
        = '(' :: Wire.commaJoin texts ++ [')'] := fun _ => String.toList_ofList
    rw [List.flatMap_singleton, hshown, Writing.unwrapGroup_enclosed, hsplit]
  have hentries : (groupParameter groupKey conditions).entries = [(groupKey, Writing.group
      (conditions.map fun c => Wire.condition c.field c.operator c.value))] := rfl
  have hallowed : ∀ column, Condition.allowed none column = true := fun _ => rfl
  rw [rawConditions, hentries, List.flatMap_singleton, hraw, List.filterMap_filterMap,
    List.filterMap_map, List.filterMap_eq_flatMap_toList]
  refine List.flatMap_congr fun c hc => ?_
  -- From here on each condition is on its own.
  obtain ⟨hname, hne⟩ := h c hc
  rw [rawConditions_ownParameter pattern supports hne,
    ← filterMap_groupedEntry?_condition pattern supports hname]
  simp only [Function.comp_apply, hallowed, if_true]

/-! ### Narrowing -/

variable {Query : Type} (b : Backend Query)

/-- Parameters that make some conditions one list after another narrow a query in the same order.
If one of them fails, so does the rest. -/
theorem foldlM_flatMap_narrow (conditions : List Condition) (made : Condition → List Condition)
    (q : Query) :
    (conditions.flatMap made).foldlM b.narrow q
      = conditions.foldlM (fun q c => (made c).foldlM b.narrow q) q := by
  induction conditions generalizing q with
  | nil => rfl
  | cons c conditions ih =>
    rw [List.flatMap_cons, List.foldlM_append, List.foldlM_cons]
    exact congrArg _ (funext ih)

/-- Without known kinds parameters narrow a query by the conditions that they make.  So everything
about parameters is about the conditions that they make. -/
theorem applyRaw_eq_foldlM (q : Query) (allowed : Option (List String)) (params : Params) :
    b.applyRaw q allowed none groupKey params
      = (rawConditions b.pattern b.supports groupKey allowed params).foldlM b.narrow q := by
  rw [applyRaw, narrowAll, Option.getD_none, Condition.castAll_nil]
  rfl

/-- **A group asks for what its conditions ask for as parameters of their own,** in the same order,
and narrows every query like these parameters do one after another, whatever the operators and the
values of the conditions are. -/
theorem applyRaw_group {conditions : List Condition}
    (h : ∀ c ∈ conditions, PlainName c.field ∧ c.field ≠ groupKey) (q : Query) :
    rawConditions b.pattern b.supports groupKey none (groupParameter groupKey conditions)
        = conditions.flatMap (fun c =>
          rawConditions b.pattern b.supports groupKey none (ownParameter c)) ∧
      b.applyRaw q none none groupKey (groupParameter groupKey conditions)
        = conditions.foldlM (fun q c => b.applyRaw q none none groupKey (ownParameter c)) q := by
  have hmade := rawConditions_groupParameter b.pattern b.supports h
  refine ⟨hmade, ?_⟩
  simp only [applyRaw_eq_foldlM]
  rw [hmade, foldlM_flatMap_narrow]

/-- A pattern with a comma and stars, an absence, and a list with a quote, a comma and a point. -/
def mixed : List Condition :=
  [⟨"title", .ilike, .text "*a,b"⟩, ⟨"closed_at", .isNull, .bool true⟩,
    ⟨"tags", .contains, .list [.text "x\"y", .text "gte.1,z"]⟩]

/-- The conditions of a group narrow one after another, with the wildcards of a backend in the
pattern. -/
theorem applyRaw_group_mixed :
    (∀ c ∈ mixed, PlainName c.field ∧ c.field ≠ "and") ∧
      rawConditions (substringRecorder Operator.wire).pattern
          (substringRecorder Operator.wire).supports "and" none (groupParameter "and" mixed)
        = ⟨"title", .ilike, .text "%a,b%"⟩ :: mixed.drop 1 ∧
      (substringRecorder Operator.wire).applyRaw [] none none "and" (groupParameter "and" mixed)
        = .ok (⟨"title", .ilike, .text "%a,b%"⟩ :: mixed.drop 1) := by
  have hnames : ∀ c ∈ mixed, PlainName c.field ∧ c.field ≠ "and" := by
    decide
  have hown : (mixed.flatMap fun c =>
      rawConditions (substringRecorder Operator.wire).pattern
        (substringRecorder Operator.wire).supports "and" none (ownParameter c))
        = ⟨"title", .ilike, .text "%a,b%"⟩ :: mixed.drop 1 := rfl
  have hrecorded : (mixed.foldlM (fun q c =>
      (substringRecorder Operator.wire).applyRaw q none none "and" (ownParameter c)) [])
        = .ok (⟨"title", .ilike, .text "%a,b%"⟩ :: mixed.drop 1) := by
    simp only [applyRaw_eq_foldlM]
    rw [← foldlM_flatMap_narrow, hown, foldlM_recorder, List.nil_append]
  obtain ⟨hmade, hnarrowed⟩ := applyRaw_group (substringRecorder Operator.wire) hnames []
  exact ⟨hnames, hmade.trans hown, hnarrowed.trans hrecorded⟩

end Backend

end UrlFilter
