import UrlFilter.Proofs.Backend.RawGroup

namespace UrlFilter

/-!
# Filters and their parameters narrow alike

A query can be narrowed by filters, or by the parameters that the filters are written as, without
any settings of fields.  Both ways attach the same conditions.

* `Filter.OfColumn` — a filter whose field has the name of its column, with a value that reading can
  give.
* `Filter.OfColumn.entryConditions_entry`, `Filter.OfColumn.rangeConditions_value` — what is written
  of a filter asks for its conditions.
* `Backend.applyRaw_params` — the written parameters attach the conditions of the filters, in some
  order.
-/

namespace Writing

/-- A filter sets a parameter of its own if it has a value and is no range. -/
theorem setsParameter_eq_true_iff {f : Filter} :
    setsParameter f = true ↔ f.value.isUnset = false ∧ f.operator ≠ .between := by
  simp [setsParameter]

/-- A filter joins the group if it has a value and is a range; no filter does both. -/
theorem joinsGroup_eq_true_iff {f : Filter} :
    joinsGroup f = true ↔ f.value.isUnset = false ∧ f.operator = .between := by
  simp [joinsGroup]

end Writing

/-! ### Parameters of columns -/

variable {pattern : String → String}

namespace Backend

/-- **What a written value asks for** is the condition of a filter with the value, if it narrows
something.  The same two tests stand between a value and its condition in both ways, so that none of
them is made in one way only. -/
theorem rawCondition?_written {supports : Operator → Bool} {op : Operator} {v : Value}
    (hsupports : supports op = true) (hwire : op.onWire = true) (hsettled : Wire.Settled op v)
    (column : String) :
    (rawCondition? pattern supports column (Wire.written op v)).toList
      = if v.isEmpty || !Condition.hasPredicate op v then []
        else [⟨column, op, Condition.operand pattern op v⟩] := by
  rw [rawCondition?, Wire.read?_written_of_settled hwire hsettled, Option.bind_eq_bind,
    Option.bind_some]
  -- Only the two tests are left, and the column takes part in neither.
  simp only [hsupports]
  cases v.isEmpty <;> cases Condition.hasPredicate op v <;> rfl

end Backend

/-! ### Filters on columns -/

namespace Filter

/-- The value is one that reading can give: of an operator that may stand in a URL no value or one
that the operator takes as it is, and otherwise a range whose bounds are absent or texts that are
not empty.  What a URL asks for is of this kind, unless it asks for an empty bound. -/
def AsRead (f : Filter) : Prop :=
  (f.operator.onWire = true ∧ (f.value = .null ∨ Wire.Settled f.operator f.value)) ∨
    (f.operator = .between ∧ ∃ lower upper : Option String,
      f.value = .range (.ofBound lower) (.ofBound upper) ∧ (∀ t ∈ lower, t ≠ "") ∧
        ∀ t ∈ upper, t ≠ "")

/-- Reading gives no integers, so what it can give can be written.  So nothing that is said here
depends on the length of integers. -/
theorem AsRead.isWritable {f : Filter} (h : f.AsRead) : f.value.isWritable = true := by
  rcases h with ⟨-, hnull | hsettled⟩ | ⟨-, lower, upper, hvalue, -, -⟩
  · rw [hnull]
    rfl
  · exact hsettled.isWritable
  · rw [hvalue, Value.isWritable, Value.isWritable_ofBound, Value.isWritable_ofBound]
    rfl

/-- The filter is of a field that has the name of its column and no parameter of another name, and
its value is one that reading can give.  Without fields a key is the name of a column, which is why
the three names have to be one. -/
structure OfColumn (groupKey : String) (f : Filter) : Prop where
  plain : PlainName f.field
  ne_groupKey : f.field ≠ groupKey
  settings : ∃ c, f.config = some c ∧ c.customKey? = none ∧ c.column = f.field
  asRead : f.AsRead

namespace OfColumn

variable {groupKey : String} {f : Filter}

/-- The conditions of a filter with an operator that may stand in a URL.  There are none if the
filter narrows nothing, and one otherwise. -/
theorem conditions_of_onWire (h : f.OfColumn groupKey) (hwire : f.operator.onWire = true) :
    Condition.ofFilter pattern f = .ok (f.conditions pattern) ∧
      f.conditions pattern
        = if f.value.isEmpty || !Condition.hasPredicate f.operator f.value then []
          else [⟨f.field, f.operator, Condition.operand pattern f.operator f.value⟩] := by
  obtain ⟨c, hconfig, -, hcolumn⟩ := h.settings
  have hop : f.operator ≠ .between := by
    intro hop
    rw [hop] at hwire
    exact absurd hwire (by decide)
  have hmade := Condition.ofFilter_of_ne_between pattern hconfig hop
  rw [hcolumn] at hmade
  rw [conditions_of_eq_ok hmade]
  exact ⟨hmade, rfl⟩

/-- The conditions of a filter with two bounds: a text that is not empty is asked for behind one of
the two operators.  That the text is not empty matters: without fields an empty one would ask for
nothing. -/
theorem conditions_of_between (h : f.OfColumn groupKey) (hop : f.operator = .between) :
    ∃ lower upper : Value, f.value = .range lower upper ∧
      Condition.ofFilter pattern f = .ok (f.conditions pattern) ∧
      f.conditions pattern = Condition.ofBounds f.field lower upper ∧
      ∀ c ∈ f.conditions pattern, ∃ t, t ≠ "" ∧
        (c = ⟨f.field, .gte, .text t⟩ ∨ c = ⟨f.field, .lte, .text t⟩) := by
  obtain ⟨c, hconfig, -, hcolumn⟩ := h.settings
  rcases h.asRead with ⟨hwire, -⟩ | ⟨-, lower, upper, hvalue, hlower, hupper⟩
  · rw [hop] at hwire
    exact absurd hwire (by decide)
  have hmade := Condition.ofFilter_of_between pattern hconfig hop hvalue
  rw [hcolumn] at hmade
  rw [conditions_of_eq_ok hmade]
  refine ⟨_, _, hvalue, hmade, rfl, fun d hd => ?_⟩
  -- A bound is a text or absent, and only a text can fail to be absent.
  have hgiven : ∀ bound : Option String, (∀ t ∈ bound, t ≠ "") →
      (Value.ofBound bound).isNull = false → ∃ t, t ≠ "" ∧ Value.ofBound bound = .text t := by
    rintro (_ | t) htext hnull
    · exact absurd hnull (by decide)
    · exact ⟨t, htext t rfl, rfl⟩
  rcases Condition.mem_ofBounds.1 hd with ⟨hnull, rfl⟩ | ⟨hnull, rfl⟩
  · obtain ⟨t, ht, hbound⟩ := hgiven lower hlower hnull
    exact ⟨t, ht, .inl (by rw [hbound])⟩
  · obtain ⟨t, ht, hbound⟩ := hgiven upper hupper hnull
    exact ⟨t, ht, .inr (by rw [hbound])⟩

/-- A filter on a column makes its conditions without an error; they are on the column and have
operators that may stand in a URL.  So a list of allowed columns would treat them as it treats the
field. -/
theorem ofFilter_eq (h : f.OfColumn groupKey) :
    Condition.ofFilter pattern f = .ok (f.conditions pattern) ∧
      ∀ c ∈ f.conditions pattern, c.field = f.field ∧ c.operator.onWire = true := by
  -- A range has one or two conditions, and any other filter at most one.
  by_cases hop : f.operator = .between
  · obtain ⟨-, -, -, hmade, -, hbounds⟩ := h.conditions_of_between hop
    refine ⟨hmade, fun c hc => ?_⟩
    obtain ⟨t, -, rfl | rfl⟩ := hbounds c hc <;> exact ⟨rfl, rfl⟩
  · have hwire : f.operator.onWire = true := (h.asRead.resolve_right fun hb => hop hb.1).1
    obtain ⟨hmade, hconditions⟩ := h.conditions_of_onWire hwire
    refine ⟨hmade, fun c hc => ?_⟩
    rw [hconditions] at hc
    split at hc
    · exact absurd hc List.not_mem_nil
    · rw [List.mem_singleton.1 hc]
      exact ⟨rfl, hwire⟩

/-! ### What is written of a filter -/

/-- The parameter of a filter is that of its field.  It holds the operator as well as the value,
since the field has no parameter of its own. -/
theorem entry_eq (h : f.OfColumn groupKey) :
    Writing.entry f = (f.field, Wire.written f.operator f.value) := by
  obtain ⟨c, hconfig, hkey, -⟩ := h.settings
  simp [Writing.entry, hconfig, hkey, Wire.written]

/-- The text of a range for the group has its conditions.  Each bound that is given is one of them,
in the order of its conditions. -/
theorem rangeConditions_value (h : f.OfColumn groupKey) (hop : f.operator = .between) :
    Writing.rangeConditions f.field f.value
      = .ok ((f.conditions pattern).map fun c => Wire.condition c.field c.operator c.value) := by
  obtain ⟨lower, upper, hvalue, -, hconditions, -⟩ := h.conditions_of_between hop
  obtain ⟨hlower, hupper⟩ : lower.isWritable = true ∧ upper.isWritable = true := by
    have hwritable := h.asRead.isWritable
    rwa [hvalue, Value.isWritable, Bool.and_eq_true] at hwritable
  rw [hvalue, Writing.rangeConditions_of_isWritable hlower hupper, hconditions, Condition.ofBounds]
  -- An absent bound is neither written nor made a condition.
  cases lower.isNull <;> cases upper.isNull <;> rfl

variable {supports : Operator → Bool} (hsupports : ∀ op, op.onWire = true → supports op = true)

include hsupports

/-- **The parameter of a filter asks for its conditions.**  A filter without a value sets no
parameter, and that is why it is left out here. -/
theorem entryConditions_entry (h : f.OfColumn groupKey) (hgiven : f.value.isUnset = false)
    (hop : f.operator ≠ .between) :
    Backend.entryConditions pattern supports groupKey none (Writing.entry f)
      = f.conditions pattern := by
  obtain ⟨hwire, hvalue⟩ := h.asRead.resolve_right fun hb => hop hb.1
  have hsettled : Wire.Settled f.operator f.value := by
    refine hvalue.resolve_left fun hnull => ?_
    rw [hnull] at hgiven
    exact absurd hgiven (by decide)
  -- The parameter is that of a condition with the value of the filter before it is made a pattern.
  have hasked := Backend.rawConditions_ownParameter pattern supports
    (c := ⟨f.field, f.operator, f.value⟩) h.ne_groupKey
  have hparameter : (Backend.ownParameter ⟨f.field, f.operator, f.value⟩).entries
      = [(f.field, Wire.written f.operator f.value)] := rfl
  rw [Backend.rawConditions_eq_flatMap, hparameter, List.flatMap_singleton] at hasked
  rw [h.entry_eq, hasked, Backend.rawCondition?_written (hsupports f.operator hwire) hwire hsettled,
    (h.conditions_of_onWire hwire).2]

/-- **A bound in a group asks for its condition.**  Read back by itself, each one gives the
condition that it was written for. -/
theorem rawConditions_bound (h : f.OfColumn groupKey) (hop : f.operator = .between)
    {c : Condition} (hc : c ∈ f.conditions pattern) :
    Backend.rawConditions pattern supports groupKey none (Backend.ownParameter c) = [c] := by
  obtain ⟨-, -, -, -, -, hbounds⟩ := h.conditions_of_between hop
  obtain ⟨t, ht, hcond⟩ := hbounds c hc
  -- Behind either operator the text is asked for as it stands.
  have hset : (Value.text t).isEmpty = false := by simp [ht]
  have hne : c.field ≠ groupKey := by
    rw [(h.ofFilter_eq.2 c hc).1]
    exact h.ne_groupKey
  rw [Backend.rawConditions_ownParameter pattern supports hne]
  rcases hcond with rfl | rfl
  · have hsettled : Wire.Settled .gte (.text t) := ⟨rfl, fun h => absurd h (by decide), by simp⟩
    rw [Backend.rawCondition?_written (hsupports .gte rfl) rfl hsettled, hset]
    rfl
  · have hsettled : Wire.Settled .lte (.text t) := ⟨rfl, fun h => absurd h (by decide), by simp⟩
    rw [Backend.rawCondition?_written (hsupports .lte rfl) rfl hsettled, hset]
    rfl

end OfColumn

end Filter

namespace Backend

/-! ### All filters -/

variable {groupKey : String} {filters : List Filter}

/-- The conditions of filters are those of the filters that set parameters and of those that join
the group.  Filters without a value are neither, but have no conditions.  The order changes where a
range stands before another filter. -/
theorem flatMap_conditions_perm (filters : List Filter) :
    ((filters.filter Writing.setsParameter).flatMap (Filter.conditions pattern)
        ++ (filters.filter Writing.joinsGroup).flatMap (Filter.conditions pattern)).Perm
      (filters.flatMap (Filter.conditions pattern)) := by
  have hset : filters.filter Writing.setsParameter
      = (filters.filter fun f => !f.value.isUnset).filter fun f => f.operator != .between := by
    rw [List.filter_filter]
    exact List.filter_congr fun f _ => Bool.and_comm _ _
  have hjoin : filters.filter Writing.joinsGroup
      = (filters.filter fun f => !f.value.isUnset).filter fun f => !(f.operator != .between) := by
    rw [List.filter_filter]
    refine List.filter_congr fun f _ => ?_
    rw [Writing.joinsGroup, Bool.and_comm, bne, Bool.not_not]
  -- Both kinds are cut out of the filters that have a value, by a test and its opposite.
  rw [← List.flatMap_append, hset, hjoin, ← Filter.flatMap_conditions_given filters]
  exact (List.filter_append_perm _ _).flatMap_right _

variable (hcolumns : ∀ f ∈ filters, f.OfColumn groupKey)

include hcolumns

/-- The parameters that filters set are named after their fields.  So they are different if the
fields are. -/
theorem fst_entry : ∀ f ∈ filters, (Writing.entry f).1 = f.field := by
  intro f hf
  rw [(hcolumns f hf).entry_eq]

/-- The parameters that filters on different columns set, and the conditions of the ranges.  The
parameters start from none, so that each filter adds its own and replaces no other. -/
theorem exists_collect (hnd : (filters.map Filter.field).Nodup) :
    ∃ direct : Params,
      Writing.collect filters .empty = .ok (direct,
        ((filters.filter Writing.joinsGroup).flatMap (Filter.conditions pattern)).map fun c =>
          Wire.condition c.field c.operator c.value) ∧
      direct.entries = (filters.filter Writing.setsParameter).map Writing.entry := by
  have hmapM : ((filters.filter Writing.joinsGroup).mapM fun f =>
        Writing.rangeConditions f.field f.value)
      = .ok ((filters.filter Writing.joinsGroup).map fun f =>
        (f.conditions pattern).map fun c => Wire.condition c.field c.operator c.value) := by
    rw [mapM_eq_ok_iff, List.map_map]
    refine List.map_congr_left fun f hf => ?_
    obtain ⟨hmem, hjoin⟩ := List.mem_filter.1 hf
    exact (hcolumns f hmem).rangeConditions_value (Writing.joinsGroup_eq_true_iff.1 hjoin).2
  have hwritable : Writing.Writable filters := fun f hf _ => (hcolumns f hf).asRead.isWritable
  have hnew : ∀ f ∈ filters, f.field ∉ Params.empty.keys := fun _ _ => List.not_mem_nil
  refine ⟨_, ?_, Writing.entries_foldl_entry (fst_entry hcolumns) hnd hnew⟩
  rw [Writing.collect_eq hwritable, hmapM, Except.map, ← List.flatMap_def, ← List.map_flatMap]

/-- **What filters on different columns are written as:** the parameters of their fields, and behind
them a group with the conditions of the ranges, if there are some.  The grouping parameter is no
field, so that it is new and comes last. -/
theorem exists_params (hnd : (filters.map Filter.field).Nodup) :
    ∃ p, Writing.params groupKey filters .empty = .ok p ∧
      p.entries = (filters.filter Writing.setsParameter).map Writing.entry
        ++ if (filters.filter Writing.joinsGroup).flatMap (Filter.conditions pattern) = [] then []
          else (groupParameter groupKey
            ((filters.filter Writing.joinsGroup).flatMap (Filter.conditions pattern))).entries := by
  obtain ⟨direct, hcollect, hdirect⟩ := exists_collect hcolumns hnd
  have hnew : groupKey ∉ direct.entries.map Prod.fst := by
    rw [hdirect, Writing.map_fst_entry (fst_entry hcolumns), List.mem_map]
    rintro ⟨f, hf, hfield⟩
    exact (hcolumns f (List.mem_of_mem_filter hf)).ne_groupKey hfield
  -- Nothing was in the group before, so that all of its conditions are those of the ranges.
  have hnone : Writing.present (direct.get? groupKey) = [] := by
    rw [Params.get?_eq_none_iff.2 hnew]
    rfl
  rw [Writing.params, hcollect]
  cases (filters.filter Writing.joinsGroup).flatMap (Filter.conditions pattern) with
  | nil => exact ⟨direct, rfl, hdirect.trans (List.append_nil _).symm⟩
  | cons c bounds =>
    refine ⟨_, rfl, ?_⟩
    rw [hnone]
    exact (Params.insertEntry_of_not_mem hnew _).trans (congrArg (· ++ _) hdirect)

/-- **What is written of filters on different columns asks for their conditions:** first for those
of the parameters, and then for those of the group. -/
theorem rawConditions_params (pattern : String → String) {supports : Operator → Bool}
    (hsupports : ∀ op, op.onWire = true → supports op = true)
    (hnd : (filters.map Filter.field).Nodup) :
    ∃ p, Writing.params groupKey filters .empty = .ok p ∧
      rawConditions pattern supports groupKey none p
        = (filters.filter Writing.setsParameter).flatMap (Filter.conditions pattern)
          ++ (filters.filter Writing.joinsGroup).flatMap (Filter.conditions pattern) := by
  obtain ⟨p, hparams, hentries⟩ := exists_params hcolumns hnd
  refine ⟨p, hparams, ?_⟩
  rw [rawConditions_eq_flatMap, hentries, List.flatMap_append]
  have hset : ((filters.filter Writing.setsParameter).map Writing.entry).flatMap
        (entryConditions pattern supports groupKey none)
      = (filters.filter Writing.setsParameter).flatMap (Filter.conditions pattern) := by
    rw [List.flatMap_map]
    refine List.flatMap_congr fun f hf => ?_
    obtain ⟨hmem, hset⟩ := List.mem_filter.1 hf
    obtain ⟨hgiven, hop⟩ := Writing.setsParameter_eq_true_iff.1 hset
    exact (hcolumns f hmem).entryConditions_entry hsupports hgiven hop
  -- Each condition of a range is on a column with a plain name, and is what its own parameter asks
  -- for.
  have hbound : ∀ c ∈ (filters.filter Writing.joinsGroup).flatMap (Filter.conditions pattern),
      (PlainName c.field ∧ c.field ≠ groupKey) ∧
        rawConditions pattern supports groupKey none (ownParameter c) = [c] := by
    intro c hc
    obtain ⟨f, hf, hc⟩ := List.mem_flatMap.1 hc
    obtain ⟨hmem, hjoin⟩ := List.mem_filter.1 hf
    obtain ⟨-, hop⟩ := Writing.joinsGroup_eq_true_iff.1 hjoin
    obtain ⟨hfield, -⟩ := (hcolumns f hmem).ofFilter_eq.2 c hc
    exact ⟨hfield ▸ ⟨(hcolumns f hmem).plain, (hcolumns f hmem).ne_groupKey⟩,
      (hcolumns f hmem).rawConditions_bound hsupports hop hc⟩
  -- From here on it does not matter which filters the conditions come from.
  generalize (filters.filter Writing.joinsGroup).flatMap (Filter.conditions pattern) = bounds
    at hbound ⊢
  have hgroup : rawConditions pattern supports groupKey none (groupParameter groupKey bounds)
      = bounds := by
    rw [rawConditions_groupParameter pattern supports fun c hc => (hbound c hc).1,
      List.flatMap_congr fun c hc => (hbound c hc).2, List.flatMap_singleton']
  rw [rawConditions_eq_flatMap] at hgroup
  rw [hset]
  split
  · next hnil => rw [hnil, List.flatMap_nil]
  · rw [hgroup]

/-! ### Narrowing -/

variable {Query : Type} (b : Backend Query)

/-- **The parameters that filters are written as narrow a query like the filters:** with the same
conditions, those of ranges behind the others.  No condition is attached in one way only, whatever
the operators are and whichever values are absent or empty. -/
theorem applyRaw_params (hnd : (filters.map Filter.field).Nodup)
    (hsupports : ∀ op, op.onWire = true → b.supports op = true) (q : Query) :
    ∃ p own raw, Writing.params groupKey filters .empty = .ok p ∧
      (recorder b.pattern b.supported).apply [] none none filters = .ok own ∧
      (recorder b.pattern b.supported).applyRaw [] none none groupKey p = .ok raw ∧
      raw.Perm own ∧
      b.apply q none none filters = own.foldlM b.narrow q ∧
      b.applyRaw q none none groupKey p = raw.foldlM b.narrow q := by
  obtain ⟨p, hparams, hraw⟩ := rawConditions_params hcolumns b.pattern hsupports hnd
  -- The recorder attaches nothing but its conditions, so that the two lists can be told.
  have hown : (recorder b.pattern b.supported).apply [] none none filters
      = .ok (filters.flatMap (Filter.conditions b.pattern)) := by
    rw [apply_eq_foldlM (recorder b.pattern b.supported) []
        (fun f hf => (hcolumns f hf).ofFilter_eq.1)
        fun f hf c hc => hsupports c.operator ((hcolumns f hf).ofFilter_eq.2 c hc).2,
      pattern_recorder, foldlM_recorder, List.nil_append]
  have hrecorded : (recorder b.pattern b.supported).applyRaw [] none none groupKey p
      = .ok (rawConditions b.pattern b.supports groupKey none p) := by
    rw [applyRaw, narrowAll_recorder, Option.getD_none, Condition.castAll_nil]
    rfl
  refine ⟨p, _, _, hparams, hown, hrecorded, ?_, ?_, ?_⟩
  · rw [hraw]
    exact flatMap_conditions_perm filters
  · rw [apply_eq_recorded, hown]
    rfl
  · rw [applyRaw_eq_recorded, hrecorded]
    rfl

omit hcolumns

/-- A range without an upper bound, a pattern with a comma, an absence, and three filters that
narrow nothing: without a value, with an empty list, and with a range without bounds. -/
def orders : List Filter :=
  [⟨"made", .between, .range (.text "2024-01-01") .null, some (.ofKind .dateRange "made"), "1"⟩,
    ⟨"name", .ilike, .text "a,\"*b", some (.ofKind .text "name"), "2"⟩,
    ⟨"status", .neq, .null, some (.ofKind .text "status"), "3"⟩,
    ⟨"paid", .isNull, .bool false, some (.ofKind .boolean "paid"), "4"⟩,
    ⟨"tags", .overlaps, .list [], some (.ofKind .multiSelect "tags"), "5"⟩,
    ⟨"sent", .between, .range .null .null, some (.ofKind .dateRange "sent"), "6"⟩]

/-- The conditions of the orders are attached in both ways. -/
theorem orders_applyRaw_params :
    ∃ p raw, Writing.params "and" orders .empty = .ok p ∧
      (substringRecorder Operator.wire).apply [] none none orders
        = .ok [⟨"made", .gte, .text "2024-01-01"⟩, ⟨"name", .ilike, .text "%a,\"*b%"⟩,
          ⟨"paid", .isNull, .bool false⟩] ∧
      (substringRecorder Operator.wire).applyRaw [] none none "and" p = .ok raw ∧
      raw.Perm [⟨"made", .gte, .text "2024-01-01"⟩, ⟨"name", .ilike, .text "%a,\"*b%"⟩,
        ⟨"paid", .isNull, .bool false⟩] := by
  have hcolumns : ∀ f ∈ orders, f.OfColumn "and" := by
    have hnames : ∀ f ∈ orders, PlainName f.field ∧ f.field ≠ "and" := by decide
    have hsettings : ∀ f ∈ orders, ∃ c, f.config = some c ∧ c.customKey? = none ∧
        c.column = f.field := by
      simp only [orders, List.forall_mem_cons]
      refine ⟨⟨_, rfl, rfl, rfl⟩, ⟨_, rfl, rfl, rfl⟩, ⟨_, rfl, rfl, rfl⟩, ⟨_, rfl, rfl, rfl⟩,
        ⟨_, rfl, rfl, rfl⟩, ⟨_, rfl, rfl, rfl⟩, fun _ h => absurd h List.not_mem_nil⟩
    have hasRead : ∀ f ∈ orders, f.AsRead := by
      simp only [orders, List.forall_mem_cons]
      refine ⟨.inr ⟨rfl, some "2024-01-01", none, rfl, by simp, by simp⟩,
        .inl ⟨rfl, .inr ⟨rfl, fun _ => rfl, by simp⟩⟩, .inl ⟨rfl, .inl rfl⟩,
        .inl ⟨rfl, .inr (.inr rfl)⟩, .inl ⟨rfl, .inr ⟨rfl, [], rfl⟩⟩,
        .inr ⟨rfl, none, none, rfl, by simp, by simp⟩, fun _ h => absurd h List.not_mem_nil⟩
    exact fun f hf => ⟨(hnames f hf).1, (hnames f hf).2, hsettings f hf, hasRead f hf⟩
  have hsupports : ∀ op, op.onWire = true →
      (substringRecorder Operator.wire).supports op = true := by
    intro op hop
    simpa [supports, recorder, Operator.wire, hop] using Operator.mem_all op
  -- What is attached is computed, and the order of the parameters is the only difference.
  obtain ⟨p, own, raw, hparams, hown, hraw, hperm, -, -⟩ :=
    applyRaw_params hcolumns (substringRecorder Operator.wire) (by decide) hsupports []
  have hcomputed : (substringRecorder Operator.wire).apply [] none none orders
      = .ok [⟨"made", .gte, .text "2024-01-01"⟩, ⟨"name", .ilike, .text "%a,\"*b%"⟩,
        ⟨"paid", .isNull, .bool false⟩] := rfl
  obtain rfl := Except.ok.inj (hown.symm.trans hcomputed)
  exact ⟨p, raw, hparams, hcomputed, hraw, hperm⟩

end Backend

end UrlFilter
