import UrlFilter.Proofs.Fallible
import UrlFilter.Proofs.Range

namespace UrlFilter

open Reading

/-!
# What writing gives

Filters whose values reading can give are written without an error: those of one value set the
parameters of their fields, and those of ranges add conditions to the grouping parameter.

* `FieldValue` — a field with an operator and a value that the operator takes as it is.
* `Part` — what filters are made of: a `FieldValue` or a `FieldRange`.
* `Writing.Writable` — the values of the filters that set parameters can be written.
* `Writing.collect_eq` — the parameters and the conditions that filters make.
* `Writing.entries_foldl_entry` — the parameters of filters on different fields.
* `Writing.params_of_collect` — where the conditions go.
* `Writing.params_parts` — what parts are written as.
* `Scheme.grouped_of_get?` — the conditions that a reader finds in a written group.
-/

/-! ### Parts -/

/-- A field of the scheme with an operator and a set value that the operator takes as it is.  The
proofs that it carries are what reading back needs. -/
structure FieldValue (s : Scheme) where
  field : Field
  mem : field ∈ s.fields
  single : field.kind.isRange = false
  operator : Operator
  onWire : operator.onWire = true
  value : Value
  settled : Wire.Settled operator value
  given : value.isUnset = false

namespace FieldValue

variable {s : Scheme}

/-- The filter that reading makes of the value.  The identifier is the name of the field. -/
def filter (v : FieldValue s) : Filter :=
  ⟨v.field.name, v.operator, v.value, some v.field, v.field.name⟩

/-- The parameter that is written of the value.  The operator stands in front of the value. -/
def entry (v : FieldValue s) : String × Value :=
  (v.field.name, Wire.written v.operator v.value)

theorem operator_ne (v : FieldValue s) : v.operator ≠ .between := by
  intro h
  have hwire := v.onWire
  rw [h] at hwire
  exact absurd hwire (by decide)

/-- **A written value reads back as its filter.**  Nothing is lost on the way, since the value is
settled. -/
theorem entryFilter?_entry (hs : s.Plain) (v : FieldValue s) :
    entryFilter? s v.entry = some v.filter := by
  have hread : Wire.read? v.entry.2 = some (v.operator, v.value) :=
    Wire.read?_written_of_settled v.onWire v.settled
  have hasked : operatorAndValue v.field v.entry.2 = (v.operator, v.value) := by
    rw [operatorAndValue, hread]
  have hname : v.entry.1 = v.field.name := rfl
  have hlast : (values v.entry.2).getLast? = some v.entry.2 := rfl
  rw [entryFilter?, hname, hs.named?_eq_some_iff.2 ⟨v.mem, rfl⟩, Option.bind_some, directFilter?,
    if_neg (by simp [v.single]), hlast, Option.map_some, askedFilter, hasked]
  rfl

end FieldValue

/-- What filters are made of: a value of a field or a range.  Both carry the proof that their field
is one of the scheme. -/
inductive Part (s : Scheme) where
  | value (v : FieldValue s)
  | range (r : FieldRange s)

namespace Part

variable {s : Scheme}

/-- The filter of a part.  Whatever is proved of reading and writing parts holds of these
filters. -/
def filter : Part s → Filter
  | value v => v.filter
  | range r => r.filter

/-- The name of the field of a part.  It is also the name of the parameter or of the conditions that
are written. -/
def name : Part s → String
  | value v => v.field.name
  | range r => r.field.name

/-- The value of a field, if the part is one. -/
def value? : Part s → Option (FieldValue s)
  | value v => some v
  | range _ => none

/-- The range, if the part is one. -/
def range? : Part s → Option (FieldRange s)
  | value _ => none
  | range r => some r

/-- The values of fields in order.  The order of the parts is kept. -/
def values (parts : List (Part s)) : List (FieldValue s) :=
  parts.filterMap value?

/-- The ranges in order.  They are written into one group. -/
def ranges (parts : List (Part s)) : List (FieldRange s) :=
  parts.filterMap range?

/-- Whatever is taken of parts is taken of their values and of their ranges.  Writing and reading
bring the ranges behind the values, so the order is lost. -/
theorem map_perm {α : Type*} (g : Part s → α) (parts : List (Part s)) :
    (parts.map g).Perm (((values parts).map fun v => g (.value v))
      ++ (ranges parts).map fun r => g (.range r)) := by
  -- A range is moved behind the values that follow it.
  induction parts with
  | nil => exact List.Perm.refl _
  | cons part parts ih =>
    cases part with
    | value v => exact ih.cons _
    | range r => exact (ih.cons _).trans List.perm_middle.symm

/-- Parts of different fields: so are the values, so are the ranges, and none of the ones is of a
field of the others.  This is what makes a parameter and a bound of one field exclude each other. -/
theorem nodup_names {parts : List (Part s)} (h : (parts.map name).Nodup) :
    ((values parts).map fun v => v.field.name).Nodup ∧
      ((ranges parts).map fun r => r.field.name).Nodup ∧
      ∀ r ∈ ranges parts, r.field.name ∉ (values parts).map fun v => v.field.name := by
  have happend := (map_perm name parts).nodup_iff.1 h
  obtain ⟨hvalues, hranges, hdisjoint⟩ := List.nodup_append.1 happend
  refine ⟨hvalues, hranges, fun r hr hmem => ?_⟩
  exact hdisjoint _ hmem _ (List.mem_map.2 ⟨r, hr, rfl⟩) rfl

@[simp] theorem operator_filter_value (v : FieldValue s) :
    (value v).filter.operator = v.operator := rfl

@[simp] theorem operator_filter_range (r : FieldRange s) :
    (range r).filter.operator = .between := rfl

/-- No range is of a field that has a value.  So a reader drops none of them in favour of a
parameter. -/
theorem filter_ranges_eq_self {parts : List (Part s)} (h : (parts.map name).Nodup) :
    ((ranges parts).map FieldRange.filter).filter (fun f =>
      !((values parts).map fun v => v.field.name).contains f.field)
        = (ranges parts).map FieldRange.filter := by
  obtain ⟨-, -, hdisjoint⟩ := nodup_names h
  rw [List.filter_eq_self]
  intro f hf
  obtain ⟨r, hr, rfl⟩ := List.mem_map.1 hf
  simpa [FieldRange.filter] using hdisjoint r hr

theorem map_field_filter (parts : List (Part s)) :
    (parts.map filter).map Filter.field = parts.map name := by
  rw [List.map_map]
  apply List.map_congr_left
  intro part _
  cases part <;> rfl

/-- Filters that are made of parts are made of a list of parts.  The parts are chosen one by one. -/
theorem exists_map_filter {filters : List Filter}
    (h : ∀ f ∈ filters, ∃ part : Part s, part.filter = f) :
    ∃ parts : List (Part s), parts.map filter = filters := by
  have hrange : filters ∈ Set.range (List.map (filter (s := s))) := by
    rw [Set.range_list_map]
    exact h
  exact hrange

/-- The value of a part is set.  So a writer skips none. -/
theorem isUnset_filter (part : Part s) : part.filter.value.isUnset = false := by
  cases part with
  | value v => exact v.given
  | range r => exact r.isUnset_value

/-- The filters of the values are those whose operator may stand in a URL.  A part with a value has
no operator of ranges. -/
theorem filter_ne_between (parts : List (Part s)) :
    ((parts.map filter).filter fun f => f.operator != .between)
      = (values parts).map FieldValue.filter := by
  -- Each part is kept or dropped by the operator of its filter.
  induction parts with
  | nil => rfl
  | cons part parts ih =>
    cases part with
    | value v =>
      rw [List.map_cons, List.filter_cons, if_pos (by simpa using v.operator_ne), ih]
      rfl
    | range r =>
      rw [List.map_cons, List.filter_cons, if_neg (by simp), ih]
      rfl

/-- The filters of the ranges are those with two bounds.  They are what joins the group. -/
theorem filter_eq_between (parts : List (Part s)) :
    ((parts.map filter).filter fun f => f.operator == .between)
      = (ranges parts).map FieldRange.filter := by
  induction parts with
  | nil => rfl
  | cons part parts ih =>
    cases part with
    | value v =>
      rw [List.map_cons, List.filter_cons, if_neg (by simpa using v.operator_ne), ih]
      rfl
    | range r =>
      rw [List.map_cons, List.filter_cons, if_pos (by simp), ih]
      rfl

/-- Some part is a range exactly if some filter has two bounds.  This says in terms of filters
whether a group is written. -/
theorem ranges_ne_nil_iff {parts : List (Part s)} :
    ranges parts ≠ [] ↔ ∃ f ∈ parts.map filter, f.operator = .between := by
  have hrange := filter_eq_between parts
  constructor
  · intro hne
    obtain ⟨r, others, hr⟩ := List.exists_cons_of_ne_nil hne
    have hmem : r.filter ∈ (parts.map filter).filter fun f => f.operator == .between := by
      rw [hrange, hr]
      exact List.mem_cons_self
    exact ⟨r.filter, List.mem_of_mem_filter hmem, rfl⟩
  · rintro ⟨f, hf, hop⟩ hnil
    have hmem : f ∈ (parts.map filter).filter fun f => f.operator == .between :=
      List.mem_filter.2 ⟨hf, by simp [hop]⟩
    rw [hrange, hnil] at hmem
    exact absurd hmem (by simp)

end Part

/-! ### Collecting -/

namespace Writing

/-- The filter sets a parameter of its own.  A value that is not set is not written at all. -/
def setsParameter (f : Filter) : Bool :=
  !f.value.isUnset && f.operator != .between

/-- The filter adds conditions to the grouping parameter.  The operator alone decides, whatever the
kind of the field is. -/
def joinsGroup (f : Filter) : Bool :=
  !f.value.isUnset && f.operator == .between

/-- The values of the filters that set parameters of their own can be written.  Ranges are not asked
here, as their bounds are written one by one. -/
def Writable (filters : List Filter) : Prop :=
  ∀ f ∈ filters, setsParameter f = true → f.value.isWritable = true

theorem parameter?_of_isWritable {f : Filter} (h : f.value.isWritable = true) :
    parameter? f = .ok (entry f) :=
  if_pos h

theorem isWritable_of_parameter? {f : Filter} {e : String × Value} (h : parameter? f = .ok e) :
    f.value.isWritable = true := by
  by_contra hlong
  rw [parameter?, if_neg hlong] at h
  exact absurd h (by simp)

/-- Filters are written only if the values that set parameters can be.  The first value without a
text stops the writing. -/
theorem writable_of_collect {filters : List Filter} {base : Params}
    {result : Params × List (List Char)} (h : collect filters base = .ok result) :
    Writable filters := by
  -- A filter that is skipped or is a range says nothing; any other one was written.
  induction filters generalizing base result with
  | nil => exact fun f hf => absurd hf List.not_mem_nil
  | cons f filters ih =>
    rw [Writable, List.forall_mem_cons]
    rw [collect] at h
    by_cases hunset : f.value.isUnset = true
    · rw [if_pos hunset] at h
      exact ⟨fun hset => absurd hset (by simp [setsParameter, hunset]), ih h⟩
    rw [if_neg hunset] at h
    by_cases hop : f.operator = .between
    · rw [if_pos hop] at h
      obtain ⟨own, -, h⟩ := exists_of_bind_eq_ok h
      obtain ⟨rest, hrest, -⟩ := exists_of_bind_eq_ok h
      exact ⟨fun hset => absurd hset (by simp [setsParameter, hop]), ih hrest⟩
    · rw [if_neg hop] at h
      obtain ⟨e, he, hrest⟩ := exists_of_bind_eq_ok h
      exact ⟨fun _ => isWritable_of_parameter? he, ih hrest⟩

theorem writable_of_params {groupKey : String} {filters : List Filter} {base q : Params}
    (h : params groupKey filters base = .ok q) : Writable filters := by
  obtain ⟨collected, hcollect, -⟩ := exists_of_bind_eq_ok h
  exact writable_of_collect hcollect

/-- **The parameters and the conditions that filters make:** each by itself, whatever the others
are.  Only a range can fail here: its value may have too many bounds, or a bound without a text. -/
theorem collect_eq {filters : List Filter} (hwritable : Writable filters) (base : Params) :
    collect filters base
      = ((filters.filter joinsGroup).mapM fun f => rangeConditions f.field f.value).map fun own =>
        (((filters.filter setsParameter).map entry).foldl (fun p e => p.insert e.1 e.2) base,
          own.flatten) := by
  induction filters generalizing base with
  | nil => rfl
  | cons f filters ih =>
    rw [Writable, List.forall_mem_cons] at hwritable
    have hrest := ih hwritable.2
    have hset : setsParameter f = (!f.value.isUnset && f.operator != .between) := rfl
    have hjoin : joinsGroup f = (!f.value.isUnset && f.operator == .between) := rfl
    rw [collect, List.filter_cons, List.filter_cons, hset, hjoin]
    -- A filter without a value is skipped, a range adds to the conditions, any other one to the
    -- parameters; the rest is the same in each case.
    by_cases hunset : f.value.isUnset = true
    · simp [hunset, hrest]
    rw [if_neg hunset]
    by_cases hop : f.operator = .between
    · rw [if_pos hop, hrest]
      simp only [hunset, hop, Bool.not_false, Bool.true_and, BEq.rfl, if_true, bne_self_eq_false,
        Bool.false_eq_true, if_false, List.mapM_cons]
      cases rangeConditions f.field f.value with
      | error e => rfl
      | ok own =>
        cases (filters.filter joinsGroup).mapM fun f => rangeConditions f.field f.value <;> rfl
    · rw [if_neg hop]
      have hown : setsParameter f = true := by simp [hset, hunset, hop]
      have hinsert := hrest (base.insert (entry f).1 (entry f).2)
      simp only [parameter?_of_isWritable (hwritable.1 hown), bind, Except.bind, hinsert, hunset,
        hop, Bool.not_false, Bool.true_and, bne_iff_ne, ne_eq, not_false_eq_true, if_true,
        beq_iff_eq, if_false, List.map_cons, List.foldl_cons]

/-- Filters that are written under the names of their fields set the parameters of these names. -/
theorem map_fst_entry {filters : List Filter} (hentry : ∀ f ∈ filters, (entry f).1 = f.field) :
    ((filters.filter setsParameter).map entry).map Prod.fst
      = (filters.filter setsParameter).map Filter.field := by
  rw [List.map_map]
  exact List.map_congr_left fun f hf => hentry f (List.mem_of_mem_filter hf)

/-- **Filters on different fields set parameters that do not replace each other:** where there are
none of these names yet, all of them go to the end. -/
theorem entries_foldl_entry {filters : List Filter}
    (hentry : ∀ f ∈ filters, (entry f).1 = f.field) (hnd : (filters.map Filter.field).Nodup)
    {base : Params} (hnew : ∀ f ∈ filters, f.field ∉ base.keys) :
    (((filters.filter setsParameter).map entry).foldl (fun p e => p.insert e.1 e.2) base).entries
      = base.entries ++ (filters.filter setsParameter).map entry := by
  have hnames : (((filters.filter setsParameter).map entry).map Prod.fst).Nodup := by
    rw [map_fst_entry hentry]
    exact hnd.sublist (List.filter_sublist.map _)
  refine Params.entries_foldl_insert hnames fun e he => ?_
  obtain ⟨f, hf, rfl⟩ := List.mem_map.1 he
  have hmem := List.mem_of_mem_filter hf
  exact hentry f hmem ▸ hnew f hmem

theorem boundConditions_of_isWritable {bound : Value} (h : bound.isWritable = true)
    (field : String) (op : Operator) :
    boundConditions field op bound
      = .ok (if bound.isNull then [] else [Wire.condition field op bound]) := by
  unfold boundConditions
  split
  · rfl
  · rw [Wire.condition?, Wire.ifWritable, if_pos h]
    rfl

/-- Bounds that can be written make the conditions of those that are given.  A bound that is not
given has no condition. -/
theorem rangeConditions_of_isWritable {lower upper : Value} (hlower : lower.isWritable = true)
    (hupper : upper.isWritable = true) (field : String) :
    rangeConditions field (.range lower upper)
      = .ok ((if lower.isNull then [] else [Wire.condition field .gte lower])
          ++ if upper.isNull then [] else [Wire.condition field .lte upper]) := by
  -- A range has its two bounds as they are.
  have hbounds : (Value.range lower upper).bounds? = .ok (lower, upper) := rfl
  rw [rangeConditions, hbounds]
  simp only [bind, Except.bind, boundConditions_of_isWritable hlower,
    boundConditions_of_isWritable hupper]
  rfl

/-- A bound makes its condition or none.  Writing may fail, but never writes something else. -/
theorem eq_of_mem_boundConditions {field : String} {op : Operator} {bound : Value}
    {conditions : List (List Char)} (h : boundConditions field op bound = .ok conditions)
    {c : List Char} (hc : c ∈ conditions) : c = Wire.condition field op bound := by
  unfold boundConditions at h
  split at h
  · obtain rfl := Except.ok.inj h
    exact absurd hc List.not_mem_nil
  · rw [Wire.condition?, Wire.ifWritable] at h
    split at h
    · obtain rfl := Except.ok.inj h
      exact List.mem_singleton.1 hc
    · exact absurd h (by simp [Except.map, Except.mapError])

/-- The conditions that bounds make have the field of the range.  The value may be any that has two
bounds. -/
theorem exists_of_mem_rangeConditions {field : String} {v : Value}
    {conditions : List (List Char)} (h : rangeConditions field v = .ok conditions) {c : List Char}
    (hc : c ∈ conditions) : ∃ op w, c = Wire.condition field op w := by
  obtain ⟨⟨lower, upper⟩, -, h⟩ := exists_of_bind_eq_ok h
  obtain ⟨below, hbelow, h⟩ := exists_of_bind_eq_ok h
  obtain ⟨above, habove, h⟩ := exists_of_bind_eq_ok h
  obtain rfl := Except.ok.inj h
  rcases List.mem_append.1 hc with hc | hc
  · exact ⟨_, _, eq_of_mem_boundConditions hbelow hc⟩
  · exact ⟨_, _, eq_of_mem_boundConditions habove hc⟩

variable {s : Scheme}

/-- Among parts, the values of fields set parameters.  All of them are set, so none is skipped. -/
theorem filter_setsParameter_parts (parts : List (Part s)) :
    (parts.map Part.filter).filter setsParameter = (Part.values parts).map FieldValue.filter := by
  rw [← Part.filter_ne_between]
  apply List.filter_congr
  intro f hf
  obtain ⟨part, -, rfl⟩ := List.mem_map.1 hf
  simp [setsParameter, part.isUnset_filter]

/-- Among parts, the ranges join the group. -/
theorem filter_joinsGroup_parts (parts : List (Part s)) :
    (parts.map Part.filter).filter joinsGroup = (Part.ranges parts).map FieldRange.filter := by
  rw [← Part.filter_eq_between]
  apply List.filter_congr
  intro f hf
  obtain ⟨part, -, rfl⟩ := List.mem_map.1 hf
  simp [joinsGroup, part.isUnset_filter]

/-- The values of parts can be written, since they are settled.  A settled value is made of texts
and truth values. -/
theorem writable_parts (parts : List (Part s)) : Writable (parts.map Part.filter) := by
  intro f hf hset
  have hmem : f ∈ (parts.map Part.filter).filter setsParameter := List.mem_filter.2 ⟨hf, hset⟩
  rw [filter_setsParameter_parts] at hmem
  obtain ⟨v, -, rfl⟩ := List.mem_map.1 hmem
  exact v.settled.isWritable

/-- The conditions that ranges make. -/
theorem mapM_rangeConditions (ranges : List (FieldRange s)) :
    ((ranges.map FieldRange.filter).mapM fun f => rangeConditions f.field f.value)
      = .ok (ranges.map FieldRange.conditions) := by
  rw [mapM_eq_ok_iff, List.map_map, List.map_map]
  exact List.map_congr_left fun r _ => r.rangeConditions_value

/-- The parameters that values of fields set, and the conditions that ranges make.  Here nothing can
fail, since parts hold values that can be written. -/
theorem collect_parts (hs : s.Plain) (parts : List (Part s)) (base : Params) :
    collect (parts.map Part.filter) base
      = .ok (((Part.values parts).map FieldValue.entry).foldl (fun p e => p.insert e.1 e.2) base,
        (Part.ranges parts).flatMap FieldRange.conditions) := by
  have hentry : ∀ v : FieldValue s, entry v.filter = v.entry := by
    intro v
    simp [entry, FieldValue.filter, FieldValue.entry, Wire.written, hs.no_key v.field v.mem]
  -- No field has a custom parameter, so each value is written with its operator.
  have hentries : ((Part.values parts).map FieldValue.filter).map entry
      = (Part.values parts).map FieldValue.entry := by
    rw [List.map_map]
    exact List.map_congr_left fun v _ => hentry v
  rw [collect_eq (writable_parts parts), filter_setsParameter_parts, filter_joinsGroup_parts,
    mapM_rangeConditions, hentries, List.flatMap_def]
  rfl

/-! ### The grouping parameter -/

theorem unwrapGroup_enclosed (cs : List Char) :
    Wire.unwrapGroup ('(' :: cs ++ [')']) = cs := by
  have htrim : Text.trim ('(' :: cs ++ [')']) = '(' :: cs ++ [')'] :=
    Text.trim_cons_concat (by decide) (by decide) cs
  simp only [Wire.unwrapGroup, htrim]
  simp

/-- A group asks for no operator.  So a group under the key of a field asks for nothing there. -/
theorem read?_group (conditions : List (List Char)) : Wire.read? (group conditions) = none := by
  rw [group, List.cons_append]
  -- A group starts with a bracket, no symbol does.
  exact Wire.read?_cons_eq_none (by decide) (fun op => by cases op <;> decide) _

/-- A written group has the conditions between its commas.  The brackets around them are taken off
again. -/
theorem conditions_group (conditions : List (List Char)) :
    Reading.conditions (group conditions)
      = Wire.splitConditions (Wire.commaJoin conditions) := by
  have hshown : (group conditions).shown
      = String.ofList ('(' :: Wire.commaJoin conditions ++ [')']) := rfl
  have hvalues : Reading.values (group conditions) = [group conditions] := rfl
  rw [Reading.conditions, hvalues, List.flatMap_singleton, hshown, String.toList_ofList,
    unwrapGroup_enclosed]

/-- A writer finds the conditions that a reader finds in a group. -/
theorem present_group (conditions : List (List Char)) :
    present (some (group conditions)) = Wire.splitConditions (Wire.commaJoin conditions) := by
  have htext : (some (group conditions)).bind Value.asText?
      = some (String.ofList ('(' :: Wire.commaJoin conditions ++ [')'])) := rfl
  rw [present, htext]
  simp only [String.toList_ofList, unwrapGroup_enclosed]

/-! ### Writing as a whole -/

/-- Entries of other keys behind parameters leave the grouping parameter as it is.  Written values
are such entries. -/
theorem beside_of_entries_append {base direct : Params} {entries : List (String × Value)}
    (h : direct.entries = base.entries ++ entries) (hkey : ∀ e ∈ entries, e.1 ≠ s.groupKey) :
    s.beside direct = s.beside base ++ entries ∧
      direct.get? s.groupKey = base.get? s.groupKey := by
  constructor
  · have hkeep : entries.filter (fun e => e.1 != s.groupKey) = entries := by
      rw [List.filter_eq_self]
      intro e he
      rw [bne_iff_ne]
      exact hkey e he
    rw [Scheme.beside, h, List.filter_append, hkeep, Scheme.beside]
  · have hnone : entries.lookup s.groupKey = none := by
      rw [List.lookup_eq_none_iff]
      intro e he
      simpa using (hkey e he).symm
    rw [Params.get?, h, List.lookup_append, hnone, Option.or_none, Params.get?]

/-- The conditions that filters make go behind those of the grouping parameter.  Without a condition
nothing is written there, not even an empty group. -/
theorem params_of_collect {filters : List Filter} {base direct : Params}
    {conditions : List (List Char)} (h : collect filters base = .ok (direct, conditions)) :
    ∃ q, params s.groupKey filters base = .ok q ∧ s.beside q = s.beside direct ∧
      q.get? s.groupKey
        = if conditions = [] then direct.get? s.groupKey
          else some (group (present (direct.get? s.groupKey) ++ conditions)) := by
  -- Without conditions the group stays as it is, and with some it is written anew.
  by_cases hnil : conditions = []
  · refine ⟨direct, ?_, rfl, by rw [if_pos hnil]⟩
    rw [params, h, hnil]
    rfl
  · have hempty : conditions.isEmpty = false := by simpa using hnil
    refine ⟨direct.insert s.groupKey (group (present (direct.get? s.groupKey) ++ conditions)),
      ?_, ?_, ?_⟩
    · rw [params, h]
      simp only [bind, Except.bind, hempty]
      rfl
    · exact Params.filter_ne_insertEntry _ _ _
    · rw [Params.get?_insert, if_pos rfl, if_neg hnil]

/-- **What parts are written as.**  Their values set the parameters of their fields behind those
that are there, and the conditions of their ranges go behind those of the grouping parameter.  The
parameters that are there may hold a group already. -/
theorem params_parts (hs : s.Plain) {parts : List (Part s)} (hnd : (parts.map Part.name).Nodup)
    {base : Params} (hbase : ∀ e ∈ base.entries, s.named? e.1 = none) :
    ∃ q, params s.groupKey (parts.map Part.filter) base = .ok q ∧
      s.beside q = s.beside base ++ (Part.values parts).map FieldValue.entry ∧
      q.get? s.groupKey
        = if Part.ranges parts = [] then base.get? s.groupKey
          else some (group (present (base.get? s.groupKey)
            ++ (Part.ranges parts).flatMap FieldRange.conditions)) := by
  have hnames : (((Part.values parts).map FieldValue.entry).map Prod.fst).Nodup := by
    rw [List.map_map]
    exact (Part.nodup_names hnd).1
  -- The parameters that are there name no field, so those of the values go behind them.
  have hnew : ∀ e ∈ (Part.values parts).map FieldValue.entry, e.1 ∉ base.keys := by
    intro e he hkey
    obtain ⟨v, -, rfl⟩ := List.mem_map.1 he
    obtain ⟨d, hd, hname⟩ := List.mem_map.1 hkey
    have hnone := hbase d hd
    rw [hname] at hnone
    simp [FieldValue.entry, hs.named?_eq_some_iff.2 ⟨v.mem, rfl⟩] at hnone
  have hkey : ∀ e ∈ (Part.values parts).map FieldValue.entry, e.1 ≠ s.groupKey := by
    intro e he
    obtain ⟨v, -, rfl⟩ := List.mem_map.1 he
    exact hs.name_ne v.field v.mem
  have hset := Params.entries_foldl_insert hnames hnew
  have hcollect := collect_parts hs parts base
  generalize ((Part.values parts).map FieldValue.entry).foldl
    (fun p e => p.insert e.1 e.2) base = direct at hset hcollect
  obtain ⟨hbeside, hgroup⟩ := beside_of_entries_append hset hkey
  obtain ⟨q, hparams, hq, hget⟩ := params_of_collect (s := s) hcollect
  have hranges : (Part.ranges parts).flatMap FieldRange.conditions = []
      ↔ Part.ranges parts = [] := by
    cases Part.ranges parts with
    | nil => simp
    | cons r ranges => simp [r.conditions_ne_nil]
  simp only [hgroup, hranges] at hget
  exact ⟨q, hparams, by rw [hq, hbeside], hget⟩

end Writing

/-! ### Reading a written group -/

namespace Scheme

variable {s : Scheme}

/-- A reader finds the conditions of a written group between its commas.  If none is written, there
is none to read. -/
theorem grouped_of_get? {p : Params} {conditions : List (List Char)}
    (h : p.get? s.groupKey
      = if conditions = [] then none else some (Writing.group conditions)) :
    s.grouped p = Wire.splitConditions (Wire.commaJoin conditions) := by
  rw [grouped, h]
  by_cases hnil : conditions = []
  · rw [if_pos hnil, hnil]
    rfl
  · rw [if_neg hnil]
    exact Writing.conditions_group _

/-- What is left of the grouping parameter is the group of the conditions that bound no range.
Without such a condition there is no group. -/
theorem residue_eq (s : Scheme) (conditions : List (List Char)) :
    s.residue conditions = if s.kept conditions = [] then []
      else [(s.groupKey, Writing.group (s.kept conditions))] := by
  rw [residue, residual?]
  -- An empty list of conditions is not put back as an empty group.
  by_cases h : s.kept conditions = []
  · have hempty : (conditions.filter fun c => (groupedBound? s c).isNone).isEmpty = true := by
      simpa [kept] using h
    rw [if_pos h, if_pos hempty]
    rfl
  · have hempty : (conditions.filter fun c => (groupedBound? s c).isNone).isEmpty = false := by
      simpa [kept] using h
    rw [if_neg h, if_neg (by rw [hempty]; exact Bool.false_ne_true)]
    rfl

/-- What is left of a group is the value of its key.  It is there once, as the entries in front have
other keys. -/
theorem get?_groupKey_of_residue {p : Params} {front : List (String × Value)}
    (hfront : ∀ e ∈ front, e.1 ≠ s.groupKey) {conditions : List (List Char)}
    (hp : p.entries = front ++ s.residue conditions) :
    p.get? s.groupKey
      = if s.kept conditions = [] then none else some (Writing.group (s.kept conditions)) := by
  have hnone : front.lookup s.groupKey = none := by
    rw [List.lookup_eq_none_iff]
    intro e he
    simpa using (hfront e he).symm
  rw [Params.get?, hp, List.lookup_append, hnone, Option.none_or, residue_eq]
  split <;> simp

end Scheme

end UrlFilter
