import UrlFilter.Proofs.Writing

namespace UrlFilter

open Reading

/-!
# Filters come back

* `Filter.Readable` — a filter of the scheme with a value that reading can give.
* `Scheme.Plain.read_of_beside` — what is read of written values.
* `Scheme.Plain.read_params_parts` — what is read of parameters to which parts were written.
* `Scheme.Plain.params_reads_back` — written filters are read again, and nothing is left over.
-/

namespace Scheme

variable {s : Scheme}

/-- The conditions of the grouping parameter that are read after parts were written.  The conditions
that were there are joined with the new ones and split again as one text. -/
def regrouped (s : Scheme) (base : Params) (parts : List (Part s)) : List (List Char) :=
  if Part.ranges parts = [] then s.grouped base
  else Wire.splitConditions (Wire.commaJoin (Writing.present (base.get? s.groupKey)
    ++ (Part.ranges parts).flatMap FieldRange.conditions))

/-- **What is read of written values,** behind entries that name no field. -/
theorem Plain.read_of_beside (hs : s.Plain) {q : Params} {front : List (String × Value)}
    {values : List (FieldValue s)} (hq : s.beside q = front ++ values.map FieldValue.entry)
    (hfront : ∀ e ∈ front, s.named? e.1 = none) (htext : ∀ e ∈ front, e.2.Textual) :
    ∃ rest : Params,
      rest.entries = front ++ s.residue (s.grouped q) ∧
      s.read q = (alwaysOn s ((values.map fun v => v.field.name)
          ++ (groupedFilters s (s.grouped q)).map Filter.field)).map fun always =>
            ⟨values.map FieldValue.filter
              ++ ((groupedFilters s (s.grouped q)).filter fun f =>
                !(values.map fun v => v.field.name).contains f.field)
              ++ always, rest⟩ := by
  have hqtext : ∀ e ∈ s.beside q, e.2.Textual := by
    rw [hq, List.forall_mem_append]
    refine ⟨htext, fun e he => ?_⟩
    obtain ⟨v, -, rfl⟩ := List.mem_map.1 he
    exact .inl ⟨_, rfl⟩
  -- The entries in front name no field, and each value comes back from its own entry.
  have hfilters : (s.beside q).filterMap (entryFilter? s) = values.map FieldValue.filter := by
    have hentry : entryFilter? s ∘ FieldValue.entry = fun v => some v.filter :=
      funext fun v => v.entryFilter?_entry hs
    rw [hq, List.filterMap_append, filterMap_entryFilter?_eq_nil hfront, List.nil_append,
      List.filterMap_map, hentry, List.filterMap_eq_map']
  -- For the same reason, what is left over is what stood in front.
  have hleft : ((s.beside q).filter fun e => (s.named? e.1).isNone) = front := by
    rw [hq, List.filter_append, List.filter_eq_self.2, List.filter_eq_nil_iff.2, List.append_nil]
    · intro e he
      obtain ⟨v, -, rfl⟩ := List.mem_map.1 he
      simp [FieldValue.entry, hs.named?_eq_some_iff.2 ⟨v.mem, rfl⟩]
    · intro e he
      simp [hfront e he]
  -- Among the fields, those with a parameter are those of the values.
  have hkeys : ∀ name, (s.named? name).isSome = true →
      (name ∈ (s.beside q).map Prod.fst ↔ name ∈ values.map fun v => v.field.name) := by
    intro name hname
    have hnew : name ∉ front.map Prod.fst := by
      rw [List.mem_map]
      rintro ⟨e, he, rfl⟩
      simp [hfront e he] at hname
    rw [hq, List.map_append, List.mem_append, or_iff_right hnew, List.map_map]
    rfl
  have hkept : ((groupedFilters s (s.grouped q)).filter fun f =>
        !((s.beside q).map Prod.fst).contains f.field)
      = (groupedFilters s (s.grouped q)).filter fun f =>
        !(values.map fun v => v.field.name).contains f.field := by
    apply List.filter_congr
    intro f hf
    obtain ⟨field, -, hfield, -⟩ := exists_of_mem_groupedFilters hf
    simp only [List.contains_eq_mem, hkeys f.field (by simp [hfield])]
  have halways : alwaysOn s ((s.beside q).map Prod.fst
        ++ (groupedFilters s (s.grouped q)).map Filter.field)
      = alwaysOn s ((values.map fun v => v.field.name)
        ++ (groupedFilters s (s.grouped q)).map Filter.field) := by
    apply alwaysOn_congr
    intro f hf
    rw [List.mem_append, List.mem_append,
      hkeys f.name (by simp [hs.named?_eq_some_iff.2 ⟨hf, rfl⟩])]
  obtain ⟨rest, hrest, hread⟩ := hs.read_eq hqtext
  rw [hleft] at hrest
  rw [hfilters, hkept, halways] at hread
  exact ⟨rest, hrest, hread⟩

/-- **What is read of parameters to which parts were written.**  The values come back; what the
grouping parameter gives depends on where a reader splits it.  Nothing is assumed of the group that
was there: its brackets may be open, and what it holds then takes the new conditions with it. -/
theorem Plain.read_params_parts (hs : s.Plain) {parts : List (Part s)}
    (hnd : (parts.map Part.name).Nodup) {base : Params}
    (hbase : ∀ e ∈ base.entries, s.named? e.1 = none) (htext : ∀ e ∈ base.entries, e.2.Textual) :
    ∃ q, Writing.params s.groupKey (parts.map Part.filter) base = .ok q ∧
      ∃ rest : Params,
        rest.entries = s.beside base ++ s.residue (s.regrouped base parts) ∧
        s.read q = (alwaysOn s (((Part.values parts).map fun v => v.field.name)
          ++ (groupedFilters s (s.regrouped base parts)).map Filter.field)).map fun always =>
            ⟨(Part.values parts).map FieldValue.filter
              ++ ((groupedFilters s (s.regrouped base parts)).filter fun f =>
                !((Part.values parts).map fun v => v.field.name).contains f.field)
              ++ always, rest⟩ := by
  obtain ⟨q, hparams, hbeside, hgroup⟩ := Writing.params_parts hs hnd hbase
  -- The group is rewritten only if there are ranges to write.
  have hgrouped : s.grouped q = s.regrouped base parts := by
    rw [grouped, hgroup, regrouped]
    by_cases hranges : Part.ranges parts = []
    · rw [if_pos hranges, if_pos hranges, grouped]
    · rw [if_neg hranges, if_neg hranges]
      exact Writing.conditions_group _
  obtain ⟨rest, hrest, hread⟩ := hs.read_of_beside hbeside
    (fun e he => hbase e (List.mem_of_mem_filter he))
    fun e he => htext e (List.mem_of_mem_filter he)
  rw [hgrouped] at hrest hread
  exact ⟨q, hparams, rest, hrest, hread⟩

/-- After parts were written to no parameters, the conditions are those of the ranges.  With nothing
in front, the conditions of the ranges are separated as they were joined. -/
theorem Plain.regrouped_empty (hs : s.Plain) (parts : List (Part s)) :
    s.regrouped .empty parts = (Part.ranges parts).flatMap FieldRange.conditions := by
  have hpresent : Writing.present (Params.empty.get? s.groupKey) = [] := rfl
  have hgrouped : s.grouped .empty = [] := rfl
  have hsplit := Wire.splitConditions_commaJoin
    (FieldRange.separable_flatMap_conditions hs (Part.ranges parts)).1
  rw [regrouped, hpresent, hgrouped, List.nil_append, hsplit]
  split
  · next h => rw [h, List.flatMap_nil]
  · rfl

end Scheme

/-! ### Filters -/

namespace Filter

/-- What two filters are compared by: the field, the operator and the value.  Identifiers are left
out, since a filter that is read gets the name of its field. -/
def content (f : Filter) : String × Operator × Value :=
  (f.field, f.operator, f.value)

/-- The filter is of a field of the scheme and has a value that reading can give: of a range field a
range with a bound, of any other field a set value that its operator takes as it is.  A range
without bounds and a value that is not set are not written, so they cannot come back. -/
def Readable (s : Scheme) (f : Filter) : Prop :=
  ∃ c ∈ s.fields, f.config = some c ∧ f.field = c.name ∧
    ((c.kind.isRange = false ∧ f.operator.onWire = true ∧ Wire.Settled f.operator f.value ∧
        f.value.isUnset = false) ∨
      (c.kind.isRange = true ∧ f.operator = .between ∧ ∃ lower upper : Option String,
        f.value = .range (.ofBound lower) (.ofBound upper) ∧
          (lower.isSome = true ∨ upper.isSome = true)))

/-- The filter with the identifier of its field.  Writing does not look at identifiers. -/
def unnamed (f : Filter) : Filter :=
  { f with id := f.field }

variable {s : Scheme}

/-- A filter with a value that reading can give is a part, but for its identifier.  A part holds the
proofs of what makes it come back. -/
theorem Readable.exists_part {f : Filter} (h : f.Readable s) :
    ∃ part : Part s, part.filter = f.unnamed := by
  obtain ⟨field, op, v, config, id⟩ := f
  obtain ⟨c, hc, hconfig, hfield, hkind⟩ := h
  obtain rfl : config = some c := hconfig
  obtain rfl : field = c.name := hfield
  -- The two kinds of readable filters are the two kinds of parts.
  rcases hkind with ⟨hsingle, hwire, hsettled, hset⟩ | ⟨hrange, hop, lower, upper, hv, hgiven⟩
  · exact ⟨.value ⟨c, hc, hsingle, op, hwire, v, hsettled, hset⟩, rfl⟩
  · obtain rfl : op = .between := hop
    obtain rfl : v = .range (.ofBound lower) (.ofBound upper) := hv
    exact ⟨.range ⟨c, hc, hrange, lower, upper, hgiven⟩, rfl⟩

theorem exists_parts {filters : List Filter} (h : ∀ f ∈ filters, f.Readable s) :
    ∃ parts : List (Part s), parts.map Part.filter = filters.map unnamed := by
  apply Part.exists_map_filter
  intro f hf
  obtain ⟨g, hg, rfl⟩ := List.mem_map.1 hf
  exact (h g hg).exists_part

end Filter

/-- Identifiers are not written. -/
theorem Writing.collect_map_unnamed (filters : List Filter) (base : Params) :
    collect (filters.map Filter.unnamed) base = collect filters base := by
  -- Each of the fields that writing looks at is unchanged.
  induction filters generalizing base with
  | nil => rfl
  | cons f filters ih =>
    have hset : f.unnamed.value.isUnset = f.value.isUnset := rfl
    have hown : rangeConditions f.unnamed.field f.unnamed.value = rangeConditions f.field f.value :=
      rfl
    have hentry : parameter? f.unnamed = parameter? f := rfl
    have hop : f.unnamed.operator = f.operator := rfl
    simp only [List.map_cons, collect, hset, hown, hentry, hop, ih]

/-! ### Filters to start with -/

/-- The value that the field starts with makes a filter: it is no tuple of more than two bounds.  Of
any other operator the value is kept as it is. -/
def Field.StartFits (f : Field) : Prop :=
  f.defaultOperator = .between → ∀ items, f.defaultValue.tuple? = some items → items.length ≤ 2

/-- A field makes its filter to start with exactly if the value fits.  It is the only way in which a
field can stop reading from succeeding. -/
theorem Filter.exists_start_iff (f : Field) : (∃ g, Filter.start f = .ok g) ↔ f.StartFits := by
  have hvalue : (∃ g, Filter.start f = .ok g)
      ↔ ∃ v, Filter.valueFor f.defaultOperator f.defaultValue = .ok v := by
    unfold Filter.start Filter.ofField Filter.of
    cases Filter.valueFor f.defaultOperator f.defaultValue <;>
      simp [bind, Except.bind, pure, Except.pure]
  rw [hvalue, Field.StartFits]
  by_cases hop : f.defaultOperator = .between
  · rw [hop]
    cases ht : f.defaultValue.tuple? with
    | none => simp [Filter.valueFor, ht]
    | some items =>
      -- Only three or more items are too many.
      match items with
      | [] => simp [Filter.valueFor, ht, Value.rangeOf?]
      | [_] => simp [Filter.valueFor, ht, Value.rangeOf?]
      | [_, _] => simp [Filter.valueFor, ht, Value.rangeOf?]
      | _ :: _ :: _ :: _ => simp [Filter.valueFor, ht, Value.rangeOf?]
  · have hplain : Filter.valueFor f.defaultOperator f.defaultValue = .ok f.defaultValue := by
      unfold Filter.valueFor
      split
      · next h _ => exact absurd h hop
      · rfl
    simp [hplain, hop]

/-- The fields that are always on and have none of the given names.  They are the ones that start by
themselves. -/
def Scheme.absent (s : Scheme) (names : List String) : List Field :=
  s.fields.filter fun f => f.alwaysOn && !names.contains f.name

/-! ### Reading back -/

namespace Scheme.Plain

variable {s : Scheme}

/-- **What is read of written parts:** the parts, and the filters of the fields that are always on
and have none.  The values come back in front of the ranges, which a reader takes from the group. -/
theorem read_parts (hs : s.Plain) {parts : List (Part s)} (hnd : (parts.map Part.name).Nodup) :
    ∃ p, Writing.params s.groupKey (parts.map Part.filter) .empty = .ok p ∧
      s.read p = ((s.absent (parts.map Part.name)).mapM Filter.start).map fun always =>
        ⟨(Part.values parts).map FieldValue.filter ++ (Part.ranges parts).map FieldRange.filter
          ++ always, .empty⟩ := by
  have hnone : ∀ e ∈ Params.empty.entries, s.named? e.1 = none ∧ e.2.Textual := by
    simp [Params.empty]
  obtain ⟨q, hparams, rest, hrest, hread⟩ := hs.read_params_parts hnd
    (fun e he => (hnone e he).1) fun e he => (hnone e he).2
  obtain ⟨-, hranges, -⟩ := Part.nodup_names hnd
  rw [hs.regrouped_empty] at hrest hread
  rw [FieldRange.groupedFilters_flatMap_conditions hs hranges] at hread
  have hresidue : s.residue ((Part.ranges parts).flatMap FieldRange.conditions) = [] := by
    rw [residue_eq, FieldRange.kept_flatMap_conditions hs, if_pos rfl]
  obtain rfl : rest = .empty := by
    refine Params.ext ?_
    rw [hrest, hresidue]
    rfl
  -- The names of the values and of the ranges together are those of the parts.
  have halways : alwaysOn s (((Part.values parts).map fun v => v.field.name)
      ++ ((Part.ranges parts).map FieldRange.filter).map Filter.field)
        = (s.absent (parts.map Part.name)).mapM Filter.start := by
    apply alwaysOn_congr
    intro f _
    rw [List.map_map]
    exact (Part.map_perm Part.name parts).mem_iff.symm
  rw [Part.filter_ranges_eq_self hnd, halways] at hread
  exact ⟨q, hparams, hread⟩

/-- **Written filters come back.**  The filters that are read are those that were written, the
ranges behind the others, and behind them the filters of the fields that are always on and have
none; nothing is left over.  Reading fails only if such a field starts with more than two bounds. -/
theorem params_reads_back (hs : s.Plain) {filters : List Filter}
    (hnd : (filters.map Filter.field).Nodup) (hread : ∀ f ∈ filters, f.Readable s) :
    ∃ p, Writing.params s.groupKey filters .empty = .ok p ∧
      (s.read p).map (fun r => (r.filters.map Filter.content, r.remaining))
        = ((s.absent (filters.map Filter.field)).mapM Filter.start).map (fun always =>
          (((filters.filter fun f => f.operator != .between)
            ++ (filters.filter fun f => f.operator == .between)
            ++ always).map Filter.content, .empty)) ∧
      ((∃ r, s.read p = .ok r) ↔ ∀ f ∈ s.absent (filters.map Filter.field), f.StartFits) := by
  obtain ⟨parts, hparts⟩ := Filter.exists_parts hread
  have hname : parts.map Part.name = filters.map Filter.field := by
    rw [← Part.map_field_filter, hparts, List.map_map]
    rfl
  -- The filters with an operator in a class are the parts with one, but for the identifiers.
  have hcontent : ∀ keep : Operator → Bool,
      ((parts.map Part.filter).filter fun f => keep f.operator).map Filter.content
        = (filters.filter fun f => keep f.operator).map Filter.content := by
    intro keep
    rw [hparts, List.filter_map, List.map_map]
    rfl
  have hdirect := hcontent (· != .between)
  have hrange := hcontent (· == .between)
  simp only [Part.filter_ne_between, Part.filter_eq_between] at hdirect hrange
  rw [← hname] at hnd
  obtain ⟨p, hparams, hp⟩ := hs.read_parts hnd
  have hwrite : Writing.params s.groupKey filters .empty = .ok p := by
    rw [hparts, Writing.params, Writing.collect_map_unnamed] at hparams
    exact hparams
  refine ⟨p, hwrite, ?_, ?_⟩
  · rw [hp, hname]
    cases (s.absent (filters.map Filter.field)).mapM Filter.start with
    | error e => rfl
    | ok always =>
      simp only [Except.map, List.map_append, hdirect, hrange]
  · have hall : (∃ always, (s.absent (filters.map Filter.field)).mapM Filter.start = .ok always)
        ↔ ∀ f ∈ s.absent (filters.map Filter.field), f.StartFits := by
      rw [exists_mapM_eq_ok_iff]
      simp only [Filter.exists_start_iff]
    rw [← hall, hp, hname]
    cases (s.absent (filters.map Filter.field)).mapM Filter.start <;> simp [Except.map]

end Scheme.Plain

/-- Orders have a name, tags and a date; those that were sent since the beginning of a year are
shown unless other dates are asked for. -/
def Scheme.orders : Scheme where
  fields := [.ofKind .text "name", .ofKind .multiSelect "tags", .ofKind .dateRange "made",
    { Field.ofKind .dateRange "sent" with
      alwaysOn := true, defaultValue := .tuple [.text "2024-01-01"] }]

/-- A range without an upper bound, a text with characters of every layer, and an empty list.  The
quotes, the brackets and the commas have a meaning in a group and in a list. -/
def Filter.ofOrders : List Filter :=
  [⟨"made", .between, .range (.text "(,\"") .null, some (.ofKind .dateRange "made"), "1"⟩,
    ⟨"name", .ilike, .text "a,\"*b\\", some (.ofKind .text "name"), "2"⟩,
    ⟨"tags", .overlaps, .list [], some (.ofKind .multiSelect "tags"), "3"⟩]

theorem Scheme.orders_reads_back :
    ∃ p, Writing.params "and" Filter.ofOrders .empty = .ok p ∧
      (Scheme.orders.read p).map (fun r => (r.filters.map Filter.content, r.remaining))
        = .ok ([("name", .ilike, .text "a,\"*b\\"), ("tags", .overlaps, .list []),
          ("made", .between, .range (.text "(,\"") .null),
          ("sent", .between, .range (.text "2024-01-01") .null)], .empty) := by
  have hs : Scheme.orders.Plain := by decide
  have hnd : (Filter.ofOrders.map Filter.field).Nodup := by decide
  -- One filter after the other: a range with one bound, a text, and a list without items.
  have hread : ∀ f ∈ Filter.ofOrders, f.Readable Scheme.orders := by
    simp only [Filter.ofOrders, List.forall_mem_cons, List.not_mem_nil, false_implies,
      implies_true, and_true]
    refine ⟨⟨.ofKind .dateRange "made", by simp [Scheme.orders], rfl, rfl, .inr ?_⟩,
      ⟨.ofKind .text "name", by simp [Scheme.orders], rfl, rfl, .inl ?_⟩,
      ⟨.ofKind .multiSelect "tags", by simp [Scheme.orders], rfl, rfl, .inl ?_⟩⟩
    · exact ⟨rfl, rfl, some "(,\"", none, rfl, .inl rfl⟩
    · exact ⟨rfl, rfl, ⟨rfl, fun _ => rfl, by simp⟩, rfl⟩
    · exact ⟨rfl, rfl, ⟨rfl, [], rfl⟩, rfl⟩
  obtain ⟨p, hp, hback, -⟩ := hs.params_reads_back hnd hread
  exact ⟨p, hp, hback.trans rfl⟩

/-- A scheme whose only field is always on and starts with three bounds.  Nothing forbids this when
the field is made; only the filter of the field cannot be made. -/
def Scheme.threeBounds : Scheme where
  fields := [{ Field.ofKind .dateRange "made" with
    alwaysOn := true, defaultValue := .tuple [.int 1, .int 2, .int 3] }]

/-- Without a condition on start values, written filters need not come back. -/
theorem Scheme.threeBounds_does_not_read_back :
    ¬ ∀ (s : Scheme) (filters : List Filter), s.Plain → (filters.map Filter.field).Nodup →
      (∀ f ∈ filters, f.Readable s) →
      ∃ p r, Writing.params s.groupKey filters .empty = .ok p ∧ s.read p = .ok r := by
  intro h
  obtain ⟨p, r, hp, hr⟩ := h Scheme.threeBounds [] (by decide) (by decide) (by simp)
  obtain rfl : Params.empty = p := Except.ok.inj hp
  have hfail : Scheme.threeBounds.read .empty = .error .badCall := rfl
  rw [hfail] at hr
  exact absurd hr (by simp)

end UrlFilter
