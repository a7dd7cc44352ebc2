import UrlFilter.Proofs.CustomKey
import UrlFilter.Proofs.Presence

namespace UrlFilter

open Reading

/-!
# Reading divides the parameters

Each parameter belongs to a field, groups conditions or is left over, and no field has two filters:
of several parameters only the first one counts, then the grouping parameter, then the value that
the field starts with.  The values may be any.

* `Scheme.askedFirst`, `Scheme.groupedAside`, `Scheme.left` — the first parameters of fields, the
  ranges of the grouping parameter beside them, and what is left over.
* `Scheme.read_eq_ok_iff` — what is read of any parameters.
* `Scheme.read_divides` — the filters are of different fields, and what is of no field is left over.
-/

namespace Reading

variable {s : Scheme}

/-- The filter of a parameter has the name and the settings of its field.  This holds of both ways
in which a filter is made: from the bounds of a range and from the last value of any other field. -/
theorem of_direct? {c : Field} {raw : Value} {f : Filter} (h : direct? c raw = .ok (some f)) :
    f.field = c.name ∧ f.config = some c := by
  unfold direct? at h
  -- A range takes all values together, any other field only the last one.
  split at h
  · exact of_rangeFilter? (Except.ok.inj h)
  · cases hlast : (values raw).getLast? with
    | none => simp [hlast] at h
    | some v =>
      cases hmade : Filter.ofField c (operatorAndValue c v).1 (operatorAndValue c v).2 with
      | error e => simp [hlast, hmade, bind, Except.bind] at h
      | ok g =>
        obtain rfl : g = f := by
          simpa [hlast, hmade, bind, Except.bind, pure, Except.pure] using h
        exact Filter.of_ofField hmade

/-- Each filter that parameters make is of the field of one of them.  Parameters that ask for
nothing make no filter, which is why the filters are fewer than the parameters. -/
theorem exists_of_mem_made {entries : List (Field × Value)} {made : List (Option Filter)}
    (h : entries.mapM (fun e => direct? e.1 e.2) = .ok made) {f : Filter}
    (hf : f ∈ made.reduceOption) : ∃ e ∈ entries, f.field = e.1.name ∧ f.config = some e.1 := by
  obtain ⟨e, he, hmade⟩ := exists_of_mem_mapM h (List.reduceOption_mem_iff.1 hf)
  exact ⟨e, he, of_direct? hmade⟩

/-- The filters that parameters make come in the order of the parameters.  So different parameters
make filters of different names, as soon as the parameters are of different names themselves. -/
theorem field_made_sublist {entries : List (Field × Value)} {made : List (Option Filter)}
    (h : entries.mapM (fun e => direct? e.1 e.2) = .ok made) :
    (made.reduceOption.map Filter.field).Sublist (entries.map fun e => e.1.name) := by
  rw [mapM_eq_ok_iff] at h
  -- One parameter makes at most one filter, so the names are dropped or kept one by one.
  induction entries generalizing made with
  | nil =>
    obtain rfl : made = [] := by simpa [eq_comm] using h
    exact List.Sublist.refl _
  | cons e entries ih =>
    obtain ⟨f?, rest, rfl, hf, hrest⟩ := List.map_eq_cons_iff.1 h.symm
    have hsub := ih hrest.symm
    cases f? with
    | none =>
      rw [List.reduceOption_cons_of_none]
      exact hsub.cons _
    | some f =>
      rw [List.reduceOption_cons_of_some, List.map_cons, List.map_cons, (of_direct? hf.symm).1]
      exact hsub.cons_cons _

/-- The start values of fields come in the order of the fields.  Here no field is passed over: a
field either starts with a filter or stops the reading with an error. -/
theorem map_field_of_mapM_start {fields : List Field} {always : List Filter}
    (h : fields.mapM Filter.start = .ok always) :
    always.map Filter.field = fields.map (·.name) := by
  rw [mapM_eq_ok_iff] at h
  -- The filter of each field has its name, so the two lists of names grow together.
  induction fields generalizing always with
  | nil =>
    obtain rfl : always = [] := by simpa [eq_comm] using h
    rfl
  | cons c fields ih =>
    obtain ⟨f, rest, rfl, hf, hrest⟩ := List.map_eq_cons_iff.1 h.symm
    rw [List.map_cons, List.map_cons, ih hrest.symm, (Filter.of_start hf.symm).1]

end Reading

/-! ### Reading any parameters -/

namespace Scheme

variable {s : Scheme}

/-- A key is of no field exactly if no field has it as its name or as the name of its parameter.
The two ways in which a field is asked for are looked up one after the other, so both must fail. -/
theorem fieldOf?_eq_none_iff {key : String} :
    s.fieldOf? key = none ↔ ∀ c ∈ s.fields, c.name ≠ key ∧ c.customKey? ≠ some key := by
  rw [fieldOf?, Option.orElse_eq_orElse, Option.orElse_eq_or, Option.or_eq_none_iff, keyed?, named?,
    List.find?_eq_none, List.find?_eq_none]
  simp only [List.mem_reverse, beq_iff_eq]
  constructor
  · exact fun h c hc => ⟨h.2 c hc, h.1 c hc⟩
  · exact fun h => ⟨fun c hc => (h c hc).2, fun c hc => (h c hc).1⟩

/-- The first parameter of each field, in order.  A later parameter of the same field is dropped,
also when the first one asks for nothing. -/
def askedFirst (s : Scheme) (p : Params) : List (Field × Value) :=
  firstOfEach [] (fieldEntries s (s.beside p))

/-- The ranges of the grouping parameter whose fields have no parameter.  A range of the group whose
field has a parameter is dropped, even where that parameter makes no filter. -/
def groupedAside (s : Scheme) (p : Params) : List Filter :=
  (groupedFilters s (s.grouped p)).filter fun f =>
    !((s.askedFirst p).map fun e => e.1.name).contains f.field

/-- The names of the fields that have a parameter or a range in the grouping parameter.  These
fields no longer start by themselves. -/
def met (s : Scheme) (p : Params) : List String :=
  ((s.askedFirst p).map fun e => e.1.name) ++ (s.groupedAside p).map Filter.field

/-- The parameters that are left over: those of no field, and behind them what is left of the
grouping parameter. -/
def left (s : Scheme) (p : Params) : Params :=
  (s.withoutGroup p).1.filterKeys fun key => (s.fieldOf? key).isNone

variable (hkey : s.fieldOf? s.groupKey = none)

include hkey

/-- What is left of the grouping parameter is of no field.  The conditions that stay in the group
are put back under its key, and no field is asked for by that key. -/
theorem fieldEntries_withoutGroup (p : Params) :
    fieldEntries s (s.withoutGroup p).1.entries = fieldEntries s (s.beside p) := by
  have hrest : fieldEntries s (s.residue (s.grouped p)) = [] := by
    apply fieldEntries_eq_nil
    intro e he
    rw [(of_mem_residue he).1, hkey]
  rw [(withoutGroup_eq s p).1, fieldEntries, List.filterMap_append, ← fieldEntries, ← fieldEntries,
    hrest, List.append_nil]

/-- **What is left over.**  The group stands last, wherever it stood among the parameters. -/
theorem entries_left (p : Params) :
    (s.left p).entries = ((s.beside p).filter fun e => (s.fieldOf? e.1).isNone)
      ++ s.residue (s.grouped p) :=
  filter_withoutGroup hkey p

/-- **What is read of any parameters:** the filters of the first parameter of each field, the ranges
of the grouping parameter beside them, and the start values of the fields that are always on and in
neither.  Reading fails only if one of these filters cannot be made. -/
theorem read_eq_ok_iff {p : Params} {r : Reading} :
    s.read p = .ok r ↔ ∃ made always,
      (s.askedFirst p).mapM (fun e => direct? e.1 e.2) = .ok made ∧
        (s.absent (s.met p)).mapM Filter.start = .ok always ∧
        r = ⟨made.reduceOption ++ s.groupedAside p ++ always, s.left p⟩ := by
  have hdirect := directFrom_eq_map s [] (s.withoutGroup p).1.entries
  rw [fieldEntries_withoutGroup hkey, ← askedFirst, List.append_nil] at hdirect
  -- Reading collects the names backwards, which makes no difference to what it contains.
  have haside : ((groupedFilters s (s.grouped p)).filter fun f =>
      !((s.askedFirst p).map fun e => e.1.name).reverse.contains f.field) = s.groupedAside p := by
    simp only [groupedAside, List.contains_reverse]
  have halways : alwaysOn s (((s.askedFirst p).map fun e => e.1.name).reverse
      ++ (groupedFilters s (s.grouped p)).map Filter.field)
        = (s.absent (s.met p)).mapM Filter.start := by
    apply alwaysOn_congr
    intro c _
    rw [met, List.mem_append, List.mem_append, List.mem_reverse]
    -- A range that is dropped has its name among those of the parameters.
    by_cases hasked : c.name ∈ (s.askedFirst p).map fun e => e.1.name
    · simp only [hasked, true_or]
    · simp only [hasked, false_or, groupedAside, List.mem_map, List.mem_filter]
      constructor
      · rintro ⟨f, hf, hname⟩
        exact ⟨f, ⟨hf, by simpa [hname] using hasked⟩, hname⟩
      · rintro ⟨f, ⟨hf, -⟩, hname⟩
        exact ⟨f, hf, hname⟩
  rw [read_eq_bind, hdirect]
  -- Of the steps only two can fail, the first parameters and the values to start with.
  cases (s.askedFirst p).mapM fun e => direct? e.1 e.2 with
  | error e => simp [Except.bind, Except.map]
  | ok made =>
    simp only [Except.bind, Except.map, haside, halways]
    cases (s.absent (s.met p)).mapM Filter.start with
    | error e => simp
    | ok always => simp [left, eq_comm]

omit hkey

/-- The ranges of the grouping parameter are of fields without a parameter.  A group asks for ranges
only, so the field is one that takes bounds. -/
theorem of_mem_groupedAside {p : Params} {f : Filter} (h : f ∈ s.groupedAside p) :
    f.field ∉ ((s.askedFirst p).map fun e => e.1.name) ∧
      ∃ c ∈ s.fields, c.kind.isRange = true ∧ f.config = some c ∧ f.field = c.name := by
  obtain ⟨hf, hnew⟩ := List.mem_filter.1 h
  obtain ⟨c, bounds, hnamed, hrange, hfilter, -⟩ := exists_of_mem_groupedFilters hf
  exact ⟨by simpa using hnew, c, (mem_of_named? hnamed).1, hrange, (of_rangeFilter? hfilter).2,
    (of_rangeFilter? hfilter).1⟩

/-- Filters that are read are of fields of the scheme.  Wherever a filter comes from, it carries the
settings of the field that it is named for. -/
theorem exists_field_of_mem_divided {p : Params} {made : List (Option Filter)}
    {always : List Filter}
    (hmade : (s.askedFirst p).mapM (fun e => direct? e.1 e.2) = .ok made)
    (halways : (s.absent (s.met p)).mapM Filter.start = .ok always) {f : Filter}
    (hf : f ∈ made.reduceOption ++ s.groupedAside p ++ always) :
    ∃ c ∈ s.fields, f.config = some c ∧ f.field = c.name := by
  rw [List.append_assoc, List.mem_append, List.mem_append] at hf
  -- The filter is one of a parameter, one of the group or one to start with.
  rcases hf with hf | hf | hf
  · obtain ⟨e, he, hname, hconfig⟩ := exists_of_mem_made hmade hf
    obtain ⟨key, hfield, -⟩ := mem_fieldEntries_iff.1 (mem_of_mem_firstOfEach he)
    exact ⟨e.1, mem_of_fieldOf? hfield, hconfig, hname⟩
  · obtain ⟨-, c, hc, -, hconfig, hname⟩ := of_mem_groupedAside hf
    exact ⟨c, hc, hconfig, hname⟩
  · obtain ⟨c, hc, hstart⟩ := exists_of_mem_mapM halways hf
    exact ⟨c, List.mem_of_mem_filter hc, (Filter.of_start hstart).2, (Filter.of_start hstart).1⟩

/-- No two filters that are read are of fields of one name.  Each of the three parts has different
names by its own construction, and each part passes over the names of those before it. -/
theorem nodup_field_divided (hnd : (s.fields.map (·.name)).Nodup) {p : Params}
    {made : List (Option Filter)} {always : List Filter}
    (hmade : (s.askedFirst p).mapM (fun e => direct? e.1 e.2) = .ok made)
    (halways : (s.absent (s.met p)).mapM Filter.start = .ok always) :
    ((made.reduceOption ++ s.groupedAside p ++ always).map Filter.field).Nodup := by
  have hasked := field_made_sublist hmade
  have hstart := map_field_of_mapM_start halways
  rw [List.map_append, List.map_append, hstart]
  -- The names within each of the three parts differ, and so do those of each part from the parts
  -- before.
  refine List.Nodup.append (List.Nodup.append ?_ ?_ ?_) ?_ ?_
  · exact (nodup_firstOfEach [] _).sublist hasked
  · exact (nodup_field_groupedFilters _).sublist ((List.filter_sublist).map _)
  · -- A range of the group is kept only beside the parameters.
    intro name hdirect hgrouped
    obtain ⟨f, hf, rfl⟩ := List.mem_map.1 hgrouped
    exact (of_mem_groupedAside hf).1 (hasked.subset hdirect)
  · exact hnd.sublist ((List.filter_sublist).map _)
  · -- A field starts by itself only if it was not met.
    intro name hmet habsent
    obtain ⟨c, hc, rfl⟩ := List.mem_map.1 habsent
    have hnew : c.name ∉ s.met p := (by simpa using (List.mem_filter.1 hc).2 :
      c.alwaysOn = true ∧ c.name ∉ s.met p).2
    rcases List.mem_append.1 hmet with h | h
    · exact hnew (List.mem_append_left _ (hasked.subset h))
    · exact hnew (List.mem_append_right _ h)

/-- Beside what is left of the grouping parameter, the parameters of no field are left over.  What
is left of the group stands under its own key, so setting this aside leaves the others. -/
theorem beside_left (hkey : s.fieldOf? s.groupKey = none) (p : Params) :
    s.beside (s.left p) = (s.beside p).filter fun e => (s.fieldOf? e.1).isNone := by
  -- The residue has the key of the group, so none of it stands beside the group.
  have hrest : ((s.residue (s.grouped p)).filter fun e => e.1 != s.groupKey) = [] := by
    rw [List.filter_eq_nil_iff]
    intro e he
    simp [(of_mem_residue he).1]
  rw [beside, entries_left hkey, List.filter_append, hrest, List.append_nil, List.filter_eq_self]
  intro e he
  rw [bne_iff_ne]
  exact ne_groupKey_of_mem_beside (List.mem_of_mem_filter he)

/-- **Reading divides the parameters.**  The filters are those of the first parameter of each field,
in order, behind them the ranges of the grouping parameter beside these, and behind them the start
values of the fields that are always on and in neither.  They are of different fields, each with the
settings of its own, and beside the grouping parameter exactly the parameters that are of no field
are left over, as they were and in order. -/
theorem read_divides (hnd : (s.fields.map (·.name)).Nodup)
    (hkeys : ∀ c ∈ s.fields, c.name ≠ s.groupKey ∧ c.customKey? ≠ some s.groupKey) (p : Params) :
    (∀ r, s.read p = .ok r ↔ ∃ made always,
      (s.askedFirst p).mapM (fun e => direct? e.1 e.2) = .ok made ∧
        (s.absent (s.met p)).mapM Filter.start = .ok always ∧
        r = ⟨made.reduceOption ++ s.groupedAside p ++ always, s.left p⟩) ∧
    (∀ f ∈ s.groupedAside p, ∃ c ∈ s.fields, c.kind.isRange = true ∧ f.config = some c) ∧
    ∀ r, s.read p = .ok r → (r.filters.map Filter.field).Nodup ∧
      (∀ f ∈ r.filters, ∃ c ∈ s.fields, f.config = some c ∧ f.field = c.name) ∧
      s.beside r.remaining
        = (s.beside p).filter fun e => ∀ c ∈ s.fields, c.name ≠ e.1 ∧ c.customKey? ≠ some e.1 := by
  have hkey : s.fieldOf? s.groupKey = none := fieldOf?_eq_none_iff.2 hkeys
  have hread : ∀ r, s.read p = .ok r ↔ _ := fun r => read_eq_ok_iff hkey
  refine ⟨hread, fun f hf => ?_, fun r hr => ?_⟩
  · obtain ⟨-, c, hc, hrange, hconfig, -⟩ := of_mem_groupedAside hf
    exact ⟨c, hc, hrange, hconfig⟩
  obtain ⟨made, always, hmade, halways, rfl⟩ := (hread r).1 hr
  refine ⟨nodup_field_divided hnd hmade halways,
    fun f hf => exists_field_of_mem_divided hmade halways hf, ?_⟩
  rw [beside_left hkey]
  apply List.filter_congr
  intro e _
  rw [Bool.eq_iff_iff, Option.isNone_iff_eq_none, fieldOf?_eq_none_iff, decide_eq_true_iff]

/-- A remark on a letter, which is always on.  It has no value to start with, so it starts with a
filter that holds of every letter. -/
def remark : Field :=
  { Field.ofKind .text "remark" with alwaysOn := true }

/-- Letters have a remark, a title, a state and two dates. -/
def post : Scheme where
  fields := [remark, title, .ofKind .text "state", made, .ofKind .dateRange "sent"]

/-- Parameters of fields and of none, with a group between them. -/
def mixed : Params :=
  .ofList [("page", .text "2"), ("state", .text "eq.open"), ("search", .text "ink"),
    ("and", .text "(sent.lte.3,colour.eq.red,made.gte.1)"), ("title", .text "eq.pen"),
    ("sort", .text "up")]

/-- The second parameter of a title counts for nothing, and the group stays without its bounds. -/
theorem mixed_read_divides :
    ∃ r, post.read mixed = .ok r ∧
      r.filters.map Filter.field = ["state", "title", "sent", "made", "remark"] ∧
      (r.filters.map Filter.field).Nodup ∧
      post.beside r.remaining = [("page", .text "2"), ("sort", .text "up")] ∧
      r.remaining.get? "and" = some (.text "(colour.eq.red)") := by
  obtain ⟨hread, -, hdivided⟩ := read_divides (s := post) (by decide) (by decide) mixed
  -- That reading succeeds follows from the first part, as each of its steps computes.
  obtain ⟨r, hr⟩ : ∃ r, post.read mixed = .ok r := ⟨_, (hread _).2 ⟨_, _, rfl, rfl, rfl⟩⟩
  obtain ⟨hnd, -, hleft⟩ := hdivided r hr
  obtain ⟨made, always, hmade, halways, rfl⟩ := (hread r).1 hr
  obtain rfl := Except.ok.inj hmade
  obtain rfl := Except.ok.inj halways
  exact ⟨_, hr, rfl, hnd, hleft, rfl⟩

end Scheme

end UrlFilter
