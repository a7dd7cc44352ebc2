import UrlFilter.Proofs.RoundTrip

namespace UrlFilter

open Reading

/-!
# Which fields have a filter

The first parameter of a field decides whether the field has a filter, even where it asks for
nothing; only a field without a parameter falls back on the grouping parameter and on the value that
it starts with.

* `Field.answeredBy` — a parameter gives a field something to filter by.
* `Scheme.firstOf?` — the first parameter of a field.
* `Scheme.BoundedBy` — a condition of the grouping parameter bounds a field.
* `Reading.of_directFrom_textual` — the fields that have filters of their own parameters.
* `Scheme.exists_mem_filters_iff` — the fields that have a filter.
-/

/-! ### Parameters of fields -/

/-- The parameter gives the field something to filter by: a range field a bound, any other field a
value.  A bound is one that names its operator; any value at all does for the other fields, an empty
text included. -/
def Field.answeredBy (c : Field) (raw : Value) : Bool :=
  if c.kind.isRange then (values raw).any fun v => (bound? v).isSome else !(values raw).isEmpty

/-- A parameter makes a filter exactly if it gives the field something to filter by. -/
theorem Field.isSome_directFilter? (c : Field) (raw : Value) :
    (directFilter? c raw).isSome = c.answeredBy raw := by
  unfold directFilter? answeredBy
  by_cases hrange : c.kind.isRange = true
  · rw [if_pos hrange, if_pos hrange, rangeFilter?]
    -- A range has a filter as soon as one of its values is a bound.
    have hbounds : ((values raw).filterMap bound?).isEmpty
        = !(values raw).any fun v => (bound? v).isSome := by
      rw [Bool.eq_iff_iff]
      simp [List.filterMap_eq_nil_iff]
    rw [hbounds]
    cases (values raw).any fun v => (bound? v).isSome <;> rfl
  · rw [if_neg hrange, if_neg hrange]
    cases values raw with
    | nil => rfl
    | cons v vs => simp [List.getLast?_cons]

theorem Reading.field_of_directFilter? {c : Field} {raw : Value} {f : Filter}
    (h : directFilter? c raw = some f) : f.field = c.name := by
  unfold directFilter? at h
  split at h
  · exact (of_rangeFilter? h).1
  · obtain ⟨v, -, rfl⟩ := Option.map_eq_some_iff.1 h
    rfl

namespace Scheme

/-- The first of some parameters that filters a field of the given name, with the field.  The name
under which it stands may be that of the field or the one of its custom parameter. -/
def firstOf? (s : Scheme) (name : String) (entries : List (String × Value)) :
    Option (Field × Value) :=
  entries.findSome? fun e => ((s.fieldOf? e.1).filter fun d => d.name == name).map fun d => (d, e.2)

variable {s : Scheme} {name : String}

theorem firstOf?_eq_find? (name : String) (entries : List (String × Value)) :
    s.firstOf? name entries = (fieldEntries s entries).find? fun d => d.1.name == name := by
  -- Looking for the field while walking or after it is the same, parameter by parameter.
  induction entries with
  | nil => rfl
  | cons e entries ih =>
    rw [fieldEntries, List.filterMap_cons, ← fieldEntries, firstOf?, List.findSome?_cons,
      ← firstOf?, ih]
    cases s.fieldOf? e.1 with
    | none => rfl
    | some d => by_cases hname : d.name = name <;> simp [hname, Option.filter]

/-- The first parameter of a field is one of that field.  It is found under a key that asks for the
field. -/
theorem of_firstOf?_eq_some {entries : List (String × Value)} {d : Field} {raw : Value}
    (h : s.firstOf? name entries = some (d, raw)) :
    d.name = name ∧ ∃ key, s.fieldOf? key = some d ∧ (key, raw) ∈ entries := by
  rw [firstOf?_eq_find?] at h
  exact ⟨by simpa using List.find?_some h, mem_fieldEntries_iff.1 (List.mem_of_find?_eq_some h)⟩

/-- The field of a parameter is one of the scheme.  It is found either by the name of its parameter
or by its own. -/
theorem mem_of_fieldOf? {key : String} {c : Field} (h : s.fieldOf? key = some c) :
    c ∈ s.fields := by
  rw [fieldOf?, Option.orElse_eq_orElse, Option.orElse_eq_or, Option.or_eq_some_iff] at h
  rcases h with h | ⟨-, h⟩
  · rw [keyed?] at h
    simpa using List.mem_of_find?_eq_some h
  · exact (mem_of_named? h).1

end Scheme

namespace Reading

variable {s : Scheme} {entries : List (String × Value)} {seen : List String}

/-- **The filters of the parameters of fields.**  A name counts as seen as soon as a field of that
name has a parameter, and the one filter of that name is made by the first such parameter, if it
makes one. -/
theorem of_directFrom_textual (htext : ∀ e ∈ entries, e.2.Textual) {filters : List Filter}
    {after : List String} (h : directFrom s seen entries = .ok (filters, after)) (name : String) :
    (name ∈ after ↔ name ∈ seen ∨ (s.firstOf? name entries).isSome = true) ∧
      ∀ f, f ∈ filters ∧ f.field = name ↔ name ∉ seen ∧
        ∃ d raw, s.firstOf? name entries = some (d, raw) ∧ directFilter? d raw = some f := by
  rw [directFrom_textual htext] at h
  obtain ⟨rfl, rfl⟩ := Prod.mk.inj (Except.ok.inj h)
  simp only [Scheme.firstOf?_eq_find?]
  constructor
  · -- A name is seen at its first parameter, whatever that parameter makes.
    rw [List.mem_append, List.mem_reverse, or_comm]
    by_cases hold : name ∈ seen
    · simp [hold]
    · rw [or_iff_right hold, or_iff_right hold, Option.isSome_iff_exists, List.mem_map]
      constructor
      · rintro ⟨e, he, rfl⟩
        exact ⟨e, (mem_firstOfEach_iff.1 he).2⟩
      · rintro ⟨e, he⟩
        obtain rfl : e.1.name = name := by simpa using List.find?_some he
        exact ⟨e, mem_firstOfEach_iff.2 ⟨hold, he⟩, rfl⟩
  · -- A filter belongs to the parameter that is the first one of its name.
    intro f
    rw [List.mem_filterMap]
    constructor
    · rintro ⟨⟨e, he, hf⟩, rfl⟩
      rw [field_of_directFilter? hf]
      exact ⟨(mem_firstOfEach_iff.1 he).1, e.1, e.2, (mem_firstOfEach_iff.1 he).2, hf⟩
    · rintro ⟨hnew, d, raw, hfirst, hf⟩
      obtain rfl : d.name = name := by simpa using List.find?_some hfirst
      exact ⟨⟨(d, raw), mem_firstOfEach_iff.2 ⟨hnew, hfirst⟩, hf⟩, field_of_directFilter? hf⟩

end Reading

/-! ### Reading as a whole -/

namespace Scheme

variable {s : Scheme}

/-- **What reading texts gives,** whatever the scheme is: the filters of parameters, the ranges of
the grouping parameter whose fields have no parameter, and the start values of the fields that are
always on and in neither.  The four lists are given by what they hold, so that the results below
need not look at how reading goes through the parameters. -/
theorem exists_read_eq {p : Params} (htext : ∀ e ∈ s.beside p, e.2.Textual) :
    ∃ (direct : List Filter) (seen after : List String) (rest : Params),
      (∀ name, name ∈ seen ↔ (s.firstOf? name (s.withoutGroup p).1.entries).isSome = true) ∧
      (∀ name f, f ∈ direct ∧ f.field = name ↔ ∃ d raw,
        s.firstOf? name (s.withoutGroup p).1.entries = some (d, raw) ∧
          directFilter? d raw = some f) ∧
      (∀ name, name ∈ after ↔
        name ∈ seen ∨ ∃ f ∈ groupedFilters s (s.grouped p), f.field = name) ∧
      ∀ r, s.read p = .ok r ↔ ∃ always, alwaysOn s after = .ok always ∧
        r = ⟨direct ++ ((groupedFilters s (s.grouped p)).filter fun f => !seen.contains f.field)
          ++ always, rest⟩ := by
  have htexts := textual_withoutGroup htext
  obtain ⟨direct, seen, hdirect⟩ := exists_directFrom (s := s) htexts []
  have hspec := of_directFrom_textual htexts hdirect
  refine ⟨direct, seen, seen ++ (groupedFilters s (s.grouped p)).map Filter.field,
    (s.withoutGroup p).1.filterKeys fun key => (s.fieldOf? key).isNone, fun name => ?_,
    fun name f => ?_, fun name => ?_, fun r => ?_⟩
  · simpa using (hspec name).1
  · simpa using (hspec name).2 f
  · rw [List.mem_append, List.mem_map]
  · rw [read_eq_bind, hdirect]
    simp only [Except.bind]
    -- On texts only the start values can fail.
    cases alwaysOn s (seen ++ (groupedFilters s (s.grouped p)).map Filter.field) <;>
      simp [Except.map, eq_comm]

/-- Only fields that are always on and not seen start by themselves.  A start value bears the name
of its field. -/
theorem exists_of_mem_alwaysOn {seen : List String} {always : List Filter}
    (h : alwaysOn s seen = .ok always) {f : Filter} (hf : f ∈ always) :
    ∃ c ∈ s.fields, c.alwaysOn = true ∧ c.name ∉ seen ∧ f.field = c.name := by
  obtain ⟨c, hc, hstart⟩ := exists_of_mem_mapM h hf
  obtain ⟨hmem, hnew⟩ := List.mem_filter.1 hc
  obtain ⟨hon, hseen⟩ : c.alwaysOn = true ∧ c.name ∉ seen := by simpa using hnew
  exact ⟨c, hmem, hon, hseen, (Filter.of_start hstart).1⟩

/-- **The first parameter of a field decides:** the filters of that name are those that it makes.
If it makes none there is none, as neither the group nor a start value fills the gap. -/
theorem mem_filters_iff_of_firstOf? {p : Params} (htext : ∀ e ∈ s.beside p, e.2.Textual)
    {r : Reading} (hread : s.read p = .ok r) {name : String} {d : Field} {raw : Value}
    (hfirst : s.firstOf? name (s.withoutGroup p).1.entries = some (d, raw)) (f : Filter) :
    f ∈ r.filters ∧ f.field = name ↔ directFilter? d raw = some f := by
  obtain ⟨direct, seen, after, rest, hseen, hdirect, hafter, heq⟩ := exists_read_eq htext
  have hold : name ∈ seen := by simp [hseen, hfirst]
  have hmade : f ∈ direct ∧ f.field = name ↔ directFilter? d raw = some f := by
    simp [hdirect, hfirst]
  obtain ⟨always, halways, rfl⟩ := (heq r).1 hread
  rw [← hmade, List.append_assoc, List.mem_append, or_and_right, or_iff_left_iff_imp]
  -- No filter of the group, and no start value, is of a field that was seen.
  rintro ⟨hf, rfl⟩
  rcases List.mem_append.1 hf with hf | hf
  · have hnew := (List.mem_filter.1 hf).2
    simp [hold] at hnew
  · obtain ⟨c, -, -, hnew, hfield⟩ := exists_of_mem_alwaysOn halways hf
    rw [hfield] at hold
    exact absurd ((hafter c.name).2 (.inl hold)) hnew

/-! ### Schemes without repeated names -/

/-- A condition of the grouping parameter bounds the field.  The condition must be written as one
bound of a field that takes bounds. -/
def BoundedBy (s : Scheme) (c : Field) (p : Params) : Prop :=
  ∃ condition ∈ s.grouped p, ∃ b, groupedBound? s condition = some (c, b)

variable (hnd : (s.fields.map (·.name)).Nodup)

include hnd

/-- A field has a filter of the grouping parameter exactly if this bounds it.  Here different fields
have different names, so that the filter of the name is a filter of the field. -/
theorem exists_mem_grouped_iff {c : Field} (hc : c ∈ s.fields) (p : Params) :
    (∃ f ∈ groupedFilters s (s.grouped p), f.field = c.name) ↔ s.BoundedBy c p := by
  constructor
  · rintro ⟨f, hf, hfield⟩
    simp only [groupedFilters, List.mem_filterMap, List.mem_eraseDups, List.mem_map,
      Option.bind_eq_bind, Option.bind_eq_some_iff] at hf
    obtain ⟨name, ⟨⟨g, b⟩, ⟨condition, hmem, hb⟩, rfl⟩, d, hd, hfilter⟩ := hf
    obtain ⟨parts, op, -, hg, -⟩ := groupedBound?_eq_some_iff.1 hb
    -- The filter has the name of the field that the condition bounds.
    have hname : g.name = c.name := by
      rw [← hfield, (of_rangeFilter? hfilter).1, (mem_of_named? hd).2]
    obtain rfl := List.inj_on_of_nodup_map hnd (mem_of_named? hg).1 hc hname
    exact ⟨condition, hmem, b, hb⟩
  · rintro ⟨condition, hmem, b, hb⟩
    exact exists_mem_groupedFilters hmem hb

/-- Of the fields that are always on, those that were not seen have a filter.  What was seen counts
even where it gave no filter. -/
theorem exists_mem_alwaysOn_iff {c : Field} (hc : c ∈ s.fields) {seen : List String}
    {always : List Filter} (h : alwaysOn s seen = .ok always) :
    (∃ f ∈ always, f.field = c.name) ↔ c.alwaysOn = true ∧ c.name ∉ seen := by
  constructor
  · rintro ⟨f, hf, hfield⟩
    obtain ⟨d, hd, hon, hnew, hname⟩ := exists_of_mem_alwaysOn h hf
    obtain rfl := List.inj_on_of_nodup_map hnd hd hc (hname.symm.trans hfield)
    exact ⟨hon, hnew⟩
  · rintro ⟨hon, hnew⟩
    have hmem : c ∈ s.fields.filter fun f => f.alwaysOn && !seen.contains f.name := by
      simp [hc, hon, hnew]
    obtain ⟨f, hf, hstart⟩ := exists_mem_of_mapM h hmem
    exact ⟨f, hf, (Filter.of_start hstart).1⟩

/-- **Which fields have a filter.**  Reading texts fails only if a field that is always on, has no
parameter and is not bounded in the grouping parameter starts with more than two bounds.  If it does
not fail, a field with a parameter has a filter exactly if the first one gives it something to
filter by, and any other field exactly if it is always on or bounded in the grouping parameter.  So
a parameter that asks for nothing hides both the start value of its field and its bounds in the
grouping parameter. -/
theorem exists_mem_filters_iff {p : Params} (htext : ∀ e ∈ s.beside p, e.2.Textual) :
    ((∃ r, s.read p = .ok r) ↔ ∀ c ∈ s.fields, c.alwaysOn = true →
      s.firstOf? c.name (s.withoutGroup p).1.entries = none → ¬ s.BoundedBy c p → c.StartFits) ∧
    ∀ r, s.read p = .ok r → ∀ c ∈ s.fields, ((∃ f ∈ r.filters, f.field = c.name) ↔
      (∃ raw, s.firstOf? c.name (s.withoutGroup p).1.entries = some (c, raw) ∧
        c.answeredBy raw = true) ∨
      s.firstOf? c.name (s.withoutGroup p).1.entries = none ∧
        (c.alwaysOn = true ∨ s.BoundedBy c p)) := by
  obtain ⟨direct, seen, after, rest, hseen, hdirect, hafter, hread⟩ := exists_read_eq htext
  -- In terms of the parameters, a field is new to the start values if neither source mentions it.
  have hnew : ∀ c ∈ s.fields, c.name ∉ after ↔
      s.firstOf? c.name (s.withoutGroup p).1.entries = none ∧ ¬ s.BoundedBy c p := by
    intro c hc
    rw [hafter, exists_mem_grouped_iff hnd hc, hseen, not_or, Bool.not_eq_true,
      Option.isSome_eq_false_iff, Option.isNone_iff_eq_none]
  constructor
  · -- The filters of texts are always made, so reading fails exactly where a start value does.
    have hok : (∃ r, s.read p = .ok r) ↔ ∃ always, alwaysOn s after = .ok always := by
      simp [hread]
    rw [hok, alwaysOn, exists_mapM_eq_ok_iff]
    simp only [Filter.exists_start_iff, List.mem_filter, Bool.and_eq_true, Bool.not_eq_true',
      List.contains_eq_mem, decide_eq_false_iff_not]
    constructor
    · intro h c hc hon hnone hfree
      exact h c ⟨hc, hon, (hnew c hc).2 ⟨hnone, hfree⟩⟩
    · rintro h c ⟨hc, hon, hname⟩
      exact h c hc hon ((hnew c hc).1 hname).1 ((hnew c hc).1 hname).2
  · intro r hr c hc
    -- With a parameter the first one decides; without one, the group and the start value do.
    cases hfirst : s.firstOf? c.name (s.withoutGroup p).1.entries with
    | some first =>
      obtain ⟨d, raw⟩ := first
      obtain ⟨hname, key, hfield, -⟩ := of_firstOf?_eq_some hfirst
      obtain rfl := List.inj_on_of_nodup_map hnd (mem_of_fieldOf? hfield) hc hname
      have hmade := mem_filters_iff_of_firstOf? htext hr hfirst
      simp [← Field.isSome_directFilter?, Option.isSome_iff_exists, hmade]
    | none =>
      obtain ⟨always, halways, rfl⟩ := (hread r).1 hr
      have hfree : c.name ∉ seen := by simp [hseen, hfirst]
      -- Without a parameter the field has no filter among the direct ones.
      have hnone : ¬ ∃ f ∈ direct, f.field = c.name := by
        rintro ⟨f, hf⟩
        obtain ⟨d, raw, hsome, -⟩ := (hdirect c.name f).1 hf
        simp [hfirst] at hsome
      have hgroup : (∃ f ∈ (groupedFilters s (s.grouped p)).filter
          (fun f => !seen.contains f.field), f.field = c.name) ↔ s.BoundedBy c p := by
        rw [← exists_mem_grouped_iff hnd hc]
        refine exists_congr fun f => and_congr_left fun hfield => ?_
        simp [hfield, hfree]
      simp only [List.mem_append, or_and_right, exists_or, hnone, hgroup,
        exists_mem_alwaysOn_iff hnd hc halways, hnew c hc, hfirst]
      by_cases hbounded : s.BoundedBy c p <;> simp [hbounded]

omit hnd

/-- A date of orders that is always on.  It has no start value of its own, so it starts with a range
without bounds. -/
def made : Field :=
  { Field.ofKind .dateRange "made" with alwaysOn := true }

/-- Orders by two dates, one of which is always on. -/
def dates : Scheme where
  fields := [made, .ofKind .dateRange "sent"]

/-- A word that is no bound, and a group with bounds of both dates. -/
def datesAsked : Params :=
  .ofList [("made", .text "yesterday"),
    ("and", .text "(made.gte.2024-01-01,sent.lte.2024-02-01)")]

/-- The word hides the date that is always on, and its bound in the group.  The other date has no
parameter, so its bound in the group counts. -/
theorem dates_exists_mem_filters :
    ∃ r, dates.read datesAsked = .ok r ∧ (¬ ∃ f ∈ r.filters, f.field = "made") ∧
      ∃ f ∈ r.filters, f.field = "sent" := by
  have hbeside : dates.beside datesAsked = [("made", .text "yesterday")] := rfl
  have htext : ∀ e ∈ dates.beside datesAsked, e.2.Textual := by
    rw [hbeside, List.forall_mem_singleton]
    exact .inl ⟨_, rfl⟩
  obtain ⟨hok, hfilters⟩ := exists_mem_filters_iff (s := dates) (by decide) htext
  -- Neither date starts with a value, so reading cannot fail.
  have hfits : ∀ c ∈ dates.fields, c.StartFits := by
    simp [dates, made, Field.StartFits, Field.ofKind, Value.tuple?]
  obtain ⟨r, hr⟩ := hok.2 fun c hc _ _ _ => hfits c hc
  refine ⟨r, hr, ?_, ?_⟩
  · have hfirst : dates.firstOf? made.name (dates.withoutGroup datesAsked).1.entries
        = some (made, .text "yesterday") := rfl
    have hnothing : made.answeredBy (.text "yesterday") = false := rfl
    have hmade := hfilters r hr made (by simp [dates])
    exact fun hf => absurd (hmade.1 hf) (by simp [hfirst, hnothing])
  · have hsent := hfilters r hr (.ofKind .dateRange "sent") (by simp [dates])
    refine hsent.2 (.inr ⟨rfl, .inr ⟨"sent.lte.2024-02-01".toList, ?_, _, rfl⟩⟩)
    exact List.mem_of_getElem? (i := 1) rfl

end Scheme

end UrlFilter
