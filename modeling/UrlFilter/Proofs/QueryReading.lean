import UrlFilter.Proofs.QueryString.Gathered
import UrlFilter.Proofs.Writing

namespace UrlFilter

open Reading

/-!
# Filters come back from a query string

The query string of written filters gives what their parameters give.  The one exception is a
grouping parameter whose name starts with a question mark, so that the query string does.

* `Reading.Alike` — two readings with the same filters, in whatever order, and the same rest.
* `Scheme.Plain.alike_read_of_perm` — the order of the parameters does not matter.
* `Scheme.Plain.of_params_eq_ok` — what filters with any values are written as.
* `Scheme.Plain.lost_group`, `Scheme.Plain.not_alike_of_mark` — what a question mark takes away.
* `Scheme.Plain.readQuery_ofParams` — when the query string gives what the parameters give.
-/

/-! ### The order of parameters -/

/-- The same filters, in whatever order, and the same parameters that filter nothing; or the same
error. -/
inductive Reading.Alike : Except Error Reading → Except Error Reading → Prop where
  | ok {r r' : Reading} (filters : r.filters.Perm r'.filters)
      (remaining : r.remaining.Same r'.remaining) : Alike (.ok r) (.ok r')
  | error (e : Error) : Alike (.error e) (.error e)

theorem Reading.Alike.of_ok {result : Except Error Reading} {r : Reading}
    (h : Alike result (.ok r)) :
    ∃ r', result = .ok r' ∧ r'.filters.Perm r.filters ∧ r'.remaining.Same r.remaining := by
  cases h with
  | ok filters remaining => exact ⟨_, rfl, filters, remaining⟩

namespace Scheme

variable {s : Scheme}

/-- **The order of the parameters does not matter** to what is read, but for the order of the
filters.  A plain scheme asks for each field under one key only, so no two parameters compete for a
field. -/
theorem Plain.alike_read_of_perm (hs : s.Plain) {p q : Params} (h : p.entries.Perm q.entries)
    (htext : ∀ e ∈ q.entries, e.2.Textual) : Alike (s.read p) (s.read q) := by
  -- Everything that reading looks at is the same list in another order, or does not depend on the
  -- order.
  have hbeside : (s.beside p).Perm (s.beside q) := h.filter _
  have hgrouped : s.grouped p = s.grouped q := by
    rw [grouped, grouped, Params.same_of_perm h s.groupKey]
  have hq : ∀ e ∈ s.beside q, e.2.Textual := fun e he => htext e (List.mem_of_mem_filter he)
  have hp : ∀ e ∈ s.beside p, e.2.Textual := fun e he => hq e (hbeside.mem_iff.1 he)
  obtain ⟨rest, hrest, hread⟩ := hs.read_eq hp
  obtain ⟨rest', hrest', hread'⟩ := hs.read_eq hq
  have hkeys : ∀ name, name ∈ (s.beside p).map Prod.fst ↔ name ∈ (s.beside q).map Prod.fst :=
    fun name => (hbeside.map Prod.fst).mem_iff
  -- Which fields have a filter depends on the keys and the group, not on the order.
  have halways : alwaysOn s ((s.beside p).map Prod.fst
        ++ (groupedFilters s (s.grouped p)).map Filter.field)
      = alwaysOn s ((s.beside q).map Prod.fst
        ++ (groupedFilters s (s.grouped q)).map Filter.field) := by
    apply alwaysOn_congr
    intro f _
    rw [List.mem_append, List.mem_append, hkeys, hgrouped]
  have hkept : ((groupedFilters s (s.grouped p)).filter fun f =>
        !((s.beside p).map Prod.fst).contains f.field)
      = (groupedFilters s (s.grouped q)).filter fun f =>
        !((s.beside q).map Prod.fst).contains f.field := by
    rw [hgrouped]
    apply List.filter_congr
    intro f _
    simp only [List.contains_eq_mem, hkeys]
  have hremaining : rest.Same rest' := by
    refine Params.same_of_perm ?_
    rw [hrest, hrest', hgrouped]
    exact (hbeside.filter _).append_right _
  rw [hread, hread', halways, hkept]
  cases alwaysOn s ((s.beside q).map Prod.fst
      ++ (groupedFilters s (s.grouped q)).map Filter.field) with
  | error e => exact .error e
  | ok always =>
    exact .ok (((hbeside.filterMap _).append_right _).append_right _) hremaining

end Scheme

/-- The value that texts make is a text or a list of texts.  No value at all is made of no text. -/
theorem QueryString.textual_of_gather {texts : List String} {v : Value}
    (h : gather texts = some v) : v.Textual := by
  match texts with
  | [] => exact absurd h (by simp [gather])
  | [text] => exact .inl ⟨text, (Option.some.inj h).symm⟩
  | text :: next :: rest => exact .inr ⟨text :: next :: rest, (Option.some.inj h).symm⟩

/-- Whatever a query string is, its parameters have texts or lists of texts as values.  So on what a
query string gives, reading cannot meet a value of any other type. -/
theorem QueryString.textual_toParams (cs : List Char) :
    ∀ e ∈ (toParams cs).entries, e.2.Textual := by
  intro e he
  have hvalue : (toParams cs).get? e.1 = some e.2 := Params.get?_eq_some_iff.2 he
  rw [get?_toParams] at hvalue
  exact textual_of_gather hvalue

/-! ### What filters are written as -/

/-- The filter is of a field of the scheme.  Its operator and its value may be any. -/
def Filter.OfScheme (s : Scheme) (f : Filter) : Prop :=
  ∃ c ∈ s.fields, f.config = some c ∧ f.field = c.name

namespace Scheme.Plain

variable {s : Scheme}

theorem plainName_of (hs : s.Plain) {f : Filter} (hof : f.OfScheme s) : PlainName f.field := by
  obtain ⟨c, hc, -, hname⟩ := hof
  rw [hname]
  exact hs.name_plain c hc

/-- The parameter that a filter sets is a text under the name of its field.  A plain scheme has no
field with a custom parameter, under which the filter would stand as its bare value. -/
theorem entry_of (hs : s.Plain) {f : Filter} (hof : f.OfScheme s) :
    (Writing.entry f).1 = f.field ∧ ∃ t, (Writing.entry f).2 = .text t := by
  obtain ⟨c, hc, hconfig, -⟩ := hof
  simp [Writing.entry, hconfig, hs.no_key c hc]

/-- **What filters are written as,** whatever their values are: each one sets a parameter of its
own, but for those of ranges, which make the conditions of the grouping parameter.  That the filters
can be written is given: a range with other than two bounds has no text, and neither has an integer
with too many digits. -/
theorem of_params_eq_ok (hs : s.Plain) {filters : List Filter}
    (hnd : (filters.map Filter.field).Nodup) (hof : ∀ f ∈ filters, f.OfScheme s) {p : Params}
    (h : Writing.params s.groupKey filters .empty = .ok p) :
    ∃ conditions : List (List Char),
      (∀ c ∈ conditions, ∃ f ∈ filters, Writing.joinsGroup f = true ∧
        ∃ op v, c = Wire.condition f.field op v) ∧
      s.beside p = (filters.filter Writing.setsParameter).map Writing.entry ∧
      p.get? s.groupKey = if conditions = [] then none else some (Writing.group conditions) := by
  have hentry : ∀ f ∈ filters, (Writing.entry f).1 = f.field := fun f hf =>
    (hs.entry_of (hof f hf)).1
  have hkey : ∀ e ∈ (filters.filter Writing.setsParameter).map Writing.entry,
      e.1 ≠ s.groupKey := by
    intro e he
    obtain ⟨f, hf, rfl⟩ := List.mem_map.1 he
    have hmem := List.mem_of_mem_filter hf
    obtain ⟨c, hc, -, hname⟩ := hof f hmem
    rw [hentry f hmem, hname]
    exact hs.name_ne c hc
  have hnew : ∀ f ∈ filters, f.field ∉ Params.empty.keys := fun _ _ => List.not_mem_nil
  have hset := Writing.entries_foldl_entry hentry hnd hnew
  have hcollect := Writing.collect_eq (Writing.writable_of_params h) .empty
  generalize ((filters.filter Writing.setsParameter).map Writing.entry).foldl
    (fun p e => p.insert e.1 e.2) Params.empty = direct at hset hcollect
  obtain ⟨hbeside, hgroup⟩ := Writing.beside_of_entries_append hset hkey
  -- A range that has no conditions stops the writing, so all of them have some.
  cases hown : (filters.filter Writing.joinsGroup).mapM
      fun f => Writing.rangeConditions f.field f.value with
  | error e =>
    rw [hown] at hcollect
    rw [Writing.params, hcollect] at h
    exact absurd h (by simp [Except.map, bind, Except.bind])
  | ok own =>
    rw [hown] at hcollect
    obtain ⟨q, hparams, hq, hget⟩ := Writing.params_of_collect (s := s) hcollect
    obtain rfl : p = q := Except.ok.inj (h.symm.trans hparams)
    refine ⟨own.flatten, fun c hc => ?_, hq.trans hbeside, ?_⟩
    · obtain ⟨conditions, hconditions, hc⟩ := List.mem_flatten.1 hc
      obtain ⟨f, hf, hrange⟩ := exists_of_mem_mapM hown hconditions
      obtain ⟨hf, hjoins⟩ := List.mem_filter.1 hf
      exact ⟨f, hf, hjoins, Writing.exists_of_mem_rangeConditions hrange hc⟩
    · rw [hget, hgroup]
      rfl

section Written

variable {filters : List Filter} {p : Params}

/-- Filters are written as single texts.  A list of values is written into one text, and so are the
conditions of the group. -/
theorem exists_text_of_mem_params (hs : s.Plain) (hnd : (filters.map Filter.field).Nodup)
    (hof : ∀ f ∈ filters, f.OfScheme s) (h : Writing.params s.groupKey filters .empty = .ok p) :
    ∀ e ∈ p.entries, ∃ t, e.2 = .text t := by
  obtain ⟨conditions, -, hbeside, hget⟩ := hs.of_params_eq_ok hnd hof h
  intro e he
  by_cases hkey : e.1 = s.groupKey
  · have hvalue : p.get? s.groupKey = some e.2 := by
      rw [← hkey, Params.get?_eq_some_iff]
      exact he
    rw [hget] at hvalue
    split at hvalue
    · simp at hvalue
    · exact ⟨_, (Option.some.inj hvalue).symm⟩
  · have hmem : e ∈ s.beside p := List.mem_filter.2 ⟨he, by simpa using hkey⟩
    rw [hbeside] at hmem
    obtain ⟨f, hf, rfl⟩ := List.mem_map.1 hmem
    exact (hs.entry_of (hof f (List.mem_of_mem_filter hf))).2

/-- Only the grouping parameter starts with a question mark, and its conditions are lost then: no
parameter has them but one that was not written and has them as a whole.  Names of fields are plain
and hold no question mark. -/
theorem lost_group (hs : s.Plain) (hnd : (filters.map Filter.field).Nodup)
    (hof : ∀ f ∈ filters, f.OfScheme s) (h : Writing.params s.groupKey filters .empty = .ok p)
    (hmark : (QueryString.ofParams p).head? = some '?') :
    s.groupKey.toList.head? = some '?' ∧
      (QueryString.toParams (QueryString.ofParams p)).get? s.groupKey = none ∧
      ∃ group, p.get? s.groupKey = some group ∧
        ∀ name v, p.get? name = none →
          (QueryString.toParams (QueryString.ofParams p)).get? name = some v → v = group := by
  obtain ⟨key, t, hhead, hvalue, hlost, honly⟩ :=
    QueryString.exists_lost_key (hs.exists_text_of_mem_params hnd hof h) hmark
  obtain ⟨-, -, hbeside, -⟩ := hs.of_params_eq_ok hnd hof h
  -- The key that is lost starts with a question mark, which no name of a field does.
  have hkey : key = s.groupKey := by
    by_contra hne
    have hmem : (key, .text t) ∈ s.beside p :=
      List.mem_filter.2 ⟨Params.get?_eq_some_iff.1 hvalue, by simpa using hne⟩
    rw [hbeside] at hmem
    obtain ⟨f, hf, heq⟩ := List.mem_map.1 hmem
    have hfof := hof f (List.mem_of_mem_filter hf)
    obtain rfl : f.field = key := by rw [← (hs.entry_of hfof).1, heq]
    exact (hs.plainName_of hfof).ne_of_mem (List.mem_of_mem_head? hhead) (by decide) rfl
  subst hkey
  exact ⟨hhead, hlost, _, hvalue, honly⟩

/-- The conditions that filters make are read as they were written.  Conditions of plain names can
be joined and separated again. -/
theorem grouped_of_params (hs : s.Plain) (hof : ∀ f ∈ filters, f.OfScheme s)
    {conditions : List (List Char)}
    (hmem : ∀ c ∈ conditions, ∃ f ∈ filters, Writing.joinsGroup f = true ∧
      ∃ op v, c = Wire.condition f.field op v)
    (hget : p.get? s.groupKey
      = if conditions = [] then none else some (Writing.group conditions)) :
    s.grouped p = conditions := by
  -- Each condition starts with a plain name and is balanced, so the group is cut where it was
  -- joined.
  have hsep : Wire.Separable conditions := by
    refine (separable_of_plainName fun c hc => ?_).1
    obtain ⟨f, hf, -, op, v, rfl⟩ := hmem c hc
    exact ⟨f.field, op, v, hs.plainName_of (hof f hf), rfl⟩
  rw [grouped_of_get? hget, Wire.splitConditions_commaJoin hsep]

/-- A condition bounds only the field that it was written for.  The condition starts with that name
and a point, whatever its value holds. -/
theorem name_of_groupedBound?_condition {name : String} (hname : PlainName name) {op : Operator}
    {v : Value} {f : Field} {b : Bound}
    (h : groupedBound? s (Wire.condition name op v) = some (f, b)) : f.name = name := by
  obtain ⟨parts, asked, hparts, hnamed, -⟩ := groupedBound?_eq_some_iff.1 h
  obtain ⟨tail, htail, -⟩ := Wire.exists_condition_eq name op v
  have hread : Wire.readCondition? (Wire.condition name op v) = some ⟨name, op.symbol, tail⟩ :=
    Wire.readCondition?_eq_some_iff.2
      ⟨htail, hname.1, hname.point_not_mem, Wire.point_not_mem_symbol op⟩
  rw [hread] at hparts
  obtain rfl := Option.some.inj hparts
  exact (mem_of_named? hnamed).2

end Written

end Scheme.Plain

/-! ### A question mark in front -/

namespace Scheme.Plain

variable {s : Scheme}

/-- Without a group, a range field that is not always on has no filter unless it has a parameter
that asks for bounds.  A parameter with the text of a group in it asks for none, as this text is no
bound. -/
theorem field_ne_of_no_group (hs : s.Plain) {q : Params} (htext : ∀ e ∈ q.entries, e.2.Textual)
    (hgroup : q.get? s.groupKey = none) {f : Field} (hf : f ∈ s.fields)
    (hrange : f.kind.isRange = true) (hoff : f.alwaysOn = false)
    (hvalue : ∀ v, q.get? f.name = some v → ∃ conditions, v = Writing.group conditions)
    {r : Reading} (hread : s.read q = .ok r) : ∀ g ∈ r.filters, g.field ≠ f.name := by
  have hgrouped : s.grouped q = [] := by rw [grouped, hgroup]
  have hnone : groupedFilters s [] = [] := rfl
  obtain ⟨always, halways, hfilters, -⟩ :=
    hs.of_read_eq_ok (fun e he => htext e (List.mem_of_mem_filter he)) hread
  rw [hgrouped, hnone, List.filter_nil, List.append_nil] at hfilters
  intro g hg hname
  rw [hfilters, List.mem_append] at hg
  rcases hg with hg | hg
  · -- An entry of the field has a group as its value, which asks for no bound.
    obtain ⟨e, he, hfilter⟩ := List.mem_filterMap.1 hg
    have hkey : e.1 = f.name := by rw [← field_of_entryFilter? hfilter, hname]
    have hget : q.get? f.name = some e.2 := by
      rw [← hkey, Params.get?_eq_some_iff]
      exact List.mem_of_mem_filter he
    obtain ⟨conditions, hconditions⟩ := hvalue e.2 hget
    have hbound : bound? (Writing.group conditions) = none := by
      rw [bound?, Writing.read?_group]
      rfl
    have hvalues : values (Writing.group conditions) = [Writing.group conditions] := rfl
    rw [entryFilter?, hkey, hs.named?_eq_some_iff.2 ⟨hf, rfl⟩, Option.bind_some, directFilter?,
      if_pos hrange, hconditions, hvalues, List.filterMap_cons, hbound] at hfilter
    exact absurd hfilter (by simp [rangeFilter?])
  · -- A filter that the field starts with is excluded, as the field is not always on.
    obtain ⟨c, hc, hstart⟩ := exists_of_mem_mapM halways hg
    obtain ⟨hc, hon⟩ := List.mem_filter.1 hc
    have hfield : g.field = c.name := (Filter.of_start hstart).1
    obtain rfl : c = f := hs.eq_of_name_eq hc hf (hfield.symm.trans hname)
    simp [hoff] at hon

/-- If as much is left of parameters as of parameters without a group, nothing is left of their
group.  What is left of a group stands under its key, where the other side has nothing. -/
theorem kept_grouped_eq_nil (hs : s.Plain) {p q : Params} (hp : ∀ e ∈ p.entries, e.2.Textual)
    (hq : ∀ e ∈ q.entries, e.2.Textual) (hgroup : q.get? s.groupKey = none) {r r' : Reading}
    (hread : s.read p = .ok r) (hread' : s.read q = .ok r')
    (hsame : r'.remaining.Same r.remaining) : s.kept (s.grouped p) = [] := by
  have hfront : ∀ t : Params, ∀ e ∈ (s.beside t).filter (fun e => (s.named? e.1).isNone),
      e.1 ≠ s.groupKey := fun t e he => ne_groupKey_of_mem_beside (List.mem_of_mem_filter he)
  obtain ⟨-, -, -, hrest⟩ := hs.of_read_eq_ok (fun e he => hp e (List.mem_of_mem_filter he)) hread
  obtain ⟨-, -, -, hrest'⟩ := hs.of_read_eq_ok (fun e he => hq e (List.mem_of_mem_filter he)) hread'
  have hleft := hsame s.groupKey
  have hgrouped : s.grouped q = [] := by rw [grouped, hgroup]
  rw [get?_groupKey_of_residue (hfront p) hrest, get?_groupKey_of_residue (hfront q) hrest',
    hgrouped] at hleft
  -- Otherwise one side has a group left and the other has none.
  by_contra hne
  rw [if_neg hne] at hleft
  exact absurd hleft (by simp [kept])

section Written

variable {filters : List Filter} {p : Params}

/-- A filter that joins the group sets no parameter.  The names of the filters differ, so no other
filter sets it either. -/
theorem get?_field_of_joinsGroup (hs : s.Plain) (hnd : (filters.map Filter.field).Nodup)
    (hof : ∀ f ∈ filters, f.OfScheme s) (h : Writing.params s.groupKey filters .empty = .ok p)
    {f : Filter} (hf : f ∈ filters) (hjoins : Writing.joinsGroup f = true) :
    p.get? f.field = none := by
  obtain ⟨-, -, hbeside, -⟩ := hs.of_params_eq_ok hnd hof h
  rw [Params.get?_eq_none_iff]
  intro hkey
  obtain ⟨e, he, hname⟩ := List.mem_map.1 hkey
  have hne : e.1 ≠ s.groupKey := by
    obtain ⟨c, hc, -, hc'⟩ := hof f hf
    rw [hname, hc']
    exact hs.name_ne c hc
  have hmem : e ∈ s.beside p := List.mem_filter.2 ⟨he, by simpa using hne⟩
  rw [hbeside] at hmem
  obtain ⟨g, hg, rfl⟩ := List.mem_map.1 hmem
  obtain ⟨hg, hsets⟩ := List.mem_filter.1 hg
  rw [(hs.entry_of (hof g hg)).1] at hname
  -- The filter that sets the parameter would be the one that joins the group.
  obtain rfl : g = f := List.inj_on_of_nodup_map hnd hg hf hname
  simp only [Writing.joinsGroup, Writing.setsParameter, Bool.and_eq_true, beq_iff_eq,
    bne_iff_ne] at hjoins hsets
  exact hsets.2 hjoins.2

/-- A condition that bounds a range gives the field of its filter a filter.  The range has no
parameter of its own that would hide the bound. -/
theorem exists_of_groupedBound? (hs : s.Plain) (hnd : (filters.map Filter.field).Nodup)
    (hof : ∀ f ∈ filters, f.OfScheme s) (h : Writing.params s.groupKey filters .empty = .ok p)
    {r : Reading} (hread : s.read p = .ok r) {f : Filter} (hf : f ∈ filters)
    (hjoins : Writing.joinsGroup f = true) {c : List Char} (hc : c ∈ s.grouped p) {field : Field}
    {b : Bound} (hb : groupedBound? s c = some (field, b)) (hname : field.name = f.field) :
    ∃ g ∈ r.filters, g.field = f.field := by
  have htext : ∀ e ∈ s.beside p, e.2.Textual := fun e he =>
    .inl (hs.exists_text_of_mem_params hnd hof h e (List.mem_of_mem_filter he))
  obtain ⟨always, -, hfilters, -⟩ := hs.of_read_eq_ok htext hread
  obtain ⟨g, hg, hgname⟩ := exists_mem_groupedFilters hc hb
  have hnew : g.field ∉ (s.beside p).map Prod.fst := by
    intro hmem
    have hkey := Params.get?_eq_none_iff.1 (hs.get?_field_of_joinsGroup hnd hof h hf hjoins)
    rw [← hname, ← hgname] at hkey
    exact hkey ((List.filter_sublist.map _).subset hmem)
  refine ⟨g, ?_, by rw [hgname, hname]⟩
  rw [hfilters]
  refine List.mem_append_left _ (List.mem_append_right _ (List.mem_filter.2 ⟨hg, ?_⟩))
  simpa using hnew

/-- **A question mark in front takes ranges away.**  If the parameters can be read and the fields of
the ranges are not always on, the query string gives something else than the parameters.  The range
that was read from the group is not read from the key without its question mark, where the text of
the group asks for nothing. -/
theorem not_alike_of_mark (hs : s.Plain) (hnd : (filters.map Filter.field).Nodup)
    (hof : ∀ f ∈ filters, f.OfScheme s) (h : Writing.params s.groupKey filters .empty = .ok p)
    {r : Reading} (hread : s.read p = .ok r)
    (hoff : ∀ f ∈ filters, Writing.joinsGroup f = true → ∀ c, f.config = some c →
      c.alwaysOn = false)
    (hmark : (QueryString.ofParams p).head? = some '?') :
    ¬ Alike (s.read (QueryString.toParams (QueryString.ofParams p))) (s.read p) := by
  obtain ⟨-, hlost, group, hgroup, honly⟩ := hs.lost_group hnd hof h hmark
  obtain ⟨conditions, hmem, -, hget⟩ := hs.of_params_eq_ok hnd hof h
  have hgrouped := hs.grouped_of_params hof hmem hget
  have hqtext := QueryString.textual_toParams (QueryString.ofParams p)
  generalize QueryString.toParams (QueryString.ofParams p) = q at hlost honly hqtext
  rw [hread]
  intro halike
  obtain ⟨r', hread', hperm, hsame⟩ := halike.of_ok
  -- There is a group, and as nothing is left of it, its first condition bounds a range.
  have hne : conditions ≠ [] := by
    rintro rfl
    rw [hgroup, if_pos rfl] at hget
    exact absurd hget (by simp)
  rw [if_neg hne, hgroup] at hget
  obtain rfl : group = Writing.group conditions := Option.some.inj hget
  obtain ⟨c, hc⟩ := List.exists_mem_of_ne_nil _ hne
  have hkept := hs.kept_grouped_eq_nil
    (fun e he => .inl (hs.exists_text_of_mem_params hnd hof h e he)) hqtext hlost hread hread' hsame
  rw [hgrouped] at hkept
  obtain ⟨⟨field, b⟩, hb⟩ : ∃ bound, groupedBound? s c = some bound := by
    have hbound := List.filter_eq_nil_iff.1 hkept c hc
    rwa [Bool.not_eq_true, Option.isNone_eq_false_iff, Option.isSome_iff_exists] at hbound
  obtain ⟨f, hf, hjoins, op, v, rfl⟩ := hmem c hc
  have hname : field.name = f.field :=
    name_of_groupedBound?_condition (hs.plainName_of (hof f hf)) hb
  obtain ⟨parts, asked, -, hnamed, -, -, hrange, -⟩ := groupedBound?_eq_some_iff.1 hb
  have hfield : field ∈ s.fields := (mem_of_named? hnamed).1
  -- The filter of that range is read of the parameters, but not of the query string.
  obtain ⟨g, hg, hgname⟩ := hs.exists_of_groupedBound? hnd hof h hread hf hjoins
    (by rw [hgrouped]; exact hc) hb hname
  have hon : field.alwaysOn = false := by
    obtain ⟨config, hconfig, heq, hown⟩ := hof f hf
    obtain rfl : config = field := hs.eq_of_name_eq hconfig hfield (by rw [hname, hown])
    exact hoff f hf hjoins config heq
  have hvalue : ∀ v, q.get? field.name = some v → ∃ conditions, v = Writing.group conditions := by
    intro v hv
    rw [hname] at hv
    exact ⟨conditions, honly _ v (hs.get?_field_of_joinsGroup hnd hof h hf hjoins) hv⟩
  exact hs.field_ne_of_no_group hqtext hlost hfield hrange hon hvalue hread' g
    (hperm.mem_iff.2 hg) (by rw [hgname, hname])

/-- **Filters come back from their query string as they do from their parameters,** whatever their
values are, if the name of the grouping parameter does not start with a question mark: both give the
same filters, in whatever order, and leave the same parameters, or have the same error.

For any name, this is so if the query string does not start with a question mark.  That is also when
the parameters themselves come back, and the only case if the parameters can be read and the fields
of the ranges are not always on. -/
theorem readQuery_ofParams (hs : s.Plain) (hnd : (filters.map Filter.field).Nodup)
    (hof : ∀ f ∈ filters, f.OfScheme s) (h : Writing.params s.groupKey filters .empty = .ok p) :
    QueryString.ofParams? p = .ok (QueryString.ofParams p) ∧
      (s.groupKey.toList.head? ≠ some '?' →
        (QueryString.ofParams p).head? ≠ some '?' ∧
          Alike (s.readQuery (String.ofList (QueryString.ofParams p))) (s.read p)) ∧
      ((QueryString.toParams (QueryString.ofParams p)).Same p
        ↔ (QueryString.ofParams p).head? ≠ some '?') ∧
      ((QueryString.ofParams p).head? ≠ some '?' →
        Alike (s.readQuery (String.ofList (QueryString.ofParams p))) (s.read p)) ∧
      ((∃ r, s.read p = .ok r) →
        (∀ f ∈ filters, Writing.joinsGroup f = true → ∀ c, f.config = some c →
          c.alwaysOn = false) →
        Alike (s.readQuery (String.ofList (QueryString.ofParams p))) (s.read p) →
        (QueryString.ofParams p).head? ≠ some '?') := by
  have htext := hs.exists_text_of_mem_params hnd hof h
  have hquery : s.readQuery (String.ofList (QueryString.ofParams p))
      = s.read (QueryString.toParams (QueryString.ofParams p)) := by
    rw [readQuery, String.toList_ofList]
  have halike : (QueryString.ofParams p).head? ≠ some '?' →
      Alike (s.read (QueryString.toParams (QueryString.ofParams p))) (s.read p) := fun hmark =>
    hs.alike_read_of_perm (QueryString.perm_entries_toParams_ofParams htext hmark)
      fun e he => .inl (htext e he)
  rw [hquery]
  refine ⟨(QueryString.gathered_of_text htext).ofParams?_eq, fun hkey => ?_,
    QueryString.same_toParams_ofParams_iff htext, halike, ?_⟩
  · -- Only the grouping parameter could put a question mark in front: names of fields have none.
    have hmark : (QueryString.ofParams p).head? ≠ some '?' :=
      fun hmark => hkey (hs.lost_group hnd hof h hmark).1
    exact ⟨hmark, halike hmark⟩
  · rintro ⟨r, hread⟩ hoff halike hmark
    exact hs.not_alike_of_mark hnd hof h hread hoff hmark halike

end Written

end Scheme.Plain

/-- Articles with a date and a title.  Neither field is always on, so all filters come from
parameters. -/
def Scheme.datedArticles : Scheme where
  fields := [.ofKind .dateRange "made", .ofKind .text "title"]

/-- A range without an upper bound, and a title with signs that a query string codes.  The order of
the two changes on the way, as the group is written last. -/
def Filter.ofDatedArticles : List Filter :=
  [⟨"made", .between, .range (.text "1") .null, some (.ofKind .dateRange "made"), "made"⟩,
    ⟨"title", .eq, .text "é&?=+", some (.ofKind .text "title"), "title"⟩]

/-- Both filters come back from the query string. -/
theorem Scheme.datedArticles_readQuery :
    ∃ p r, Writing.params "and" Filter.ofDatedArticles .empty = .ok p ∧
      QueryString.ofParams? p = .ok (QueryString.ofParams p) ∧
      Scheme.datedArticles.readQuery (String.ofList (QueryString.ofParams p)) = .ok r ∧
      r.filters.Perm Filter.ofDatedArticles ∧ r.remaining.Same .empty := by
  have hs : Scheme.datedArticles.Plain := by decide
  have hnd : (Filter.ofDatedArticles.map Filter.field).Nodup := by decide
  have hof : ∀ f ∈ Filter.ofDatedArticles, f.OfScheme Scheme.datedArticles := by
    intro f hf
    rcases List.mem_pair.1 hf with rfl | rfl
    · exact ⟨_, List.mem_pair.2 (.inl rfl), rfl, rfl⟩
    · exact ⟨_, List.mem_pair.2 (.inr rfl), rfl, rfl⟩
  have hparams : Writing.params "and" Filter.ofDatedArticles .empty
      = .ok ((Params.empty.insert "title" (.text "eq.é&?=+")).insert "and"
        (.text "(made.gte.1)")) := rfl
  obtain ⟨hwritten, halike, -⟩ := hs.readQuery_ofParams hnd hof hparams
  obtain ⟨-, halike⟩ := halike (by decide)
  -- The filters stand in the parameters in the other order.
  have hread : Scheme.datedArticles.read ((Params.empty.insert "title" (.text "eq.é&?=+")).insert
      "and" (.text "(made.gte.1)")) = .ok ⟨Filter.ofDatedArticles.reverse, .empty⟩ := rfl
  rw [hread] at halike
  obtain ⟨r, hr, hfilters, hremaining⟩ := halike.of_ok
  exact ⟨_, r, hparams, hwritten, hr, hfilters.trans (List.reverse_perm _), hremaining⟩

end UrlFilter
