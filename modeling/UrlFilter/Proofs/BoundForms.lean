import UrlFilter.Proofs.Presence
import UrlFilter.Proofs.Wire.Names

namespace UrlFilter

open Reading

/-!
# Two forms of bounds

The bounds of a range can be values of its own parameter, or conditions of the grouping parameter.
Both forms are read as the same filter, with the last bound at either end, if the name of the field
is one that a reader of the group finds again.  For any other name some bounds in the group are not
read like this.

* `TextBound` — a text that bounds one end.
* `Field.direct`, `Field.grouped` — parameters with bounds in one form and in the other.
* `Field.rangeOf` — the filter of bounds.
* `Field.read_direct`, `Field.read_grouped` — what is read of the two forms.
* `Field.legible_of_mem_filters` — only a legible name has its filter read from the group.
* `Field.bounds_read` — when the two forms agree.
-/

/-- A text that bounds one end of a range.  The text may be anything, also a list of others or
nothing at all. -/
structure TextBound where
  side : End
  text : String
  deriving DecidableEq, Repr

namespace TextBound

/-- The operator that bounds the end.  There is one for each end. -/
def operator (b : TextBound) : Operator :=
  match b.side with
  | .lower => .gte
  | .upper => .lte

/-- The bound as a value of the parameter of a field.  The symbol of the operator stands in front of
the text. -/
def value (b : TextBound) : Value :=
  .text (String.ofList (b.operator.symbol.toList ++ '.' :: b.text.toList))

/-- The bound as a condition of the grouping parameter.  The text is quoted if it needs to be. -/
def condition (name : String) (b : TextBound) : List Char :=
  Wire.condition name b.operator (.text b.text)

/-- The last text that bounds one end, if there is one.  Earlier ones are overruled. -/
def last (side : End) (bounds : List TextBound) : Option String :=
  ((bounds.filter fun b => b.side == side).getLast?).map text

/-- The bound as reading makes it.  It is the same for both forms. -/
def bound (b : TextBound) : Bound :=
  ⟨b.side, .text b.text⟩

theorem ofOperator?_operator (b : TextBound) : End.ofOperator? b.operator = some b.side := by
  obtain ⟨side, text⟩ := b
  cases side <;> rfl

/-- A value reads back as its bound.  The text comes back without a change, as no quotes are added
in this form. -/
theorem bound?_value (b : TextBound) : bound? b.value = some b.bound := by
  have hwire : b.operator.onWire = true := by
    obtain ⟨side, text⟩ := b
    cases side <;> rfl
  -- Neither operator changes the kind of its value.
  have hshape : Wire.shape b.operator (.text b.text) = (b.operator, .text b.text) := by
    obtain ⟨side, text⟩ := b
    cases side <;> rfl
  rw [bound?, value, Wire.read?_symbol_append hwire, String.ofList_toList, hshape]
  simp only [Option.bind_eq_bind, Option.bind_some, ofOperator?_operator]
  rfl

theorem lastAt_map_bound (side : End) (bounds : List TextBound) :
    lastAt side (bounds.map bound) = .ofBound (last side bounds) := by
  have hfilter : (bounds.map bound).filter (fun b => b.side == side)
      = (bounds.filter fun b => b.side == side).map bound := List.filter_map
  rw [lastAt, last, hfilter, List.getLast?_map, Option.map_map]
  cases (bounds.filter fun b => b.side == side).getLast? <;> rfl

end TextBound

namespace Field

variable {s : Scheme} {f : Field} {bounds : List TextBound}

/-- Bounds as the values of the parameter of a field.  They are given as a list, as a repeated
parameter is. -/
def direct (f : Field) (bounds : List TextBound) : Params :=
  .ofList [(f.name, .list (bounds.map TextBound.value))]

/-- Bounds as conditions of the grouping parameter.  They stand in the same order. -/
def grouped (f : Field) (groupKey : String) (bounds : List TextBound) : Params :=
  .ofList [(groupKey, Writing.group (bounds.map (TextBound.condition f.name)))]

/-- The filter of bounds: the last one counts at either end.  An end without a bound stays open. -/
def rangeOf (f : Field) (bounds : List TextBound) : Filter :=
  ⟨f.name, .between, .range (.ofBound (TextBound.last .lower bounds))
    (.ofBound (TextBound.last .upper bounds)), some f, f.name⟩

theorem rangeFilter?_map_bound (f : Field) (hne : bounds ≠ []) :
    rangeFilter? f (bounds.map TextBound.bound) = some (f.rangeOf bounds) := by
  have hsome : (bounds.map TextBound.bound).isEmpty = false := by simpa using hne
  rw [rangeFilter?, hsome, TextBound.lastAt_map_bound, TextBound.lastAt_map_bound]
  rfl

/-! ### Bounds in the parameter of the field -/

/-- **The values of its parameter are read as the filter of a range field,** whatever its name.
Nothing has to be quoted, and nothing is left over. -/
theorem read_direct (hrange : f.kind.isRange = true) (hkey : f.name ≠ s.groupKey)
    (hof : s.fieldOf? f.name = some f) (hne : bounds ≠ []) :
    s.read (f.direct bounds)
      = (alwaysOn s [f.name]).map fun always => ⟨f.rangeOf bounds :: always, .empty⟩ := by
  have hentries : (f.direct bounds).entries
      = [(f.name, .list (bounds.map TextBound.value))] := rfl
  have hget : (f.direct bounds).get? s.groupKey = none := by
    rw [Params.get?_eq_none_iff, Params.keys, hentries]
    simpa using hkey.symm
  have hwithout : s.withoutGroup (f.direct bounds) = (f.direct bounds, []) := by
    rw [Scheme.withoutGroup, hget]
  have hgrouped : s.grouped (f.direct bounds) = [] := by
    rw [Scheme.grouped, hget]
  have hmade : direct? f (.list (bounds.map TextBound.value)) = .ok (some (f.rangeOf bounds)) := by
    have hvalues : (values (.list (bounds.map TextBound.value))).filterMap bound?
        = bounds.map TextBound.bound := by
      show (bounds.map TextBound.value).filterMap bound? = _
      rw [List.filterMap_map, ← List.filterMap_eq_map]
      exact List.filterMap_congr fun b _ => b.bound?_value
    rw [direct?, if_pos hrange, hvalues, rangeFilter?_map_bound f hne]
  have hdirect : directFrom s [] (f.direct bounds).entries
      = .ok ([f.rangeOf bounds], [f.name]) := by
    rw [hentries]
    simp [directFrom, hof, hmade, bind, Except.bind, pure, Except.pure]
  have hrest : (f.direct bounds).filterKeys (fun key => (s.fieldOf? key).isNone) = .empty := by
    apply Params.filterKeys_eq_empty
    rw [hentries]
    simp [hof]
  rw [Scheme.read_eq_bind, hwithout, hgrouped, hdirect, hrest]
  rfl

/-! ### Bounds in the grouping parameter -/

theorem get?_grouped (f : Field) (groupKey : String) (bounds : List TextBound) :
    (f.grouped groupKey bounds).get? groupKey
      = some (Writing.group (bounds.map (TextBound.condition f.name))) := by
  show (Params.empty.insert groupKey _).get? groupKey = _
  rw [Params.get?_insert, if_pos rfl]

theorem grouped_grouped (s : Scheme) (f : Field) (bounds : List TextBound) :
    s.grouped (f.grouped s.groupKey bounds)
      = Wire.splitConditions (Wire.commaJoin (bounds.map (TextBound.condition f.name))) := by
  rw [Scheme.grouped, get?_grouped]
  exact Writing.conditions_group _

/-- Beside the group there is nothing.  The grouping parameter is the only one. -/
theorem beside_grouped (s : Scheme) (f : Field) (bounds : List TextBound) :
    s.beside (f.grouped s.groupKey bounds) = [] := by
  show [(s.groupKey, _)].filter (fun e : String × Value => e.1 != s.groupKey) = []
  simp

/-- **Conditions on one field are read as the filter of their bounds.**  None of them is left over
for others. -/
theorem groupedFilters_map_condition (hrange : f.kind.isRange = true) (hname : f.name ≠ "")
    (hpoint : '.' ∉ f.name.toList) (hnamed : s.named? f.name = some f) (hne : bounds ≠ []) :
    s.kept (bounds.map (TextBound.condition f.name)) = [] ∧
      groupedFilters s (bounds.map (TextBound.condition f.name)) = [f.rangeOf bounds] := by
  -- Each condition is read as its own bound of the field.
  have hread : ∀ b : TextBound, groupedBound? s (b.condition f.name) = some (f, b.bound) :=
    fun b => groupedBound?_written hname hpoint hnamed hrange b.ofOperator?_operator b.text
  constructor
  · rw [Scheme.kept, List.filter_eq_nil_iff]
    intro c hc
    obtain ⟨b, -, rfl⟩ := List.mem_map.1 hc
    simp [hread b]
  · have hall : (bounds.map (TextBound.condition f.name)).filterMap (groupedBound? s)
        = bounds.map fun b => (f, b.bound) := by
      rw [List.filterMap_map, ← List.filterMap_eq_map]
      exact List.filterMap_congr fun b _ => hread b
    -- All bounds are of the one field, so its name is the only one.
    have hnames : (bounds.map fun _ => f.name).eraseDups = [f.name] := by
      have hone : ((bounds.map fun _ => f.name) ++ []).eraseDups
          = f.name :: ([] : List String).eraseDups :=
        eraseDups_append_of_eq (by simpa using hne) (by simp) List.not_mem_nil
      rwa [List.append_nil] at hone
    have hmine : ((bounds.map fun b => (f, b.bound)).filter fun b => b.1.name == f.name)
        = bounds.map fun b => (f, b.bound) := by
      rw [List.filter_eq_self]
      simp
    have hmade := rangeFilter?_map_bound f hne
    simp only [groupedFilters, hall, List.map_map, Function.comp_def, hnames,
      List.filterMap_cons, List.filterMap_nil, hnamed, Option.bind_eq_bind, Option.bind_some,
      hmine, hmade]

/-- **Conditions of the group are read as the filter of a range field** whose name is legible.  The
conditions are kept apart by the commas between them. -/
theorem read_grouped (hrange : f.kind.isRange = true) (hname : f.name ≠ "")
    (hlegible : Wire.Legible f.name.toList) (hnamed : s.named? f.name = some f)
    (hne : bounds ≠ []) :
    s.read (f.grouped s.groupKey bounds)
      = (alwaysOn s [f.name]).map fun always => ⟨f.rangeOf bounds :: always, .empty⟩ := by
  have hseparable : Wire.Separable (bounds.map (TextBound.condition f.name)) := by
    refine (Wire.separable_of_legible fun c hc => ?_).1
    obtain ⟨b, -, rfl⟩ := List.mem_map.1 hc
    exact ⟨f.name, b.operator, _, hlegible, rfl⟩
  have hgrouped : s.grouped (f.grouped s.groupKey bounds)
      = bounds.map (TextBound.condition f.name) := by
    rw [grouped_grouped, Wire.splitConditions_commaJoin hseparable]
  obtain ⟨hkept, hfilters⟩ :=
    groupedFilters_map_condition hrange hname hlegible.point hnamed hne
  -- All conditions have become bounds, so that no group is left over.
  have hentries : (s.withoutGroup (f.grouped s.groupKey bounds)).1.entries = [] := by
    rw [(Scheme.withoutGroup_eq s _).1, beside_grouped, hgrouped, Scheme.residue_eq, if_pos hkept]
    rfl
  have hrest : (s.withoutGroup (f.grouped s.groupKey bounds)).1.filterKeys
      (fun key => (s.fieldOf? key).isNone) = .empty := by
    apply Params.filterKeys_eq_empty
    rw [hentries]
    exact fun e he => absurd he List.not_mem_nil
  rw [Scheme.read_eq_bind, hentries, hgrouped, hfilters, hrest]
  rfl

/-! ### Names that are not found again -/

/-- The last bound at an end is one of the bounds.  An end that is open has no text. -/
theorem mem_of_lastAt {side : End} {bounds : List Bound} {t : String}
    (h : lastAt side bounds = .text t) : ⟨side, .text t⟩ ∈ bounds := by
  unfold lastAt at h
  cases hlast : (bounds.filter fun b => b.side == side).getLast? with
  | none => simp [hlast] at h
  | some b =>
    obtain ⟨hb, hside⟩ := List.mem_filter.1 (List.mem_of_getLast? hlast)
    obtain ⟨side', value⟩ := b
    obtain rfl : side' = side := by simpa using hside
    obtain rfl : value = .text t := by simpa [hlast] using h
    exact hb

/-- A filter of the group with an upper bound has it from a condition.  The condition need not have
been written as one. -/
theorem exists_of_mem_groupedFilters_upper {conditions : List (List Char)} {filter : Filter}
    (hfilter : filter ∈ groupedFilters s conditions) {lower : Value} {t : String}
    (hvalue : filter.value = .range lower (.text t)) :
    ∃ c ∈ conditions, ∃ g, groupedBound? s c = some (g, ⟨.upper, .text t⟩) := by
  -- From the filter back to its last upper bound, and from there to the condition.
  simp only [groupedFilters, List.mem_filterMap, Option.bind_eq_bind,
    Option.bind_eq_some_iff] at hfilter
  obtain ⟨name, -, d, -, hmade⟩ := hfilter
  unfold rangeFilter? at hmade
  split at hmade
  · simp at hmade
  obtain rfl := Option.some.inj hmade
  obtain ⟨-, hlast⟩ := Value.range.inj hvalue
  obtain ⟨⟨g, b⟩, hmem, rfl⟩ := List.mem_map.1 (mem_of_lastAt hlast)
  obtain ⟨c, hc, hbound⟩ := List.mem_filterMap.1 (List.mem_of_mem_filter hmem)
  exact ⟨c, hc, g, hbound⟩

/-- Only one operator bounds the upper end.  So an upper bound is always read from this operator. -/
theorem eq_lte_of_ofOperator? {op : Operator} (h : End.ofOperator? op = some .upper) :
    op = .lte := by
  cases op <;> first | rfl | exact absurd h (by decide)

/-- A text as a bound at either end.  The upper one is the last of the conditions. -/
def bothEnds (t : String) : List TextBound :=
  [⟨.lower, t⟩, ⟨.upper, t⟩]

/-- What is left of the group makes no filter of a range field.  It starts with a parenthesis, which
no operator does. -/
theorem directFilter?_of_mem_residue (hrange : f.kind.isRange = true)
    {conditions : List (List Char)} {e : String × Value} (he : e ∈ s.residue conditions) :
    directFilter? f e.2 = none := by
  rw [Scheme.residue_eq] at he
  split at he
  · exact absurd he List.not_mem_nil
  · obtain rfl := List.mem_singleton.1 he
    have hbounds : (values (Writing.group (s.kept conditions))).filterMap bound? = [] := by
      show [Writing.group (s.kept conditions)].filterMap bound? = []
      simp [bound?, Writing.read?_group]
    rw [directFilter?, if_pos hrange, hbounds]
    rfl

/-- **Only a legible name has its filter read from the group.**  Let one character that has no
meaning bound a range at both ends, in the group, and let the field not start with just this filter.
If the filter is read, the name of the field is legible. -/
theorem legible_of_mem_filters (hrange : f.kind.isRange = true) {groupKey : String} {d : Char}
    (hd : Wire.quoteText [d] = [d])
    (hstart : Filter.start f ≠ .ok (f.rangeOf (bothEnds (String.ofList [d])))) {r : Reading}
    (hread : (⟨[f], groupKey⟩ : Scheme).read
      (f.grouped groupKey (bothEnds (String.ofList [d]))) = .ok r)
    (hmem : f.rangeOf (bothEnds (String.ofList [d])) ∈ r.filters) :
    Wire.Legible f.name.toList := by
  have hbeside := beside_grouped ⟨[f], groupKey⟩ f (bothEnds (String.ofList [d]))
  have htext : ∀ e ∈ (⟨[f], groupKey⟩ : Scheme).beside
      (f.grouped groupKey (bothEnds (String.ofList [d]))), e.2.Textual := by
    rw [hbeside]
    exact fun e he => absurd he List.not_mem_nil
  -- A filter of the field comes from one of three places.
  obtain ⟨direct, seen, after, rest, -, hdirect, -, hr⟩ := Scheme.exists_read_eq htext
  obtain ⟨always, halways, rfl⟩ := (hr r).1 hread
  rw [List.mem_append, List.mem_append] at hmem
  rcases hmem with (hmem | hmem) | hmem
  · -- The filter is none of a parameter, since the only one that is left is the group.
    obtain ⟨g, raw, hfirst, hmade⟩ := (hdirect f.name _).1 ⟨hmem, rfl⟩
    obtain ⟨-, key, hof, hentry⟩ := Scheme.of_firstOf?_eq_some hfirst
    obtain rfl : g = f := List.mem_singleton.1 (Scheme.mem_of_fieldOf? hof)
    rw [(Scheme.withoutGroup_eq _ _).1, hbeside, List.nil_append] at hentry
    rw [directFilter?_of_mem_residue hrange hentry] at hmade
    exact absurd hmade (by simp)
  · -- The filter is one of the group, so its upper bound comes from a condition on the name.
    have hends : (f.rangeOf (bothEnds (String.ofList [d]))).value
        = .range (.text (String.ofList [d])) (.text (String.ofList [d])) := rfl
    obtain ⟨c, hc, g, hbound⟩ :=
      exists_of_mem_groupedFilters_upper (List.mem_of_mem_filter hmem) hends
    obtain ⟨⟨name, symbol, value⟩, op, hparts, hnamed, hop, hside, -, hvalue⟩ :=
      groupedBound?_eq_some_iff.1 hbound
    obtain ⟨rfl, -, hpoint, -⟩ := Wire.readCondition?_eq_some_iff.1 hparts
    obtain ⟨hg, rfl⟩ := Scheme.mem_of_named? hnamed
    obtain rfl : g = f := List.mem_singleton.1 hg
    obtain rfl := Operator.symbol_of_ofSymbol? hop
    obtain rfl : op = .lte := eq_lte_of_ofOperator? hside
    have hne : value ≠ [] := by
      rintro rfl
      exact absurd hvalue (by simp [Wire.unquoteItem])
    rw [grouped_grouped] at hc
    exact Wire.legible_of_mem_splitConditions hpoint hd hne hc
  · -- The filter is not the one that the field starts with.
    obtain ⟨g, hg, hmade⟩ := exists_of_mem_mapM halways hmem
    obtain rfl : g = f := List.mem_singleton.1 (List.mem_of_mem_filter hg)
    exact absurd hmade hstart

/-! ### Both forms -/

/-- Some character that has no meaning bounds a range that the field does not start with.  There are
at least two characters, and a field starts with at most one of the two filters. -/
theorem exists_start_ne (f : Field) : ∃ d : Char, Wire.quoteText [d] = [d] ∧
    Filter.start f ≠ .ok (f.rangeOf (bothEnds (String.ofList [d]))) := by
  by_cases h : Filter.start f = .ok (f.rangeOf (bothEnds (String.ofList ['0'])))
  · refine ⟨'1', rfl, ?_⟩
    rw [h]
    simp [rangeOf, bothEnds, TextBound.last, Value.ofBound]
  · exact ⟨'0', rfl, h⟩

/-- Alone in its scheme, a field is the one of its name.  A parameter with the same name is its
own. -/
theorem fieldOf?_singleton (f : Field) (groupKey : String) :
    (⟨[f], groupKey⟩ : Scheme).named? f.name = some f ∧
      (⟨[f], groupKey⟩ : Scheme).fieldOf? f.name = some f := by
  have hnamed : (⟨[f], groupKey⟩ : Scheme).named? f.name = some f := by
    simp [Scheme.named?]
  refine ⟨hnamed, ?_⟩
  rw [Scheme.fieldOf?, hnamed]
  by_cases hcustom : f.customKey? = some f.name <;> simp [Scheme.keyed?, hcustom]

/-- **The two forms of bounds.**  Let a range field have a name, one that is not the grouping
parameter, and let some texts bound it, in any order and as often as they like.  As values of the
parameter of the field they are always read as one filter with the last lower and the last upper
bound, in front of those of other fields that are always on.  As conditions of the grouping
parameter they are read in the same way if the name is legible.  And only then: for any other name
there are bounds that are read differently from the group, even where there is no other field. -/
theorem bounds_read {f : Field} (hrange : f.kind.isRange = true) (hname : f.name ≠ "")
    {groupKey : String} (hkey : f.name ≠ groupKey) :
    (∀ s : Scheme, s.groupKey = groupKey → s.fieldOf? f.name = some f →
      s.named? f.name = some f → ∀ bounds, bounds ≠ [] →
        s.read (f.direct bounds)
            = (alwaysOn s [f.name]).map (fun always => ⟨f.rangeOf bounds :: always, .empty⟩) ∧
          (Wire.Legible f.name.toList →
            s.read (f.grouped groupKey bounds) = s.read (f.direct bounds))) ∧
      (Wire.Legible f.name.toList ↔ ∀ bounds, bounds ≠ [] →
        ((⟨[f], groupKey⟩ : Scheme).read (f.grouped groupKey bounds)).map Reading.filters
          = ((⟨[f], groupKey⟩ : Scheme).read (f.direct bounds)).map Reading.filters) := by
  obtain ⟨hnamed, hof⟩ := fieldOf?_singleton f groupKey
  refine ⟨?_, fun hlegible bounds hne => ?_, fun hagree => ?_⟩
  · rintro s rfl hof hnamed bounds hne
    have hdirect := read_direct hrange hkey hof hne
    refine ⟨hdirect, fun hlegible => ?_⟩
    rw [hdirect, read_grouped hrange hname hlegible hnamed hne]
  · have hgrouped := read_grouped hrange hname hlegible hnamed hne
    rw [read_direct hrange hkey hof hne, ← hgrouped]
  · -- If the name is not legible, one character at both ends is enough to tell the forms apart.
    obtain ⟨d, hd, hstart⟩ := exists_start_ne f
    have hne : bothEnds (String.ofList [d]) ≠ [] := List.cons_ne_nil _ _
    have halways : alwaysOn ⟨[f], groupKey⟩ [f.name] = .ok [] := by
      simp [alwaysOn, pure, Except.pure]
    have hfilters := hagree _ hne
    rw [read_direct hrange hkey hof hne, halways] at hfilters
    cases hread : (⟨[f], groupKey⟩ : Scheme).read
        (f.grouped groupKey (bothEnds (String.ofList [d]))) with
    | error e =>
      rw [hread] at hfilters
      exact absurd hfilters (by simp [Except.map])
    | ok r =>
      rw [hread] at hfilters
      have hr : r.filters = [f.rangeOf (bothEnds (String.ofList [d]))] := Except.ok.inj hfilters
      exact legible_of_mem_filters hrange hd hstart hread (by simp [hr])

/-- A field whose name holds a comma between brackets.  The comma is protected by the brackets
around it, so that the name is legible. -/
def bracketed : Field :=
  .ofKind .dateRange "a(,) b"

/-- Its bounds are read from the group, the last one at either end. -/
theorem bracketed_bounds_read :
    (⟨[bracketed], "and"⟩ : Scheme).read
        (bracketed.grouped "and" [⟨.upper, "1"⟩, ⟨.lower, "2,3"⟩, ⟨.upper, "4"⟩])
      = .ok ⟨[⟨"a(,) b", .between, .range (.text "2,3") (.text "4"), some bracketed, "a(,) b"⟩],
        .empty⟩ := by
  have hrange : bracketed.kind.isRange = true := rfl
  obtain ⟨hforms, -⟩ := bounds_read hrange (by decide) (show bracketed.name ≠ "and" by decide)
  obtain ⟨hdirect, hgrouped⟩ := hforms ⟨[bracketed], "and"⟩ rfl rfl rfl _ (List.cons_ne_nil _ _)
  have hlegible : Wire.Legible bracketed.name.toList := by decide
  rw [hgrouped hlegible, hdirect]
  rfl

/-- With a point in the name nothing is read from the group. -/
example : ((⟨[.ofKind .dateRange "a.b"], "and"⟩ : Scheme).read
    ((ofKind .dateRange "a.b").grouped "and" [⟨.lower, "1"⟩])).map Reading.filters = .ok [] := rfl

end Field

end UrlFilter
