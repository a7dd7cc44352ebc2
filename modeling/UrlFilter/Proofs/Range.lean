import UrlFilter.Proofs.Reading
import UrlFilter.Writing

namespace UrlFilter

open Reading

/-!
# Ranges

A range is written as conditions of the grouping parameter, and read from them.

* `FieldRange` — a range of a field, of which at least one bound is given.
* `FieldRange.filter`, `FieldRange.conditions` — the filter it makes, and what is written of it.
* `exists_of_rangeFilter?` — every range that is read is one of these.
* `FieldRange.groupedFilters_flatMap_conditions` — the conditions of ranges read back as their
  filters.
-/

/-- A bound that is given or not.  A bound that is not given is absent, and not empty. -/
def Value.ofBound : Option String → Value
  | some t => .text t
  | none => .null

theorem Value.isWritable_ofBound (bound : Option String) : (ofBound bound).isWritable = true := by
  cases bound <;> rfl

/-- A range of a field of the scheme.  At least one of its bounds is given.  The structure carries
what reading guarantees, so that later proofs need not ask for it again. -/
structure FieldRange (s : Scheme) where
  field : Field
  mem : field ∈ s.fields
  isRange : field.kind.isRange = true
  lower : Option String
  upper : Option String
  given : lower.isSome = true ∨ upper.isSome = true

namespace FieldRange

variable {s : Scheme}

/-- The two bounds.  They stand in order, the lower one first. -/
def value (r : FieldRange s) : Value :=
  .range (.ofBound r.lower) (.ofBound r.upper)

/-- The filter that reading makes of the range.  Its identifier is the name of the field. -/
def filter (r : FieldRange s) : Filter :=
  ⟨r.field.name, .between, r.value, some r.field, r.field.name⟩

/-- The conditions that are written of the range.  There are one or two of them. -/
def conditions (r : FieldRange s) : List (List Char) :=
  (r.lower.toList.map fun t => Wire.condition r.field.name .gte (.text t))
    ++ r.upper.toList.map fun t => Wire.condition r.field.name .lte (.text t)

/-- The bounds that are read of the range.  They stand in the order of the conditions. -/
def bounds (r : FieldRange s) : List Bound :=
  (r.lower.toList.map fun t => ⟨.lower, .text t⟩) ++ r.upper.toList.map fun t => ⟨.upper, .text t⟩

variable (r : FieldRange s)

theorem bounds_ne_nil : r.bounds ≠ [] := by
  obtain ⟨f, hf, hrange, _ | lower, _ | upper, given⟩ := r
  · exact absurd given (by decide)
  all_goals simp [bounds]

theorem conditions_ne_nil : r.conditions ≠ [] := by
  obtain ⟨f, hf, hrange, _ | lower, _ | upper, given⟩ := r
  · exact absurd given (by decide)
  all_goals simp [conditions]

/-! ### Writing -/

theorem rangeConditions_value :
    Writing.rangeConditions r.field.name r.value = .ok r.conditions := by
  obtain ⟨f, hf, hrange, lower, upper, given⟩ := r
  cases lower <;> cases upper <;> rfl

theorem isUnset_value : r.value.isUnset = false := by
  obtain ⟨f, hf, hrange, _ | lower, _ | upper, given⟩ := r
  · exact absurd given (by decide)
  all_goals rfl

/-- Every condition of a range has its field, one of the two operators and a single text.  So its
name decides whether a reader finds it again. -/
theorem exists_of_mem_conditions {c : List Char} (h : c ∈ r.conditions) :
    ∃ op t, c = Wire.condition r.field.name op (.text t) := by
  rw [conditions, List.mem_append, List.mem_map, List.mem_map] at h
  rcases h with ⟨t, -, rfl⟩ | ⟨t, -, rfl⟩
  · exact ⟨.gte, t, rfl⟩
  · exact ⟨.lte, t, rfl⟩

/-- **A reader keeps the conditions of ranges apart,** and they are closed.  Plain names need no
quotes. -/
theorem separable_flatMap_conditions (hs : s.Plain) (ranges : List (FieldRange s)) :
    Wire.Separable (ranges.flatMap conditions) ∧
      ∀ c ∈ ranges.flatMap conditions, Wire.Closed c := by
  apply separable_of_plainName
  intro c hc
  obtain ⟨r, hr, hc⟩ := List.mem_flatMap.1 hc
  obtain ⟨op, t, rfl⟩ := r.exists_of_mem_conditions hc
  exact ⟨_, op, _, hs.name_plain r.field r.mem, rfl⟩

/-! ### Reading -/

theorem rangeFilter?_bounds : rangeFilter? r.field r.bounds = some r.filter := by
  obtain ⟨f, hf, hrange, _ | lower, _ | upper, given⟩ := r
  · exact absurd given (by decide)
  all_goals rfl

end FieldRange

/-- The last of some bounds that are texts is a text, if there is one.  Without any bound on this
side, it is absent. -/
theorem exists_lastAt {bounds : List Bound} (h : ∀ b ∈ bounds, ∃ t, b.value = .text t)
    (side : End) :
    ∃ o : Option String, lastAt side bounds = .ofBound o ∧
      ((∃ b ∈ bounds, b.side = side) → o.isSome = true) := by
  unfold lastAt
  -- Either nothing bounds the side, or the last of what does.
  cases hl : (bounds.filter fun b => b.side == side).getLast? with
  | none =>
    refine ⟨none, rfl, ?_⟩
    rintro ⟨b, hb, rfl⟩
    have hnil := List.getLast?_eq_none_iff.1 hl
    have hmem : b ∈ bounds.filter fun c => c.side == b.side := List.mem_filter.2 ⟨hb, by simp⟩
    rw [hnil] at hmem
    exact absurd hmem (by simp)
  | some b =>
    obtain ⟨t, ht⟩ := h b (List.mem_of_mem_filter (List.mem_of_getLast? hl))
    exact ⟨some t, by simp [ht, Value.ofBound], fun _ => rfl⟩

/-- **Every range that is read has a bound.**  The filter is made only if some bound is there. -/
theorem exists_of_rangeFilter? {s : Scheme} {f : Field} (hmem : f ∈ s.fields)
    (hrange : f.kind.isRange = true) {bounds : List Bound} {filter : Filter}
    (h : ∀ b ∈ bounds, ∃ t, b.value = .text t) (hf : rangeFilter? f bounds = some filter) :
    ∃ r : FieldRange s, r.filter = filter := by
  obtain ⟨lower, hlower, hgiven⟩ := exists_lastAt h .lower
  obtain ⟨upper, hupper, hgiven'⟩ := exists_lastAt h .upper
  unfold rangeFilter? at hf
  split at hf
  · simp at hf
  · next hne =>
    obtain ⟨b, bounds, rfl⟩ := List.exists_cons_of_ne_nil (by simpa using hne)
    -- The first bound is on one side or the other, so that this side is given.
    have hsome : lower.isSome = true ∨ upper.isSome = true := by
      cases hb : b.side with
      | lower => exact .inl (hgiven ⟨b, by simp, hb⟩)
      | upper => exact .inr (hgiven' ⟨b, by simp, hb⟩)
    refine ⟨⟨f, hmem, hrange, lower, upper, hsome⟩, ?_⟩
    rw [← Option.some.inj hf, hlower, hupper]
    rfl

theorem Reading.End.ofOperator?_gte : End.ofOperator? .gte = some .lower := rfl

theorem Reading.End.ofOperator?_lte : End.ofOperator? .lte = some .upper := rfl

/-- A written condition on a name without a point reads back as the bound it was written for.
Quotes around the text are taken away again. -/
theorem groupedBound?_written {s : Scheme} {f : Field} (hne : f.name ≠ "")
    (hpoint : '.' ∉ f.name.toList) (hnamed : s.named? f.name = some f)
    (hrange : f.kind.isRange = true) {op : Operator} {side : End}
    (hside : End.ofOperator? op = some side) (t : String) :
    groupedBound? s (Wire.condition f.name op (.text t)) = some (f, ⟨side, .text t⟩) := by
  -- The parts of the condition are its field, its symbol and its value as an item.
  have hparts : Wire.readCondition? (Wire.condition f.name op (.text t))
      = some ⟨f.name, op.symbol, Wire.quoteText t.toList⟩ :=
    Wire.readCondition?_eq_some_iff.2
      ⟨Wire.condition_text f.name op t, hne, hpoint, Wire.point_not_mem_symbol op⟩
  refine groupedBound?_eq_some_iff.2
    ⟨_, op, hparts, hnamed, Operator.ofSymbol?_symbol op, hside, hrange, ?_⟩
  rw [Wire.unquoteItem_quoteText, String.ofList_toList]

namespace FieldRange

variable {s : Scheme}

/-- A written condition reads back as the bound it was written for.  The names of a plain scheme
have no points. -/
theorem groupedBound?_condition (hs : s.Plain) {f : Field} (hf : f ∈ s.fields)
    (hrange : f.kind.isRange = true) {op : Operator} {side : End}
    (hside : End.ofOperator? op = some side) (t : String) :
    groupedBound? s (Wire.condition f.name op (.text t)) = some (f, ⟨side, .text t⟩) :=
  groupedBound?_written (hs.name_plain f hf).1 (hs.name_plain f hf).point_not_mem
    (hs.named?_eq_some_iff.2 ⟨hf, rfl⟩) hrange hside t

/-- The conditions of a range read back as its bounds.  They are all of its field. -/
theorem filterMap_groupedBound? (hs : s.Plain) (r : FieldRange s) :
    r.conditions.filterMap (groupedBound? s) = r.bounds.map fun b => (r.field, b) := by
  have hlower := groupedBound?_condition hs r.mem r.isRange End.ofOperator?_gte
  have hupper := groupedBound?_condition hs r.mem r.isRange End.ofOperator?_lte
  -- Four cases, by which of the two bounds are given.
  obtain ⟨f, hf, hrange, lower, upper, given⟩ := r
  cases lower <;> cases upper <;> simp [conditions, bounds, hlower, hupper]

end FieldRange

/-- Equal names in front of others count once.  The name comes first, and not again. -/
theorem eraseDups_append_of_eq {name : String} {front : List String} (hne : front ≠ [])
    (heq : ∀ other ∈ front, other = name) {back : List String} (hback : name ∉ back) :
    (front ++ back).eraseDups = name :: back.eraseDups := by
  obtain ⟨first, front, rfl⟩ := List.exists_cons_of_ne_nil hne
  obtain rfl := heq first (by simp)
  have hfront : (front.filter fun b => !b == first) = [] := by
    rw [List.filter_eq_nil_iff]
    intro other hother
    simp [heq other (by simp [hother])]
  have hkeep : (back.filter fun b => !b == first) = back := by
    rw [List.filter_eq_self]
    intro other hother
    have hother' : other ≠ first := fun h => hback (h ▸ hother)
    simp [hother']
  rw [List.cons_append, List.eraseDups_cons, List.filter_append, hfront, hkeep, List.nil_append]

namespace FieldRange

variable {s : Scheme}

/-- The conditions of a range in front of conditions on other fields read back as its filter.  The
others are read as if the range were not there. -/
theorem groupedFilters_append (hs : s.Plain) (r : FieldRange s) {others : List (List Char)}
    (hothers : ∀ b ∈ others.filterMap (groupedBound? s), b.1.name ≠ r.field.name) :
    groupedFilters s (r.conditions ++ others) = r.filter :: groupedFilters s others := by
  unfold groupedFilters
  rw [List.filterMap_append, filterMap_groupedBound? hs]
  generalize others.filterMap (groupedBound? s) = back at hothers
  -- The bounds of the range come first, and no other bound is of its field.
  have hnames : ((r.bounds.map fun b => (r.field, b)) ++ back).map (fun b => b.1.name)
      = (r.bounds.map fun _ => r.field.name) ++ back.map fun b => b.1.name := by
    simp [Function.comp_def]
  have hfirst : (((r.bounds.map fun b => (r.field, b)) ++ back).filter
      fun b => b.1.name == r.field.name) = r.bounds.map fun b => (r.field, b) := by
    rw [List.filter_append, List.filter_eq_self.2 (by simp),
      List.filter_eq_nil_iff.2 (by simpa using hothers), List.append_nil]
  have hrest : ∀ name, name ≠ r.field.name →
      ((r.bounds.map fun b => (r.field, b)) ++ back).filter (fun b => b.1.name == name)
        = back.filter fun b => b.1.name == name := by
    intro name hname
    rw [List.filter_append, List.filter_eq_nil_iff.2 (by simp [hname.symm]), List.nil_append]
  have hfilter : (s.named? r.field.name).bind (fun f => rangeFilter? f r.bounds)
      = some r.filter := by
    rw [hs.named?_eq_some_iff.2 ⟨r.mem, rfl⟩]
    exact r.rangeFilter?_bounds
  have hdups : ((r.bounds.map fun _ => r.field.name) ++ back.map fun b => b.1.name).eraseDups
      = r.field.name :: (back.map fun b => b.1.name).eraseDups := by
    refine eraseDups_append_of_eq (by simpa using r.bounds_ne_nil) (by simp) ?_
    rw [List.mem_map]
    rintro ⟨b, hb, hname⟩
    exact hothers b hb hname
  simp only [hnames]
  rw [hdups, List.filterMap_cons]
  have hbounds : ((r.bounds.map fun b => (r.field, b)).map (·.2)) = r.bounds := by
    simp [Function.comp_def]
  simp only [hfirst, hbounds, Option.bind_eq_bind, hfilter]
  congr 1
  -- For the other fields nothing is lost with the bounds in front.
  apply List.filterMap_congr
  intro name hname
  rw [List.mem_eraseDups, List.mem_map] at hname
  obtain ⟨b, hb, rfl⟩ := hname
  rw [hrest _ (hothers b hb)]

/-- **The conditions of ranges of different fields read back as their filters,** in the order of the
ranges. -/
theorem groupedFilters_flatMap_conditions (hs : s.Plain) {ranges : List (FieldRange s)}
    (hnd : (ranges.map fun r => r.field.name).Nodup) :
    groupedFilters s (ranges.flatMap conditions) = ranges.map filter := by
  induction ranges with
  | nil => rfl
  | cons r ranges ih =>
    rw [List.map_cons, List.nodup_cons] at hnd
    rw [List.flatMap_cons, groupedFilters_append hs, ih hnd.2, List.map_cons]
    intro b hb
    -- A bound among the others is one of another range, hence of another field.
    rw [List.filterMap_flatMap, List.mem_flatMap] at hb
    obtain ⟨other, hother, hb⟩ := hb
    rw [filterMap_groupedBound? hs, List.mem_map] at hb
    obtain ⟨bound, -, rfl⟩ := hb
    exact fun hname => hnd.1 (List.mem_map.2 ⟨other, hother, hname⟩)

/-- Each condition of a range bounds its field.  So it is not left over. -/
theorem isNone_groupedBound? (hs : s.Plain) {r : FieldRange s} {c : List Char}
    (hc : c ∈ r.conditions) : (groupedBound? s c).isNone = false := by
  rw [conditions, List.mem_append, List.mem_map, List.mem_map] at hc
  rcases hc with ⟨t, -, rfl⟩ | ⟨t, -, rfl⟩
  · rw [groupedBound?_condition hs r.mem r.isRange End.ofOperator?_gte]
    rfl
  · rw [groupedBound?_condition hs r.mem r.isRange End.ofOperator?_lte]
    rfl

/-- Of the conditions of ranges none is left.  Nothing remains of a group that was written from
ranges. -/
theorem kept_flatMap_conditions (hs : s.Plain) (ranges : List (FieldRange s)) :
    s.kept (ranges.flatMap conditions) = [] := by
  rw [Scheme.kept, List.filter_eq_nil_iff]
  intro c hc
  obtain ⟨r, -, hc⟩ := List.mem_flatMap.1 hc
  rw [r.isNone_groupedBound? hs hc]
  exact Bool.false_ne_true

end FieldRange

/-- Conditions that bound no range make no filter.  They may stand in front of the others. -/
theorem groupedFilters_append_of_eq_none {s : Scheme} {kept : List (List Char)}
    (h : ∀ c ∈ kept, groupedBound? s c = none) (others : List (List Char)) :
    groupedFilters s (kept ++ others) = groupedFilters s others := by
  have hnil : kept.filterMap (groupedBound? s) = [] := by
    rw [List.filterMap_eq_nil_iff]
    exact h
  rw [groupedFilters, List.filterMap_append, hnil, List.nil_append, groupedFilters]

end UrlFilter
