import UrlFilter.Proofs.RoundTrip

namespace UrlFilter

open Reading

/-!
# Reading twice

Whatever is read, however malformed the parameters are, can be written and read again.  The second
reading gives what the first one gave, unless the text that is left of the grouping parameter does
not keep its conditions apart.

* `Scheme.Plain.read_textual` — what is read is made of parts.
* `Scheme.rejoined` — the conditions that are read of a text with ranges behind it.
* `Scheme.Plain.commaJoin_kept_rejoined_iff` — when the text is left again.
* `Scheme.Plain.read_again_iff` — when the second reading gives what the first one gave.
-/

/-- Only range fields allow ranges.  This is so of all kinds of fields with the operators that their
kind gives them. -/
def Scheme.RangesOnly (s : Scheme) : Prop :=
  ∀ f ∈ s.fields, .between ∈ f.operators → f.kind.isRange = true

namespace Reading

variable {s : Scheme}

/-! ### Whatever is read is made of parts -/

/-- A bound that a text asks for is a text.  No bound is a list or a truth value, as only the two
comparisons make bounds. -/
theorem exists_text_of_bound? {raw : Value} {b : Bound} (h : bound? raw = some b) :
    ∃ t, b.value = .text t := by
  simp only [bound?, Option.bind_eq_bind, Option.bind_eq_some_iff, Option.pure_def,
    Option.some.injEq] at h
  obtain ⟨⟨op, v⟩, hread, side, hside, rfl⟩ := h
  obtain ⟨-, hsettled⟩ := Wire.settled_of_read? hread
  have hop : op = .gte ∨ op = .lte := by
    cases op <;> simp_all [End.ofOperator?]
  -- The operators of bounds take neither lists nor truth values.
  match v, hsettled with
  | .text t, _ => exact ⟨t, rfl⟩
  | .list _, hsettled => obtain rfl | rfl := hop <;> exact absurd hsettled.1 (by decide)
  | .bool _, hsettled => obtain rfl | rfl := hop <;> simp [Wire.Settled] at hsettled

/-- The filter of a parameter is a range of the field, or asks for a value that its operator takes
as it is.  The last text of a parameter decides, where the field is no range. -/
theorem cases_of_directFilter? (hranges : s.RangesOnly) {c : Field} (hmem : c ∈ s.fields)
    {raw : Value} (htext : raw.Textual) {f : Filter} (h : directFilter? c raw = some f) :
    (∃ r : FieldRange s, r.filter = f) ∨
      (c.kind.isRange = false ∧ ∃ op v, op.onWire = true ∧ Wire.Settled op v ∧
        f = ⟨c.name, op, v, some c, c.name⟩) := by
  unfold directFilter? at h
  by_cases hrange : c.kind.isRange = true
  · rw [if_pos hrange] at h
    refine .inl (exists_of_rangeFilter? hmem hrange (fun b hb => ?_) h)
    obtain ⟨raw, -, hb⟩ := List.mem_filterMap.1 hb
    exact exists_text_of_bound? hb
  · rw [if_neg hrange, Option.map_eq_some_iff] at h
    obtain ⟨last, hlast, rfl⟩ := h
    obtain ⟨ts, hts⟩ := values_of_textual htext
    rw [hts, List.getLast?_map, Option.map_eq_some_iff] at hlast
    obtain ⟨t, -, rfl⟩ := hlast
    rcases operatorAndValue_cases c t with ⟨hwire, hsettled⟩ | ⟨hdefault, -⟩
    · exact .inr ⟨by simpa using hrange, _, _, hwire, hsettled, rfl⟩
    · exact absurd (hranges c hmem (hdefault ▸ c.default_mem)) hrange

/-- The filter of an entry is a part, unless its value is not set.  A value that is not set makes a
filter that is not written. -/
theorem exists_part_of_entryFilter? (hranges : s.RangesOnly) {e : String × Value}
    (htext : e.2.Textual) {f : Filter} (h : entryFilter? s e = some f)
    (hset : f.value.isUnset = false) : ∃ part : Part s, part.filter = f := by
  rw [entryFilter?, Option.bind_eq_some_iff] at h
  obtain ⟨c, hc, h⟩ := h
  obtain ⟨hmem, -⟩ := Scheme.mem_of_named? hc
  rcases cases_of_directFilter? hranges hmem htext h with
    ⟨r, rfl⟩ | ⟨hsingle, op, v, hwire, hsettled, rfl⟩
  · exact ⟨.range r, rfl⟩
  · exact ⟨.value ⟨c, hmem, hsingle, op, hwire, v, hsettled, hset⟩, rfl⟩

/-- The filter of a group is a part.  A range that a group makes has at least one bound. -/
theorem exists_part_of_groupedFilters {conditions : List (List Char)} {f : Filter}
    (h : f ∈ groupedFilters s conditions) : ∃ part : Part s, part.filter = f := by
  obtain ⟨c, bounds, hc, hrange, hfilter, htext⟩ := exists_of_mem_groupedFilters h
  obtain ⟨r, hr⟩ := exists_of_rangeFilter? (Scheme.mem_of_named? hc).1 hrange htext hfilter
  exact ⟨.range r, hr⟩

/-- No field that is not always on gets a filter to start with.  With this, reading texts cannot
fail. -/
theorem alwaysOn_of_off (hoff : ∀ f ∈ s.fields, f.alwaysOn = false) (seen : List String) :
    alwaysOn s seen = .ok [] := by
  have hnil : (s.fields.filter fun f => f.alwaysOn && !seen.contains f.name) = [] := by
    rw [List.filter_eq_nil_iff]
    intro f hf
    simp [hoff f hf]
  rw [alwaysOn, hnil]
  rfl

end Reading

namespace Scheme

variable {s : Scheme}

/-- **What is read of texts,** if no field is always on: filters of different fields, made of parts
unless their values are not set.  What is left over is what the first reading could not use. -/
theorem Plain.read_textual (hs : s.Plain) (hranges : s.RangesOnly)
    (hoff : ∀ f ∈ s.fields, f.alwaysOn = false) {p : Params}
    (htext : ∀ e ∈ p.entries, e.2.Textual) :
    ∃ r, s.read p = .ok r ∧
      r.remaining.entries = ((s.beside p).filter fun e => (s.named? e.1).isNone)
        ++ s.residue (s.grouped p) ∧
      ∃ parts : List (Part s),
        parts.map Part.filter = r.filters.filter (fun f => !f.value.isUnset) ∧
          (parts.map Part.name).Nodup := by
  have hbeside : ∀ e ∈ s.beside p, e.2.Textual := fun e he => htext e (List.mem_of_mem_filter he)
  obtain ⟨rest, hrest, hread⟩ := hs.read_eq hbeside
  rw [alwaysOn_of_off hoff] at hread
  refine ⟨⟨(s.beside p).filterMap (entryFilter? s)
    ++ ((groupedFilters s (s.grouped p)).filter fun f =>
      !((s.beside p).map Prod.fst).contains f.field) ++ [], rest⟩, hread, hrest, ?_⟩
  rw [List.append_nil]
  -- Each filter that is set comes from an entry or from the group, and is a part in both cases.
  have hall : ∀ f ∈ ((s.beside p).filterMap (entryFilter? s)
      ++ (groupedFilters s (s.grouped p)).filter fun f =>
        !((s.beside p).map Prod.fst).contains f.field).filter fun f => !f.value.isUnset,
      ∃ part : Part s, part.filter = f := by
    intro f hf
    obtain ⟨hmem, hset⟩ := List.mem_filter.1 hf
    rcases List.mem_append.1 hmem with hmem | hmem
    · obtain ⟨e, he, hfilter⟩ := List.mem_filterMap.1 hmem
      exact exists_part_of_entryFilter? hranges (hbeside e he) hfilter (by simpa using hset)
    · exact exists_part_of_groupedFilters (List.mem_of_mem_filter hmem)
  obtain ⟨parts, hparts⟩ := Part.exists_map_filter hall
  refine ⟨parts, hparts, ?_⟩
  rw [← Part.map_field_filter, hparts]
  refine List.Nodup.sublist (List.filter_sublist.map _) ?_
  -- The fields of the entries differ, so do those of the group, and the latter have no entry.
  have hkeys : ((s.beside p).map Prod.fst).Nodup := p.nodup.sublist (List.filter_sublist.map _)
  have hsub : (((s.beside p).filterMap (entryFilter? s)).map Filter.field).Sublist
      ((s.beside p).map Prod.fst) :=
    map_filterMap_sublist (fun _ _ h => field_of_entryFilter? h) _
  rw [List.map_append, List.nodup_append]
  refine ⟨hkeys.sublist hsub, ?_, ?_⟩
  · exact (nodup_field_groupedFilters _).sublist (List.filter_sublist.map _)
  · intro name hentry other hgroup
    rintro rfl
    obtain ⟨f, hf, rfl⟩ := List.mem_map.1 hgroup
    have hnew := List.of_mem_filter hf
    simp [hsub.subset hentry] at hnew

/-! ### What is left of a group -/

/-- The conditions that are read of a text with ranges behind it.  The text is the one that the
first reading left, and the ranges are those that it read. -/
def rejoined (t : List Char) (ranges : List (FieldRange s)) : List (List Char) :=
  Wire.splitConditions
    (Wire.commaJoin (Wire.splitConditions t ++ ranges.flatMap FieldRange.conditions))

/-- **A condition stays a bound if its end is cut off at a comma:** its field and its operator hold
no comma.  So a condition that was no bound cannot become one by taking in what follows it. -/
theorem Plain.groupedBound?_of_append_comma (hs : s.Plain) {front more : List Char}
    (h : groupedBound? s (front ++ ',' :: more) ≠ none) : groupedBound? s front ≠ none := by
  obtain ⟨⟨f, b⟩, hb⟩ := Option.ne_none_iff_exists'.1 h
  obtain ⟨parts, op, hparts, hf, hop, hside, hrange, -⟩ := groupedBound?_eq_some_iff.1 hb
  obtain ⟨heq, hne, hfield, hsymbol⟩ := Wire.readCondition?_eq_some_iff.1 hparts
  have hcomma : ',' ∉ parts.field.toList ++ '.' :: (parts.symbol.toList ++ ['.']) := by
    have hname : ',' ∉ parts.field.toList := by
      obtain ⟨hmem, hname⟩ := mem_of_named? hf
      rw [← hname]
      exact (hs.name_plain f hmem).comma_not_mem
    have hop' : ',' ∉ parts.symbol.toList := by
      rw [← Operator.symbol_of_ofSymbol? hop]
      exact Wire.comma_not_mem_symbol op
    simp [hname, hop']
  -- The comma stands behind the second point, hence in the value.
  have hsplit : front ++ ',' :: more
      = (parts.field.toList ++ '.' :: (parts.symbol.toList ++ ['.'])) ++ parts.value := by
    simpa using heq
  obtain ⟨value, rfl⟩ := Text.exists_eq_append_of_not_mem hsplit hcomma
  have hread : Wire.readCondition? (parts.field.toList ++ '.' :: (parts.symbol.toList ++ ['.'])
      ++ value) = some ⟨parts.field, parts.symbol, value⟩ :=
    Wire.readCondition?_eq_some_iff.2 ⟨by simp, hne, hfield, hsymbol⟩
  have hbound : groupedBound? s (parts.field.toList ++ '.' :: (parts.symbol.toList ++ ['.'])
      ++ value) = some (f, ⟨b.side, .text (String.ofList (Wire.unquoteItem value))⟩) :=
    groupedBound?_eq_some_iff.2 ⟨_, op, hread, hf, hop, hside, hrange, rfl⟩
  rw [hbound]
  exact Option.some_ne_none _

/-- A text that closes its quotes and brackets keeps its conditions apart from ranges behind it.
This is the good case, in which the second reading finds what was written. -/
theorem Plain.rejoined_of_closed (hs : s.Plain) {t : List Char} {ranges : List (FieldRange s)}
    (hjoin : Wire.commaJoin (Wire.splitConditions t) = t)
    (hclosed : ranges ≠ [] → Wire.Closed t) :
    rejoined t ranges = Wire.splitConditions t ++ ranges.flatMap FieldRange.conditions := by
  have hsep := Wire.separable_splitConditions t
  -- Without ranges nothing follows, so the text need not be closed.
  by_cases hranges : ranges = []
  · rw [rejoined, hranges, List.flatMap_nil, List.append_nil, Wire.splitConditions_commaJoin hsep]
  · have hall : ∀ c ∈ Wire.splitConditions t, Wire.Closed c := by
      rw [← Wire.closed_commaJoin_iff hsep, hjoin]
      exact hclosed hranges
    exact Wire.splitConditions_commaJoin
      (hsep.append hall (FieldRange.separable_flatMap_conditions hs ranges).1)

/-- Behind a text that leaves a quote or a bracket open, the first of the conditions that follow is
taken into the last one of the text.  The conditions in front of it are not touched. -/
theorem exists_rejoined_of_open {t : List Char} {ranges : List (FieldRange s)}
    (hranges : ranges ≠ []) (hjoin : Wire.commaJoin (Wire.splitConditions t) = t)
    (hopen : ¬ Wire.Closed t) :
    ∃ front last glued others, Wire.splitConditions t = front ++ [last] ∧
      rejoined t ranges = front ++ (last ++ ',' :: glued) :: others := by
  have hsep := Wire.separable_splitConditions t
  have hne : Wire.splitConditions t ≠ [] := by
    intro hnil
    rw [hnil] at hjoin
    rw [← hjoin] at hopen
    exact hopen (by decide)
  obtain ⟨front, last, hlast⟩ := (List.eq_nil_or_concat' _).resolve_left hne
  have hconditions : ranges.flatMap FieldRange.conditions ≠ [] := by
    obtain ⟨r, others, rfl⟩ := List.exists_cons_of_ne_nil hranges
    simp [r.conditions_ne_nil]
  rw [hlast] at hsep hjoin
  -- Only the last condition can be open, since a reader goes past the others.
  have hopen' : ¬ Wire.Closed last := by
    intro hclosed
    rw [← hjoin, Wire.closed_commaJoin_iff hsep] at hopen
    apply hopen
    intro c hc
    rcases List.mem_append.1 hc with hc | hc
    · exact hsep.closed c (by rwa [List.dropLast_concat])
    · obtain rfl := List.mem_singleton.1 hc
      exact hclosed
  obtain ⟨glued, others, hsplit⟩ := Wire.splitConditions_open_append hsep hopen'
    (Wire.commaJoin (ranges.flatMap FieldRange.conditions))
  refine ⟨front, last, glued, others, hlast, ?_⟩
  rw [rejoined, hlast, Wire.commaJoin_append (by simp) hconditions, hsplit]

/-- **When a text is left again:** none of its conditions is a bound, a reader splits it where its
commas stand, and it closes its quotes and brackets if ranges are written behind it.  The second of
these can fail only for a group that was given in several texts. -/
theorem Plain.commaJoin_kept_rejoined_iff (hs : s.Plain) (t : List Char)
    (ranges : List (FieldRange s)) :
    Wire.commaJoin (s.kept (rejoined t ranges)) = t ↔
      (∀ c ∈ Wire.splitConditions t, groupedBound? s c = none) ∧
        Wire.commaJoin (Wire.splitConditions t) = t ∧ (ranges ≠ [] → Wire.Closed t) := by
  constructor
  · intro hleft
    have hsep : Wire.Separable (s.kept (rejoined t ranges)) :=
      (Wire.separable_splitConditions _).sublist List.filter_sublist
    -- What is left is kept apart, so it is what a reader finds in the text.
    have hkept : Wire.splitConditions t = s.kept (rejoined t ranges) := by
      rw [← Wire.splitConditions_commaJoin hsep, hleft]
    have hnone : ∀ c ∈ Wire.splitConditions t, groupedBound? s c = none := by
      intro c hc
      rw [hkept] at hc
      simpa using List.of_mem_filter hc
    have hjoin : Wire.commaJoin (Wire.splitConditions t) = t := by rw [hkept, hleft]
    refine ⟨hnone, hjoin, fun hranges => ?_⟩
    by_contra hopen
    obtain ⟨front, last, glued, others, hsplit, hrejoined⟩ :=
      exists_rejoined_of_open hranges hjoin hopen
    rw [hsplit, hrejoined, kept, List.filter_append] at hkept
    have hfront : (front.filter fun c => (groupedBound? s c).isNone) = front := by
      rw [List.filter_eq_self]
      intro c hc
      simp [hnone c (by simp [hsplit, hc])]
    have hglued : groupedBound? s (last ++ ',' :: glued) = none := by
      by_contra hbound
      exact hs.groupedBound?_of_append_comma hbound (hnone last (by simp [hsplit]))
    rw [hfront, List.filter_cons_of_pos (by simp [hglued])] at hkept
    have hlast := List.append_cancel_left hkept
    simp at hlast
  · rintro ⟨hnone, hjoin, hclosed⟩
    have hsplit : (Wire.splitConditions t).filter (fun c => (groupedBound? s c).isNone)
        = Wire.splitConditions t := by
      rw [List.filter_eq_self]
      intro c hc
      simp [hnone c hc]
    have hranges := FieldRange.kept_flatMap_conditions hs ranges
    unfold kept at hranges
    rw [hs.rejoined_of_closed hjoin hclosed, kept, List.filter_append, hsplit, hranges,
      List.append_nil, hjoin]

/-! ### Reading again -/

/-- The text that is left of the grouping parameter.  It stands in brackets where it is left
over. -/
def leftText (s : Scheme) (p : Params) : List Char :=
  Wire.commaJoin (s.kept (s.grouped p))

/-- The same is left of two groups exactly if it is the same text.  An empty text is left only of no
condition. -/
theorem residue_eq_iff {conditions others : List (List Char)} (hc : ∀ c ∈ conditions, c ≠ [])
    (ho : ∀ c ∈ others, c ≠ []) :
    s.residue conditions = s.residue others
      ↔ Wire.commaJoin (s.kept conditions) = Wire.commaJoin (s.kept others) := by
  have hnil : Wire.commaJoin (s.kept conditions) = [] ↔ s.kept conditions = [] :=
    Wire.commaJoin_eq_nil_iff fun c h => hc c (List.mem_of_mem_filter h)
  have hnil' : Wire.commaJoin (s.kept others) = [] ↔ s.kept others = [] :=
    Wire.commaJoin_eq_nil_iff fun c h => ho c (List.mem_of_mem_filter h)
  rw [residue_eq, residue_eq]
  -- Whether something is left at all shows in the text, too.
  constructor
  · intro heq
    split at heq <;> split at heq
    · simp_all
    · simp at heq
    · simp at heq
    · simpa [Writing.group, String.ofList_inj] using heq
  · intro heq
    have hboth : s.kept conditions = [] ↔ s.kept others = [] := by
      rw [← hnil, ← hnil', heq]
    by_cases h : s.kept conditions = []
    · rw [if_pos h, if_pos (hboth.1 h)]
    · rw [if_neg h, if_neg (hboth.not.1 h), Writing.group, Writing.group, heq]

/-- Two parameters of which the same is left beside the group are the same exactly if the same is
left of the group.  The entries beside the group are those that the first reading left, in the same
order. -/
theorem same_iff_of_residue {p q : Params} {front : List (String × Value)}
    (hfront : ∀ e ∈ front, e.1 ≠ s.groupKey) {conditions others : List (List Char)}
    (hp : p.entries = front ++ s.residue conditions) (hq : q.entries = front ++ s.residue others) :
    p.Same q ↔ s.residue conditions = s.residue others := by
  constructor
  · intro hsame
    have hgroup := hsame s.groupKey
    rw [get?_groupKey_of_residue hfront hp, get?_groupKey_of_residue hfront hq] at hgroup
    rw [residue_eq, residue_eq]
    split at hgroup <;> split at hgroup <;> simp_all
  · intro heq
    exact Params.same_of_perm (by rw [hp, hq, heq])

/-- What is read of a group that was left and of ranges written behind it.  The first part says that
nothing else was there. -/
theorem regrouped_of_residue {p : Params} {front : List (String × Value)}
    (hfront : ∀ e ∈ front, e.1 ≠ s.groupKey) {conditions : List (List Char)}
    (hp : p.entries = front ++ s.residue conditions) (parts : List (Part s)) :
    s.beside p = front ∧
      s.regrouped p parts = rejoined (Wire.commaJoin (s.kept conditions)) (Part.ranges parts) := by
  constructor
  · rw [beside, hp, List.filter_append, List.filter_eq_self.2, List.filter_eq_nil_iff.2,
      List.append_nil]
    · intro e he
      simp [(of_mem_residue he).1]
    · intro e he
      simpa using hfront e he
  have hget := get?_groupKey_of_residue hfront hp
  have hpresent : Writing.present (p.get? s.groupKey)
      = Wire.splitConditions (Wire.commaJoin (s.kept conditions)) := by
    rw [hget]
    by_cases hkept : s.kept conditions = []
    · rw [if_pos hkept, hkept]
      rfl
    · rw [if_neg hkept, Writing.present_group]
  rw [regrouped, rejoined, hpresent, grouped_of_get? hget]
  -- The text is split again only if ranges are written behind it.
  by_cases hranges : Part.ranges parts = []
  · rw [if_pos hranges, hranges, List.flatMap_nil, List.append_nil,
      Wire.splitConditions_commaJoin (Wire.separable_splitConditions _)]
  · rw [if_neg hranges]

/-- The conditions of a group are never empty.  Empty pieces between commas are dropped when a group
is split. -/
theorem ne_nil_of_mem_grouped {p : Params} {c : List Char} (hc : c ∈ s.grouped p) : c ≠ [] := by
  unfold grouped at hc
  split at hc
  · rw [conditions, List.mem_flatMap] at hc
    obtain ⟨chunk, -, hc⟩ := hc
    exact (Wire.separable_splitConditions _).ne_nil c hc
  · simp at hc

/-- A group that is given as a single text leaves a text that a reader splits where its commas
stand.  Several texts are split one by one, but what is left of them is joined. -/
theorem splitConditions_leftText {p : Params}
    (h : ∀ v, p.get? s.groupKey = some v → ∃ t, v = .text t) :
    Wire.splitConditions (s.leftText p) = s.kept (s.grouped p) := by
  have hsep : Wire.Separable (s.grouped p) := by
    unfold grouped
    split
    · next v hv =>
      obtain ⟨t, rfl⟩ := h v hv
      have hvalues : values (.text t) = [.text t] := rfl
      rw [conditions, hvalues, List.flatMap_singleton]
      exact Wire.separable_splitConditions _
    · exact ⟨by simp, by simp, by simp, by simp⟩
  exact Wire.splitConditions_commaJoin (hsep.sublist List.filter_sublist)

end Scheme

/-- The filters whose values are set: those that are written.  A writer skips the others. -/
def Reading.given (r : Reading) : List Filter :=
  r.filters.filter fun f => !f.value.isUnset

/-- **Reading twice.**  Whatever is read can be written and read again.  The second reading leaves
what the first one left exactly if the text left of the grouping parameter holds no bounds, is split
where its commas stand, and closes its quotes and brackets if ranges are written behind it; then it
also gives the filters that were given.  A group that is given as a single text can only fail to
close its quotes and brackets. -/
theorem Scheme.Plain.read_again_iff {s : Scheme} (hs : s.Plain) (hranges : s.RangesOnly)
    (hoff : ∀ f ∈ s.fields, f.alwaysOn = false) {p : Params}
    (htext : ∀ e ∈ p.entries, e.2.Textual) :
    ∃ r, s.read p = .ok r ∧
      ∃ q, Writing.params s.groupKey r.given r.remaining = .ok q ∧
        ∃ again, s.read q = .ok again ∧
          (again.remaining.Same r.remaining ↔
            (∀ c ∈ Wire.splitConditions (s.leftText p), groupedBound? s c = none) ∧
              Wire.commaJoin (Wire.splitConditions (s.leftText p)) = s.leftText p ∧
              ((∃ f ∈ r.given, f.operator = .between) → Wire.Closed (s.leftText p))) ∧
          (again.remaining.Same r.remaining → again.filters.Perm r.given) ∧
          ((∀ v, p.get? s.groupKey = some v → ∃ t, v = .text t) →
            (∀ c ∈ Wire.splitConditions (s.leftText p), groupedBound? s c = none) ∧
              Wire.commaJoin (Wire.splitConditions (s.leftText p)) = s.leftText p) := by
  obtain ⟨r, hread, hrest, parts, hparts, hnd⟩ := hs.read_textual hranges hoff htext
  have hgiven : parts.map Part.filter = r.given := hparts
  have hfront : ∀ e ∈ (s.beside p).filter (fun e => (s.named? e.1).isNone),
      e.1 ≠ s.groupKey := fun e he => Scheme.ne_groupKey_of_mem_beside (List.mem_of_mem_filter he)
  -- What the first reading left is of no field and textual, so parts can be written to it.
  have hbase : ∀ e ∈ r.remaining.entries, s.named? e.1 = none ∧ e.2.Textual := by
    intro e he
    rw [hrest, List.mem_append] at he
    rcases he with he | he
    · exact ⟨by simpa using List.of_mem_filter he,
        htext e (List.mem_of_mem_filter (List.mem_of_mem_filter he))⟩
    · obtain ⟨hkey, hvalue⟩ := Scheme.of_mem_residue he
      exact ⟨by rw [hkey, hs.named?_groupKey], hvalue⟩
  obtain ⟨q, hparams, rest, hrest', hread'⟩ := hs.read_params_parts hnd
    (fun e he => (hbase e he).1) fun e he => (hbase e he).2
  obtain ⟨hbeside, hregrouped⟩ := Scheme.regrouped_of_residue hfront hrest parts
  rw [← Scheme.leftText] at hregrouped
  rw [hbeside, hregrouped] at hrest'
  rw [hregrouped, alwaysOn_of_off hoff] at hread'
  simp only [Except.map, List.append_nil] at hread'
  rw [hgiven] at hparams
  have hne : ∀ c ∈ Scheme.rejoined (s.leftText p) (Part.ranges parts), c ≠ [] :=
    (Wire.separable_splitConditions _).ne_nil
  -- Only the group can differ, and it is the same if its text is.
  have hsame : rest.Same r.remaining ↔
      (∀ c ∈ Wire.splitConditions (s.leftText p), groupedBound? s c = none) ∧
        Wire.commaJoin (Wire.splitConditions (s.leftText p)) = s.leftText p ∧
        ((∃ f ∈ r.given, f.operator = .between) → Wire.Closed (s.leftText p)) := by
    rw [Scheme.same_iff_of_residue hfront hrest' hrest,
      Scheme.residue_eq_iff hne fun c hc => Scheme.ne_nil_of_mem_grouped hc,
      ← Scheme.leftText, hs.commaJoin_kept_rejoined_iff, ← hgiven, ← Part.ranges_ne_nil_iff]
  refine ⟨r, hread, q, hparams, _, hread', hsame, fun hrestsame => ?_, fun hsingle => ?_⟩
  · obtain ⟨hnone, hjoin, hclosed⟩ := hsame.1 hrestsame
    rw [← hgiven, ← Part.ranges_ne_nil_iff] at hclosed
    have hfilters : groupedFilters s (Scheme.rejoined (s.leftText p) (Part.ranges parts))
        = (Part.ranges parts).map FieldRange.filter := by
      rw [hs.rejoined_of_closed hjoin hclosed, groupedFilters_append_of_eq_none hnone,
        FieldRange.groupedFilters_flatMap_conditions hs (Part.nodup_names hnd).2.1]
    rw [hfilters, Part.filter_ranges_eq_self hnd, ← hgiven]
    exact (Part.map_perm Part.filter parts).symm
  · have hsplit := Scheme.splitConditions_leftText hsingle
    refine ⟨fun c hc => ?_, by rw [hsplit, Scheme.leftText]⟩
    rw [hsplit] at hc
    simpa using List.of_mem_filter hc

/-- Letters have a name and a date.  Neither is always on, as the result asks. -/
def Scheme.letters : Scheme where
  fields := [.ofKind .text "name", .ofKind .dateRange "made"]

/-- A date, beside a group with a bracket that is not closed.  The condition in the group is of no
field, so all of it is left. -/
def Params.openGroup : Params where
  entries := [("and", .text "(a.in.(x"), ("made", .text "gte.1")]
  nodup := by decide

/-- An open bracket takes in the range that is written behind it. -/
theorem Scheme.letters_openGroup_read_again :
    ∃ r q again, Scheme.letters.read .openGroup = .ok r ∧
      Writing.params "and" r.given r.remaining = .ok q ∧
      Scheme.letters.read q = .ok again ∧ ¬ again.remaining.Same r.remaining := by
  have hs : Scheme.letters.Plain := by decide
  have hranges : Scheme.letters.RangesOnly := by
    unfold Scheme.RangesOnly
    decide
  have hoff : ∀ f ∈ Scheme.letters.fields, f.alwaysOn = false := by decide
  have htext : ∀ e ∈ Params.openGroup.entries, e.2.Textual := by
    simp only [Params.openGroup, List.forall_mem_cons]
    exact ⟨.inl ⟨_, rfl⟩, .inl ⟨_, rfl⟩, by simp⟩
  obtain ⟨r, hread, q, hparams, again, hagain, hsame, -⟩ := hs.read_again_iff hranges hoff htext
  refine ⟨r, q, again, hread, hparams, hagain, ?_⟩
  rw [hsame]
  rintro ⟨-, -, hclosed⟩
  have hgiven : ∃ f ∈ r.given, f.operator = .between := by
    obtain rfl := Except.ok.inj hread
    exact ⟨_, List.mem_cons_self, rfl⟩
  exact absurd (hclosed hgiven) (by decide)

end UrlFilter
