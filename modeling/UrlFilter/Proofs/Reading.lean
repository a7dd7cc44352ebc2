import UrlFilter.Proofs.FirstParameter
import UrlFilter.Proofs.Params
import UrlFilter.Proofs.Scheme

namespace UrlFilter

/-!
# What reading gives

With a plain scheme and the texts of a URL, reading is a function of the entries alone: nothing
fails but a start value that does not fit, and no field is met twice.

* `Value.Textual` — a text or a list of texts.
* `Reading.directFilter?` — the filter that the parameter of a field makes.
* `Reading.directFrom_textual` — texts never fail to make the filters of fields.
* `Scheme.grouped`, `Scheme.beside` — the conditions of the grouping parameter, and the entries
  beside it.
* `Scheme.kept` — the conditions that bound no range: what is left of the grouping parameter.
* `Scheme.read_eq_bind` — the steps of reading, whatever the scheme and the parameters are.
* `Scheme.Plain.read_eq` — what reading gives, in terms of these.
-/

/-- A text, or a list of texts: what a URL gives a key. -/
def Value.Textual (v : Value) : Prop :=
  (∃ t, v = .text t) ∨ ∃ ts : List String, v = .list (ts.map .text)

namespace Reading

/-- The values of a textual parameter are texts.  A single text is taken for a list of one. -/
theorem values_of_textual {raw : Value} (h : raw.Textual) :
    ∃ ts : List String, values raw = ts.map .text := by
  rcases h with ⟨t, rfl⟩ | ⟨ts, rfl⟩
  · exact ⟨[t], rfl⟩
  · exact ⟨ts, rfl⟩

/-! ### Parameters of fields -/

/-- A text asks for an operator and a settled value, or else for the whole text where the field
starts with `between`.  A field that starts with `between` is no range field here, and the text is
not divided into bounds. -/
theorem operatorAndValue_cases (f : Field) (t : String) :
    ((operatorAndValue f (.text t)).1.onWire = true ∧
      Wire.Settled (operatorAndValue f (.text t)).1 (operatorAndValue f (.text t)).2) ∨
      (f.defaultOperator = .between ∧ operatorAndValue f (.text t) = (.between, .text t)) := by
  unfold operatorAndValue
  -- Either the text names its operator, or the operator is the one of the field.
  cases hr : Wire.read? (.text t) with
  | some asked => exact .inl (Wire.settled_of_read? hr)
  | none =>
    by_cases hd : f.defaultOperator = .between
    · exact .inr ⟨hd, by simp [hd]⟩
    · have hw : f.defaultOperator.onWire = true := by
        cases hop : f.defaultOperator <;> first | rfl | exact absurd hop hd
      refine .inl ?_
      simpa [Value.asText?, hd] using Wire.settled_shape hw t

/-- What a text asks for is no tuple of bounds.  So making a filter of it does not check the number
of bounds. -/
theorem tuple?_operatorAndValue (f : Field) (t : String) :
    (operatorAndValue f (.text t)).2.tuple? = none := by
  rcases operatorAndValue_cases f t with ⟨-, h⟩ | ⟨-, h⟩
  · cases hv : (operatorAndValue f (.text t)).2 <;> rw [hv] at h <;>
      first | rfl | exact absurd h (by simp [Wire.Settled])
  · rw [h]
    rfl

/-- The filter of a field with the operator and the value that a parameter asks for.  Its identifier
is the name of the field. -/
def askedFilter (f : Field) (raw : Value) : Filter :=
  ⟨f.name, (operatorAndValue f raw).1, (operatorAndValue f raw).2, some f, f.name⟩

/-- The filter that the texts of a parameter make.  There is none if a range is asked for no bound,
or if there are no values at all. -/
def directFilter? (f : Field) (raw : Value) : Option Filter :=
  if f.kind.isRange then rangeFilter? f ((values raw).filterMap bound?)
  else (values raw).getLast?.map (askedFilter f)

/-- **The texts of a parameter never fail to make their filter.**  Of all values, only tuples can
fail, and a URL has none. -/
theorem direct?_of_textual (f : Field) {raw : Value} (h : raw.Textual) :
    direct? f raw = .ok (directFilter? f raw) := by
  obtain ⟨ts, hts⟩ := values_of_textual h
  unfold direct? directFilter?
  rw [hts]
  -- A range takes the bounds among the texts; any other field takes the last text.
  by_cases hrange : f.kind.isRange = true
  · rw [if_pos hrange, if_pos hrange]
  rw [if_neg hrange, if_neg hrange, List.getLast?_map]
  cases ts.getLast? with
  | none => rfl
  | some t =>
    -- The value is no tuple, so making the filter does not touch it.
    have hof : Filter.ofField f (operatorAndValue f (.text t)).1 (operatorAndValue f (.text t)).2
        = .ok (askedFilter f (.text t)) := by
      have hvalue : Filter.valueFor (operatorAndValue f (.text t)).1
          (operatorAndValue f (.text t)).2 = .ok (operatorAndValue f (.text t)).2 := by
        unfold Filter.valueFor
        rw [tuple?_operatorAndValue]
        split
        · next h => simp at h
        · rfl
      rw [Filter.ofField, Filter.of, hvalue]
      rfl
    simp only [Option.map_some, hof]
    rfl

/-- What is taken of the results of some items comes in the order of the items. -/
theorem map_filterMap_sublist {α β γ : Type*} {g : α → Option β} {h : β → γ} {k : α → γ}
    (hk : ∀ a b, g a = some b → h b = k a) (items : List α) :
    ((items.filterMap g).map h).Sublist (items.map k) := by
  induction items with
  | nil => simp
  | cons a items ih =>
    rw [List.filterMap_cons, List.map_cons]
    cases hg : g a with
    | none => exact ih.cons _
    | some b =>
      rw [List.map_cons, hk a b hg]
      exact ih.cons_cons _

/-- The filter that an entry makes, if its key is the name of a field.  In a plain scheme no other
key asks for a field. -/
def entryFilter? (s : Scheme) (e : String × Value) : Option Filter :=
  (s.named? e.1).bind fun f => directFilter? f e.2

/-- The filter of a range has the name and the settings of its field.  The bounds decide only its
value, and whether there is one. -/
theorem of_rangeFilter? {f : Field} {bounds : List Bound} {filter : Filter}
    (h : rangeFilter? f bounds = some filter) : filter.field = f.name ∧ filter.config = some f := by
  unfold rangeFilter? at h
  split at h
  · simp at h
  · obtain rfl := Option.some.inj h
    exact ⟨rfl, rfl⟩

variable {s : Scheme}

/-- An entry makes a filter of the field that its key names.  So filters of entries with different
keys are of different fields. -/
theorem field_of_entryFilter? {e : String × Value} {f : Filter} (h : entryFilter? s e = some f) :
    f.field = e.1 := by
  rw [entryFilter?, Option.bind_eq_some_iff] at h
  obtain ⟨c, hc, h⟩ := h
  rw [← (Scheme.mem_of_named? hc).2]
  unfold directFilter? at h
  split at h
  · exact (of_rangeFilter? h).1
  · obtain ⟨v, -, rfl⟩ := Option.map_eq_some_iff.1 h
    rfl

/-- Entries whose keys name no field make no filters.  Such entries are what is left over. -/
theorem filterMap_entryFilter?_eq_nil {entries : List (String × Value)}
    (h : ∀ e ∈ entries, s.named? e.1 = none) : entries.filterMap (entryFilter? s) = [] := by
  rw [List.filterMap_eq_nil_iff]
  intro e he
  rw [entryFilter?, h e he]
  rfl

/-- **Texts never fail to make the filters of fields:** those of the first parameter of each one.
The names that were seen are collected backwards. -/
theorem directFrom_textual {entries : List (String × Value)} (htext : ∀ e ∈ entries, e.2.Textual)
    (seen : List String) :
    directFrom s seen entries
      = .ok ((firstOfEach seen (fieldEntries s entries)).filterMap fun e => directFilter? e.1 e.2,
        ((firstOfEach seen (fieldEntries s entries)).map fun e => e.1.name).reverse ++ seen) := by
  have hmade : (firstOfEach seen (fieldEntries s entries)).mapM (fun e => direct? e.1 e.2)
      = .ok ((firstOfEach seen (fieldEntries s entries)).map fun e => directFilter? e.1 e.2) := by
    rw [mapM_eq_ok_iff, List.map_map]
    refine List.map_congr_left fun e he => ?_
    -- A first parameter is one of the entries, hence a text.
    obtain ⟨key, -, hentry⟩ := mem_fieldEntries_iff.1 (mem_of_mem_firstOfEach he)
    exact direct?_of_textual e.1 (htext _ hentry)
  rw [directFrom_eq_map, hmade]
  simp only [Except.map, List.reduceOption, List.filterMap_map]
  rfl

theorem exists_directFrom {entries : List (String × Value)} (htext : ∀ e ∈ entries, e.2.Textual)
    (seen : List String) : ∃ filters after, directFrom s seen entries = .ok (filters, after) :=
  ⟨_, _, directFrom_textual htext seen⟩

/-- Each entry of a field makes its filter, since no field has two entries.  The keys of parameters
differ, and in a plain scheme a field is asked for by its name alone. -/
theorem directFrom_eq (hs : s.Plain) {entries : List (String × Value)}
    (hnd : (entries.map Prod.fst).Nodup) (htext : ∀ e ∈ entries, e.2.Textual) :
    ∃ after, directFrom s [] entries = .ok (entries.filterMap (entryFilter? s), after) ∧
      ∀ name, (s.named? name).isSome → (name ∈ after ↔ name ∈ entries.map Prod.fst) := by
  -- The keys of parameters of fields are the names of their fields.
  have hnames : ((fieldEntries s entries).map fun e => e.1.name).Sublist
      (entries.map Prod.fst) := by
    refine map_filterMap_sublist (fun e d h => ?_) _
    obtain ⟨c, hc, rfl⟩ := Option.map_eq_some_iff.1 h
    rw [hs.fieldOf?_eq_named?] at hc
    exact (Scheme.mem_of_named? hc).2
  have hself : firstOfEach [] (fieldEntries s entries) = fieldEntries s entries :=
    firstOfEach_eq_self (hnd.sublist hnames) fun e _ => List.not_mem_nil
  have hfilters : (fieldEntries s entries).filterMap (fun e => directFilter? e.1 e.2)
      = entries.filterMap (entryFilter? s) := by
    rw [fieldEntries, List.filterMap_filterMap]
    refine List.filterMap_congr fun e _ => ?_
    rw [entryFilter?, hs.fieldOf?_eq_named?, Option.bind_map]
    rfl
  -- The names that were seen are those of the fields with entries.
  refine ⟨_, by rw [directFrom_textual htext, hself, hfilters], fun name hname => ?_⟩
  rw [List.append_nil, List.mem_reverse]
  refine ⟨fun h => hnames.subset h, fun h => ?_⟩
  obtain ⟨e, he, rfl⟩ := List.mem_map.1 h
  obtain ⟨c, hc⟩ := Option.isSome_iff_exists.1 hname
  have hname' := (Scheme.mem_of_named? hc).2
  rw [← hs.fieldOf?_eq_named?] at hc
  exact List.mem_map.2 ⟨(c, e.2), mem_fieldEntries_iff.2 ⟨e.1, hc, he⟩, hname'⟩

/-! ### The grouping parameter -/

/-- No two items of a list without repetitions are equal. -/
theorem nodup_eraseDups (names : List String) : names.eraseDups.Nodup := by
  induction hn : names.length using Nat.strong_induction_on generalizing names with
  | _ n ih =>
    cases names with
    | nil => simp
    | cons name names =>
      -- The names behind the first one are tested against it, so the induction is on their number.
      have hlen : (names.filter fun b => !b == name).length < n := by
        have := List.length_filter_le (fun b => !b == name) names
        rw [← hn, List.length_cons]
        omega
      rw [List.eraseDups_cons, List.nodup_cons]
      refine ⟨?_, ih _ hlen _ rfl⟩
      rw [List.mem_eraseDups]
      simp

/-- The field and the bound of a condition.  The operator must be one of the two bounds, and quotes
around the value are taken off. -/
theorem groupedBound?_eq_some_iff {condition : List Char} {f : Field} {b : Bound} :
    groupedBound? s condition = some (f, b) ↔
      ∃ parts op, Wire.readCondition? condition = some parts ∧ s.named? parts.field = some f ∧
        Operator.ofSymbol? parts.symbol = some op ∧ End.ofOperator? op = some b.side ∧
        f.kind.isRange = true ∧ b.value = .text (String.ofList (Wire.unquoteItem parts.value)) := by
  obtain ⟨side, value⟩ := b
  simp only [groupedBound?, Option.bind_eq_bind, Option.bind_eq_some_iff]
  constructor
  · rintro ⟨parts, hparts, g, hg, op, hop, e, he, h⟩
    split at h
    · next hrange =>
      obtain ⟨rfl, rfl, rfl⟩ : g = f ∧ e = side ∧ _ = value := by simpa using h
      exact ⟨parts, op, hparts, hg, hop, he, hrange, rfl⟩
    · simp at h
  · rintro ⟨parts, op, hparts, hg, hop, he, hrange, rfl⟩
    exact ⟨parts, hparts, f, hg, op, hop, side, he, by rw [if_pos hrange]⟩

/-- A filter of the grouping parameter is that of a range field, with bounds that were given.  The
bounds are texts, as the group is one. -/
theorem exists_of_mem_groupedFilters {conditions : List (List Char)} {filter : Filter}
    (h : filter ∈ groupedFilters s conditions) :
    ∃ f bounds, s.named? filter.field = some f ∧ f.kind.isRange = true ∧
      rangeFilter? f bounds = some filter ∧
      ∀ b ∈ bounds, ∃ t, b.value = .text t := by
  simp only [groupedFilters, List.mem_filterMap, List.mem_eraseDups, List.mem_map,
    Option.bind_eq_bind, Option.bind_eq_some_iff] at h
  obtain ⟨name, ⟨⟨g, b⟩, ⟨condition, -, hb⟩, rfl⟩, f, hf, hfilter⟩ := h
  obtain ⟨parts, op, -, hg, -, -, hrange, -⟩ := groupedBound?_eq_some_iff.1 hb
  -- The name of the condition and the name of the filter find the same field.
  obtain rfl : g = f := by
    rw [(Scheme.mem_of_named? hg).2, hg] at hf
    exact Option.some.inj hf
  refine ⟨g, _, ?_, hrange, hfilter, ?_⟩
  · rw [(of_rangeFilter? hfilter).1]
    exact hf
  · intro b hb
    simp only [List.mem_map, List.mem_filter, List.mem_filterMap] at hb
    obtain ⟨⟨f, b⟩, ⟨⟨condition, -, hb⟩, -⟩, rfl⟩ := hb
    obtain ⟨parts, op, -, -, -, -, -, hvalue⟩ := groupedBound?_eq_some_iff.1 hb
    exact ⟨_, hvalue⟩

/-- A bound of a field in a group makes a filter of that field.  Another bound of the same side may
replace its value. -/
theorem exists_mem_groupedFilters {conditions : List (List Char)} {c : List Char}
    (hc : c ∈ conditions) {f : Field} {b : Bound} (hb : groupedBound? s c = some (f, b)) :
    ∃ filter ∈ groupedFilters s conditions, filter.field = f.name := by
  obtain ⟨parts, op, -, hnamed, -⟩ := groupedBound?_eq_some_iff.1 hb
  have hf : s.named? f.name = some f := by rw [(Scheme.mem_of_named? hnamed).2, hnamed]
  have hbound : (f, b) ∈ conditions.filterMap (groupedBound? s) := List.mem_filterMap.2 ⟨c, hc, hb⟩
  -- The field has at least this bound, so its range has one.
  obtain ⟨filter, hfilter⟩ : ∃ filter, rangeFilter? f
      (((conditions.filterMap (groupedBound? s)).filter fun d => d.1.name == f.name).map (·.2))
        = some filter := by
    have hne : (((conditions.filterMap (groupedBound? s)).filter
        fun d => d.1.name == f.name).map (·.2)).isEmpty = false := by
      rw [List.isEmpty_eq_false_iff_exists_mem]
      exact ⟨b, List.mem_map.2 ⟨_, List.mem_filter.2 ⟨hbound, by simp⟩, rfl⟩⟩
    rw [rangeFilter?, hne]
    exact ⟨_, rfl⟩
  refine ⟨filter, List.mem_filterMap.2 ⟨f.name, ?_, ?_⟩, (of_rangeFilter? hfilter).1⟩
  · rw [List.mem_eraseDups]
    exact List.mem_map.2 ⟨_, hbound, rfl⟩
  · rw [hf, Option.bind_eq_bind, Option.bind_some, hfilter]

/-- Every filter of a group is of another field.  The bounds of one field are gathered into one
range. -/
theorem nodup_field_groupedFilters (conditions : List (List Char)) :
    ((groupedFilters s conditions).map Filter.field).Nodup := by
  have hnames := nodup_eraseDups
    ((conditions.filterMap (groupedBound? s)).map fun b => b.1.name)
  rw [← List.map_id (List.eraseDups _)] at hnames
  -- Each name makes at most one filter, of the field of that name.
  refine hnames.sublist (map_filterMap_sublist (fun name filter h => ?_) _)
  simp only [Option.bind_eq_bind, Option.bind_eq_some_iff] at h
  obtain ⟨f, hf, hfilter⟩ := h
  rw [(of_rangeFilter? hfilter).1, (Scheme.mem_of_named? hf).2, id]

/-- Filters of different fields are kept unless their field has a filter already.  A filter that is
kept counts as seen, which the filters behind it never notice. -/
theorem unseen_eq {filters : List Filter} (hnd : (filters.map Filter.field).Nodup)
    (seen : List String) :
    ∃ after, unseen seen filters = (filters.filter fun f => !seen.contains f.field, after) ∧
      ∀ name, name ∈ after ↔ name ∈ seen ∨ name ∈ filters.map Filter.field := by
  induction filters generalizing seen with
  | nil => exact ⟨seen, rfl, by simp⟩
  | cons f filters ih =>
    rw [List.map_cons, List.nodup_cons] at hnd
    unfold unseen
    -- A filter that is kept hides no later one, since their fields differ.
    by_cases hf : seen.contains f.field = true
    · obtain ⟨after, hrest, hafter⟩ := ih hnd.2 seen
      have hmem : f.field ∈ seen := by simpa using hf
      refine ⟨after, ?_, fun name => ?_⟩
      · rw [if_pos hf, hrest, List.filter_cons_of_neg (by simp [hmem])]
      · rw [hafter, List.map_cons, List.mem_cons]
        constructor
        · tauto
        · rintro (h | rfl | h)
          · exact .inl h
          · exact .inl hmem
          · exact .inr h
    · obtain ⟨after, hrest, hafter⟩ := ih hnd.2 (f.field :: seen)
      have hmem : f.field ∉ seen := by simpa using hf
      refine ⟨after, ?_, fun name => ?_⟩
      · have hsame : (filters.filter fun g => !(f.field :: seen).contains g.field)
            = filters.filter fun g => !seen.contains g.field := by
          apply List.filter_congr
          intro g hg
          have hne : g.field ≠ f.field := fun h =>
            hnd.1 (List.mem_map.2 ⟨g, hg, h⟩)
          simp [hne]
        rw [if_neg hf, hrest, hsame, List.filter_cons_of_pos (by simp [hmem])]
      · rw [hafter, List.map_cons, List.mem_cons, List.mem_cons]
        tauto

/-! ### Fields that are always on -/

/-- Which fields get a start filter depends on the fields seen, not on their order.  Only the names
of the scheme's own fields matter. -/
theorem alwaysOn_congr {seen seen' : List String}
    (h : ∀ f ∈ s.fields, f.name ∈ seen ↔ f.name ∈ seen') : alwaysOn s seen = alwaysOn s seen' := by
  have hfilter : (s.fields.filter fun f => f.alwaysOn && !seen.contains f.name)
      = s.fields.filter fun f => f.alwaysOn && !seen'.contains f.name := by
    apply List.filter_congr
    intro f hf
    have := h f hf
    by_cases hm : f.name ∈ seen <;> simp_all
  rw [alwaysOn, hfilter, ← alwaysOn]

end Reading

/-- A filter of a field has the name and the settings of the field.  The value may become a range on
the way. -/
theorem Filter.of_ofField {f : Field} {op : Operator} {v : Value} {g : Filter}
    (h : Filter.ofField f op v = .ok g) : g.field = f.name ∧ g.config = some f := by
  obtain ⟨v, -, h⟩ := exists_of_bind_eq_ok h
  obtain rfl := Except.ok.inj h
  exact ⟨rfl, rfl⟩

/-- The filter that a field starts with is of the field and has its settings.  The start filter is
made as any other filter of the field. -/
theorem Filter.of_start {f : Field} {g : Filter} (h : Filter.start f = .ok g) :
    g.field = f.name ∧ g.config = some f :=
  Filter.of_ofField h

/-! ### Reading as a whole -/

namespace Scheme

open Reading

/-- The conditions of the grouping parameter.  A value that is no text and no list has none. -/
def grouped (s : Scheme) (p : Params) : List (List Char) :=
  match p.get? s.groupKey with
  | some raw => conditions raw
  | none => []

/-- The entries beside the grouping parameter. -/
def beside (s : Scheme) (p : Params) : List (String × Value) :=
  p.entries.filter fun e => e.1 != s.groupKey

/-- The conditions that bound no range. -/
def kept (s : Scheme) (conditions : List (List Char)) : List (List Char) :=
  conditions.filter fun c => (groupedBound? s c).isNone

/-- What is left of the grouping parameter, as an entry.  There is no such entry if nothing is
left. -/
def residue (s : Scheme) (conditions : List (List Char)) : List (String × Value) :=
  ((residual? s conditions).map fun v => (s.groupKey, v)).toList

variable {s : Scheme}

theorem ne_groupKey_of_mem_beside {p : Params} {e : String × Value} (h : e ∈ s.beside p) :
    e.1 ≠ s.groupKey := by
  simpa using List.of_mem_filter h

/-- What is left of the grouping parameter is a single text under its key.  The conditions that are
left are joined in one pair of brackets. -/
theorem of_mem_residue {conditions : List (List Char)} {e : String × Value}
    (h : e ∈ s.residue conditions) : e.1 = s.groupKey ∧ e.2.Textual := by
  rw [residue, residual?] at h
  split at h
  · simp at h
  · obtain rfl : e = _ := by simpa using h
    exact ⟨rfl, .inl ⟨_, rfl⟩⟩

/-- Without the grouping parameter, the entries beside it and what is left of it.  The group is
taken out of its place and put back at the end. -/
theorem withoutGroup_eq (s : Scheme) (p : Params) :
    (s.withoutGroup p).1.entries = s.beside p ++ s.residue (s.grouped p) ∧
      (s.withoutGroup p).2 = s.grouped p := by
  unfold withoutGroup grouped beside residue
  -- Without the parameter, nothing is taken out and nothing is put back.
  cases hg : p.get? s.groupKey with
  | none =>
    have hall : (p.entries.filter fun e => e.1 != s.groupKey) = p.entries := by
      rw [List.filter_eq_self]
      intro e he
      rw [bne_iff_ne]
      intro heq
      exact Params.get?_eq_none_iff.1 hg (List.mem_map.2 ⟨e, he, heq⟩)
    refine ⟨?_, rfl⟩
    simp [hall, residual?]
  | some raw =>
    have hnew : s.groupKey ∉ (p.entries.filter fun e => e.1 != s.groupKey).map Prod.fst := by
      rw [List.mem_map]
      rintro ⟨e, he, heq⟩
      simpa [heq] using List.of_mem_filter he
    cases hr : residual? s (conditions raw) with
    | none => simp [hr, Params.erase, Params.filterKeys]
    | some v =>
      simp only [hr, and_true]
      exact Params.insertEntry_of_not_mem hnew v

theorem mem_keys_withoutGroup {p : Params} {name : String} (hne : name ≠ s.groupKey) :
    name ∈ (s.withoutGroup p).1.entries.map Prod.fst ↔ name ∈ (s.beside p).map Prod.fst := by
  have hrest : name ∉ (s.residue (s.grouped p)).map Prod.fst := by
    rw [List.mem_map]
    rintro ⟨e, he, rfl⟩
    exact hne (of_mem_residue he).1
  rw [(withoutGroup_eq s p).1, List.map_append, List.mem_append, or_iff_left hrest]

theorem textual_withoutGroup {p : Params} (htext : ∀ e ∈ s.beside p, e.2.Textual) :
    ∀ e ∈ (s.withoutGroup p).1.entries, e.2.Textual := by
  intro e he
  rw [(withoutGroup_eq s p).1, List.mem_append] at he
  rcases he with he | he
  · exact htext e he
  · exact (of_mem_residue he).2

/-- What is left of the grouping parameter makes no filter. -/
theorem Plain.filterMap_withoutGroup (hs : s.Plain) (p : Params) :
    (s.withoutGroup p).1.entries.filterMap (entryFilter? s)
      = (s.beside p).filterMap (entryFilter? s) := by
  have hrest : (s.residue (s.grouped p)).filterMap (entryFilter? s) = [] := by
    apply filterMap_entryFilter?_eq_nil
    intro e he
    rw [(of_mem_residue he).1, hs.named?_groupKey]
  rw [(withoutGroup_eq s p).1, List.filterMap_append, hrest, List.append_nil]

/-- What is left of the grouping parameter is of no field, and neither are the entries whose keys no
field has.  It is passed on as a parameter that filters nothing. -/
theorem filter_withoutGroup (hkey : s.fieldOf? s.groupKey = none) (p : Params) :
    ((s.withoutGroup p).1.entries.filter fun e => (s.fieldOf? e.1).isNone)
      = ((s.beside p).filter fun e => (s.fieldOf? e.1).isNone) ++ s.residue (s.grouped p) := by
  have hrest : ((s.residue (s.grouped p)).filter fun e => (s.fieldOf? e.1).isNone)
      = s.residue (s.grouped p) := by
    rw [List.filter_eq_self]
    intro e he
    rw [(of_mem_residue he).1, hkey]
    rfl
  rw [(withoutGroup_eq s p).1, List.filter_append, hrest]

/-- **Reading step by step:** the filters of the parameters of fields, the ranges of the grouping
parameter whose fields have none, and the start values of the fields that are always on and in
neither.  Nothing is assumed of the scheme, so two fields may share a name and a field may be asked
for under two. -/
theorem read_eq_bind (s : Scheme) (p : Params) :
    s.read p = (directFrom s [] (s.withoutGroup p).1.entries).bind fun made =>
      (alwaysOn s (made.2 ++ (groupedFilters s (s.grouped p)).map Filter.field)).map fun always =>
        ⟨made.1 ++ ((groupedFilters s (s.grouped p)).filter fun f => !made.2.contains f.field)
          ++ always, (s.withoutGroup p).1.filterKeys fun key => (s.fieldOf? key).isNone⟩ := by
  simp only [read, (withoutGroup_eq s p).2, bind]
  congr 1
  funext made
  obtain ⟨after, hunseen, hafter⟩ :=
    unseen_eq (nodup_field_groupedFilters (s := s) (s.grouped p)) made.2
  -- The ranges that are dropped were seen already, so the names come to the same.
  have halways : alwaysOn s after
      = alwaysOn s (made.2 ++ (groupedFilters s (s.grouped p)).map Filter.field) := by
    apply alwaysOn_congr
    intro f _
    rw [hafter, List.mem_append]
  rw [hunseen, ← halways]
  cases alwaysOn s after <;> rfl

/-- **What reading gives.**  The entries of fields make their filters; the grouping parameter makes
those of its ranges that have no entry; and fields that are always on and have no filter yet get the
one they start with.  Only the start values can fail. -/
theorem Plain.read_eq (hs : s.Plain) {p : Params} (htext : ∀ e ∈ s.beside p, e.2.Textual) :
    ∃ rest : Params,
      rest.entries = ((s.beside p).filter fun e => (s.named? e.1).isNone)
        ++ s.residue (s.grouped p) ∧
      s.read p = (alwaysOn s ((s.beside p).map Prod.fst
          ++ (groupedFilters s (s.grouped p)).map Filter.field)).map fun always =>
        ⟨(s.beside p).filterMap (entryFilter? s)
          ++ ((groupedFilters s (s.grouped p)).filter fun f =>
            !((s.beside p).map Prod.fst).contains f.field)
          ++ always, rest⟩ := by
  obtain ⟨seen, hdirect, hseen⟩ :=
    directFrom_eq hs (s.withoutGroup p).1.nodup (textual_withoutGroup htext)
  have hkey : s.fieldOf? s.groupKey = none := by rw [hs.fieldOf?_eq_named?, hs.named?_groupKey]
  -- Among the names of fields, those that were seen are those of the entries.
  have hmem : ∀ name, (s.named? name).isSome →
      (name ∈ seen ↔ name ∈ (s.beside p).map Prod.fst) := by
    intro name hname
    have hne : name ≠ s.groupKey := by
      rintro rfl
      simp [hs.named?_groupKey] at hname
    rw [hseen name hname, mem_keys_withoutGroup hne]
  -- The filters of the group are of fields, for which the names that were seen are those of the
  -- keys.
  have hkept : ((groupedFilters s (s.grouped p)).filter fun f => !seen.contains f.field)
      = (groupedFilters s (s.grouped p)).filter fun f =>
        !((s.beside p).map Prod.fst).contains f.field := by
    apply List.filter_congr
    intro f hf
    obtain ⟨field, -, hfield, -⟩ := exists_of_mem_groupedFilters hf
    have := hmem f.field (by simp [hfield])
    by_cases hm : f.field ∈ seen <;> simp_all
  have halways : alwaysOn s (seen ++ (groupedFilters s (s.grouped p)).map Filter.field)
      = alwaysOn s ((s.beside p).map Prod.fst
        ++ (groupedFilters s (s.grouped p)).map Filter.field) := by
    apply alwaysOn_congr
    intro f hf
    rw [List.mem_append, List.mem_append,
      hmem f.name (by simp [hs.named?_eq_some_iff.2 ⟨hf, rfl⟩])]
  refine ⟨(s.withoutGroup p).1.filterKeys fun key => (s.fieldOf? key).isNone, ?_, ?_⟩
  · refine (filter_withoutGroup hkey p).trans ?_
    simp only [hs.fieldOf?_eq_named?]
  · rw [read_eq_bind, hdirect, hs.filterMap_withoutGroup, ← halways, ← hkept]
    rfl

/-- What is read if reading does not fail.  This is the form in which most results below use it. -/
theorem Plain.of_read_eq_ok (hs : s.Plain) {p : Params} (htext : ∀ e ∈ s.beside p, e.2.Textual)
    {r : Reading} (h : s.read p = .ok r) :
    ∃ always,
      alwaysOn s ((s.beside p).map Prod.fst
        ++ (groupedFilters s (s.grouped p)).map Filter.field) = .ok always ∧
      r.filters = (s.beside p).filterMap (entryFilter? s)
        ++ ((groupedFilters s (s.grouped p)).filter fun f =>
          !((s.beside p).map Prod.fst).contains f.field) ++ always ∧
      r.remaining.entries = ((s.beside p).filter fun e => (s.named? e.1).isNone)
        ++ s.residue (s.grouped p) := by
  obtain ⟨rest, hrest, hread⟩ := hs.read_eq htext
  rw [h] at hread
  cases halways : alwaysOn s ((s.beside p).map Prod.fst
      ++ (groupedFilters s (s.grouped p)).map Filter.field) with
  | error e =>
    rw [halways] at hread
    exact absurd hread (by simp [Except.map])
  | ok always =>
    rw [halways] at hread
    obtain rfl := Except.ok.inj hread
    exact ⟨always, rfl, rfl, hrest⟩

end Scheme

end UrlFilter
