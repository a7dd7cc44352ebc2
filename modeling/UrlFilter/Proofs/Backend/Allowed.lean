import UrlFilter.Proofs.Backend.Recorder
import UrlFilter.Proofs.Params
import UrlFilter.Proofs.Scheme

namespace UrlFilter

/-!
# Allowed fields

A query is narrowed on allowed fields only, and nothing tells what was asked of the others: no
condition, no error and no order of errors.

* `Backend.apply_some` — filters on other fields count as if they had not been given.
* `Backend.apply_congr`, `Backend.applyRaw_congr` — the outcome depends on allowed fields alone.
* `Backend.narrows_allowed_only` — both, and on which columns the conditions are.
-/

namespace Backend

variable {Query : Type} (b : Backend Query) (q : Query) (kinds : Option Condition.Kinds)
  (allowed : List String) {pattern : String → String}

/-! ### Filters -/

/-- Filters on fields that are not allowed make no conditions.  They may as well be taken away
first, and so can all their errors. -/
theorem ofFilters_some (filters : List Filter) :
    Condition.ofFilters pattern (some allowed) filters
      = Condition.ofFilters pattern none (filters.filter fun f => allowed.contains f.field) := by
  have hall : ∀ fs : List Filter, (fs.filter fun f => Condition.allowed none f.field) = fs := by
    intro fs
    rw [List.filter_eq_self]
    exact fun _ _ => rfl
  rw [Condition.ofFilters, Condition.ofFilters, hall]
  rfl

/-- **Filters on fields that are not allowed count as if they had not been given.** -/
theorem apply_some (filters : List Filter) :
    b.apply q (some allowed) kinds filters
      = b.apply q none kinds (filters.filter fun f => allowed.contains f.field) := by
  rw [apply, apply, ofFilters_some]

/-- The outcome depends on the filters on allowed fields alone.  It is the same query or the same
error. -/
theorem apply_congr {filters others : List Filter}
    (h : (filters.filter fun f => allowed.contains f.field)
      = others.filter fun f => allowed.contains f.field) :
    b.apply q (some allowed) kinds filters = b.apply q (some allowed) kinds others := by
  rw [apply_some, apply_some, h]

/-- Two filters are the same, or neither is on an allowed field.  One filter may so be exchanged for
another, at the same place of a list. -/
def SameIfAllowed (f g : Filter) : Prop :=
  f = g ∨ (f.field ∉ allowed ∧ g.field ∉ allowed)

/-- Filters that differ on other fields only are the same on allowed fields.  What is compared place
by place is equal after both have lost the other fields. -/
theorem filter_eq_of_sameIfAllowed {filters others : List Filter}
    (h : List.Forall₂ (SameIfAllowed allowed) filters others) :
    (filters.filter fun f => allowed.contains f.field)
      = others.filter fun f => allowed.contains f.field := by
  -- By induction along the two lists.
  induction h with
  | nil => rfl
  | cons hfirst _ ih =>
    rcases hfirst with rfl | ⟨hf, hg⟩
    · rw [List.filter_cons, List.filter_cons, ih]
    · rw [List.filter_cons_of_neg (by simpa using hf), List.filter_cons_of_neg (by simpa using hg),
        ih]

/-! ### Parameters -/

/-- A parameter is looked at: it is the grouping parameter, or its key is an allowed column.  The
grouping parameter is looked at even if some of its conditions are on other columns. -/
def looksAt (groupKey key : String) : Bool :=
  key == groupKey || allowed.contains key

/-- A parameter that is not looked at makes no conditions.  Not even its operator is read. -/
theorem entryConditions_eq_nil {groupKey : String} {e : String × Value}
    (h : looksAt allowed groupKey e.1 = false) (supports : Operator → Bool) :
    entryConditions pattern supports groupKey (some allowed) e = [] := by
  simp only [looksAt, Bool.or_eq_false_iff, beq_eq_false_iff_ne] at h
  -- All that such a parameter asks for is on the column of its own key.
  rw [entryConditions, List.filterMap_eq_nil_iff]
  intro d hd
  rw [rawEntries, if_neg h.1, List.mem_map] at hd
  obtain ⟨v, -, rfl⟩ := hd
  have hkey : Condition.allowed (some allowed) e.1 = false := h.2
  rw [hkey]
  rfl

/-- The conditions of parameters are those of the parameters that are looked at.  The others may be
taken away before. -/
theorem rawConditions_filterKeys (supports : Operator → Bool) (groupKey : String)
    (params : Params) :
    rawConditions pattern supports groupKey (some allowed)
        (params.filterKeys (looksAt allowed groupKey))
      = rawConditions pattern supports groupKey (some allowed) params := by
  have hentries : (params.filterKeys (looksAt allowed groupKey)).entries
      = params.entries.filter fun e => looksAt allowed groupKey e.1 := rfl
  rw [rawConditions_eq_flatMap, rawConditions_eq_flatMap, hentries]
  -- Entry by entry: one that is not looked at contributes nothing to either side.
  induction params.entries with
  | nil => rfl
  | cons e entries ih =>
    rw [List.flatMap_cons, List.filter_cons]
    by_cases h : looksAt allowed groupKey e.1 = true
    · rw [if_pos h, List.flatMap_cons, ih]
    · rw [if_neg h, ih, entryConditions_eq_nil allowed (by simpa using h) supports,
        List.nil_append]

/-- The outcome depends on the parameters that are looked at alone. -/
theorem applyRaw_congr {groupKey : String} {params others : Params}
    (h : params.filterKeys (looksAt allowed groupKey)
      = others.filterKeys (looksAt allowed groupKey)) :
    b.applyRaw q (some allowed) kinds groupKey params
      = b.applyRaw q (some allowed) kinds groupKey others := by
  rw [applyRaw, applyRaw, ← rawConditions_filterKeys, h, rawConditions_filterKeys]

/-- A parameter that is not looked at may be added, changed or removed.  The places of the
parameters that are looked at stay the same. -/
theorem filterKeys_looksAt_insert {groupKey key : String} (hkey : key ≠ groupKey)
    (hallowed : key ∉ allowed) (params : Params) (v : Value) :
    (params.insert key v).filterKeys (looksAt allowed groupKey)
        = params.filterKeys (looksAt allowed groupKey) ∧
      (params.erase key).filterKeys (looksAt allowed groupKey)
        = params.filterKeys (looksAt allowed groupKey) := by
  -- A key that is looked at is another one than the given key.
  have hne : ∀ e : String × Value, looksAt allowed groupKey e.1 = true → (e.1 != key) = true := by
    intro e he
    rw [bne_iff_ne]
    rintro rfl
    simp [looksAt, hkey, hallowed] at he
  -- Looking at what is not of the key changes nothing for what is looked at.
  have hfilter : ∀ entries : List (String × Value),
      (entries.filter fun e => e.1 != key).filter (fun e => looksAt allowed groupKey e.1)
        = entries.filter fun e => looksAt allowed groupKey e.1 := by
    intro entries
    rw [List.filter_filter]
    apply List.filter_congr
    intro e _
    cases he : looksAt allowed groupKey e.1 with
    | false => rfl
    | true => simpa using hne e he
  constructor <;> apply Params.ext
  · show (Params.insertEntry key v params.entries).filter _ = params.entries.filter _
    rw [← hfilter, Params.filter_ne_insertEntry, hfilter]
  · exact hfilter params.entries

/-! ### Both -/

/-- **Queries are narrowed on allowed fields only.**  Filters on other fields count as if they had
not been given, so that lists which differ in such filters alone have the same outcome, be it a
query or an error; and each condition is on the column of a filter on an allowed field, whose
settings have an allowed name if they are those of the field of the filter.  Parameters which are
neither the grouping parameter nor allowed may be added, changed or removed; and each condition is
on an allowed column. -/
theorem narrows_allowed_only (groupKey : String) :
    (∀ filters, b.apply q (some allowed) kinds filters
      = b.apply q none kinds (filters.filter fun f => allowed.contains f.field)) ∧
    (∀ filters others, List.Forall₂ (SameIfAllowed allowed) filters others →
      b.apply q (some allowed) kinds filters = b.apply q (some allowed) kinds others) ∧
    (∀ filters recorded,
      (recorder b.pattern b.supported).apply [] (some allowed) kinds filters = .ok recorded →
      b.apply q (some allowed) kinds filters = recorded.foldlM b.narrow q ∧
      ∀ c ∈ recorded, ∃ f ∈ filters, f.field ∈ allowed ∧ ∃ config, f.config = some config ∧
        c.field = config.column ∧ (config.name = f.field → config.name ∈ allowed)) ∧
    (∀ params others : Params, params.filterKeys (looksAt allowed groupKey)
        = others.filterKeys (looksAt allowed groupKey) →
      b.applyRaw q (some allowed) kinds groupKey params
        = b.applyRaw q (some allowed) kinds groupKey others) ∧
    (∀ (params : Params) (key : String) (v : Value), key ≠ groupKey → key ∉ allowed →
      b.applyRaw q (some allowed) kinds groupKey (params.insert key v)
          = b.applyRaw q (some allowed) kinds groupKey params ∧
        b.applyRaw q (some allowed) kinds groupKey (params.erase key)
          = b.applyRaw q (some allowed) kinds groupKey params) ∧
    (∀ params recorded,
      (recorder b.pattern b.supported).applyRaw [] (some allowed) kinds groupKey params
        = .ok recorded →
      b.applyRaw q (some allowed) kinds groupKey params = recorded.foldlM b.narrow q ∧
      ∀ c ∈ recorded, c.field ∈ allowed) := by
  refine ⟨b.apply_some q kinds allowed,
    fun filters others h => b.apply_congr q kinds allowed (filter_eq_of_sameIfAllowed allowed h),
    ?_, fun params others h => b.applyRaw_congr q kinds allowed h, ?_, ?_⟩
  · intro filters recorded h
    refine ⟨by rw [apply_eq_recorded, h]; rfl, fun c hc => ?_⟩
    -- What is recorded comes from a filter whose field passed the test.
    obtain ⟨f, hf, hallowed, config, hconfig, hcolumn⟩ := exists_field_of_recorded kinds h hc
    have hmem : f.field ∈ allowed := by simpa [Condition.allowed] using hallowed
    exact ⟨f, hf, hmem, config, hconfig, hcolumn, fun hname => hname ▸ hmem⟩
  · intro params key v hkey hallowed
    obtain ⟨hinsert, herase⟩ := filterKeys_looksAt_insert allowed hkey hallowed params v
    exact ⟨b.applyRaw_congr q kinds allowed hinsert, b.applyRaw_congr q kinds allowed herase⟩
  · intro params recorded h
    refine ⟨by rw [applyRaw_eq_recorded, h]; rfl, fun c hc => ?_⟩
    simpa [Condition.allowed] using allowed_of_recordedRaw kinds h hc

/-- A filter on a field that is allowed.  Its operator is the only one that is supported in the case
below. -/
def ofStatus : Filter :=
  ⟨"status", .eq, .text "active", some (.ofKind .text "status"), "status"⟩

/-- A filter on a field that is not allowed.  It may be one that could not be made a condition at
all. -/
def ofSecret (op : Operator) (v : Value) : Filter :=
  ⟨"secret", op, v, some (.ofKind .text "secret"), "secret"⟩

/-- What is asked of the secret makes no difference, as a filter and as a parameter. -/
theorem narrows_allowed_only_status :
    (substringRecorder [.eq]).apply [] (some ["status"]) none
          [ofSecret .between (.int 5), ofStatus]
        = (substringRecorder [.eq]).apply [] (some ["status"]) none
          [ofSecret .like (.text "x"), ofStatus] ∧
      (∃ f ∈ [ofSecret .between (.int 5), ofStatus], f.field ∈ ["status"] ∧
        ∃ config, f.config = some config ∧ "status" = config.column ∧
          (config.name = f.field → config.name ∈ ["status"])) ∧
      (substringRecorder [.eq]).applyRaw [] (some ["status"]) none "and"
          (.ofList [("secret", .text "eq.1"), ("status", .text "eq.active")])
        = (substringRecorder [.eq]).applyRaw [] (some ["status"]) none "and"
          (.ofList [("status", .text "eq.active")]) ∧
      (substringRecorder [.eq]).applyRaw [] (some ["status"]) none "and"
          ((Params.ofList [("status", .text "eq.active")]).insert "secret" (.text "eq.2"))
        = (substringRecorder [.eq]).applyRaw [] (some ["status"]) none "and"
          (.ofList [("status", .text "eq.active")]) ∧
      "status" ∈ ["status"] := by
  obtain ⟨-, hfilters, hcolumns, hparams, hinsert, hraw⟩ :=
    narrows_allowed_only (substringRecorder [.eq]) [] none ["status"] "and"
  refine ⟨hfilters _ _ (.cons (.inr ⟨by decide, by decide⟩) (.cons (.inl rfl) .nil)),
    (hcolumns _ [⟨"status", .eq, .text "active"⟩] rfl).2 _ (List.mem_singleton.2 rfl),
    hparams _ _ rfl,
    (hinsert _ _ _ (by decide) (by decide)).1,
    (hraw (.ofList [("status", .text "eq.active")]) [⟨"status", .eq, .text "active"⟩] rfl).2 _
      (List.mem_singleton.2 rfl)⟩

/-- A filter on an allowed field narrows on the column of whatever settings it has. -/
theorem borrowed_settings_narrow :
    ¬ ∀ (pattern : String → String) (supported : List Operator) (allowed : List String)
        (filters : List Filter) (recorded : List Condition),
      (recorder pattern supported).apply [] (some allowed) none filters = .ok recorded →
      ∀ c ∈ recorded, ∃ f ∈ filters, ∃ config, f.config = some config ∧
        config.name ∈ allowed ∧ c.field = config.column := by
  intro h
  -- The one filter has the name of an allowed field and the settings of another.
  obtain ⟨f, hf, config, hconfig, hname, -⟩ := h id [.eq] ["status"]
    [{ ofSecret .eq (.text "x") with field := "status" }] [⟨"secret", .eq, .text "x"⟩] rfl _
    (List.mem_singleton.2 rfl)
  obtain rfl := List.mem_singleton.1 hf
  obtain rfl := Option.some.inj hconfig
  exact absurd hname (by decide)

end Backend

end UrlFilter
