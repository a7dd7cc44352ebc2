import UrlFilter.Backend
import UrlFilter.Proofs.Condition

namespace UrlFilter

/-!
# Recorded conditions

A backend that only records shows which conditions narrow a query, whatever the query is.

* `Backend.entryConditions` — the conditions that one parameter makes.
* `Backend.exists_read_of_rawCondition?` — what the condition of a text is made of.
* `Backend.recorder` — a backend whose queries are the conditions that have narrowed them.
* `Backend.apply_eq_recorded`, `Backend.applyRaw_eq_recorded` — every backend narrows its query by
  the conditions that are recorded, one after another.
* `Backend.exists_field_of_recorded`, `Backend.allowed_of_recordedRaw` — the columns of what is
  recorded.
-/

/-! ### Casts -/

namespace Condition

/-- A cast keeps the column.  Only the value changes. -/
theorem field_of_cast {target : Target} {c d : Condition} (h : cast target c = .ok d) :
    d.field = c.field := by
  unfold cast at h
  split at h
  · rw [← Except.ok.inj h]
  · split at h
    · rw [← Except.ok.inj h]
    · exact absurd h (by simp)

/-- The columns of conditions that were cast are those that they had.  So the test for allowed
columns may come before the cast. -/
theorem exists_field_of_mem_castAll {kinds : Kinds} {conditions results : List Condition}
    (h : castAll kinds conditions = .ok results) {c : Condition} (hc : c ∈ results) :
    ∃ d ∈ conditions, c.field = d.field := by
  obtain ⟨d, hd, hcast⟩ := exists_of_mem_mapM h hc
  refine ⟨d, hd, ?_⟩
  -- A column of a kind that is not known keeps its condition as it is.
  split at hcast
  · exact field_of_cast hcast
  · rw [← Except.ok.inj hcast]

/-- Without known kinds nothing is cast. -/
theorem castAll_nil (conditions : List Condition) : castAll [] conditions = .ok conditions := by
  rw [castAll, mapM_eq_ok_iff]
  rfl

end Condition

namespace Backend

variable {pattern : String → String}

/-! ### Conditions of parameters -/

/-- The conditions that a parameter makes on allowed columns.  It is one step of `rawConditions`. -/
def entryConditions (pattern : String → String) (supports : Operator → Bool) (groupKey : String)
    (allowed : Option (List String)) (entry : String × Value) : List Condition :=
  (rawEntries groupKey entry).filterMap fun e =>
    if Condition.allowed allowed e.1 then rawCondition? pattern supports e.1 e.2 else none

/-- Each parameter makes its conditions, whatever the others are.  They stand in the order of the
parameters. -/
theorem rawConditions_eq_flatMap (supports : Operator → Bool) (groupKey : String)
    (allowed : Option (List String)) (params : Params) :
    rawConditions pattern supports groupKey allowed params
      = params.entries.flatMap (entryConditions pattern supports groupKey allowed) := by
  rw [rawConditions, List.filterMap_flatMap]
  rfl

/-- **What the condition of a text is made of:** a supported operator, and a value that narrows
something and that the operator can be asked with. -/
theorem exists_read_of_rawCondition? {supports : Operator → Bool} {column : String} {raw : Value}
    {c : Condition} (h : rawCondition? pattern supports column raw = some c) :
    ∃ op v, Wire.read? raw = some (op, v) ∧ supports op = true ∧ v.isEmpty = false ∧
      Condition.hasPredicate op v = true ∧ c = ⟨column, op, Condition.operand pattern op v⟩ := by
  simp only [rawCondition?, Option.bind_eq_bind, Option.bind_eq_some_iff] at h
  obtain ⟨⟨op, v⟩, hread, h⟩ := h
  split at h
  · next hthere =>
    simp only [Bool.and_eq_true, Bool.not_eq_true'] at hthere
    exact ⟨op, v, hread, hthere.1.1, hthere.1.2, hthere.2, (Option.some.inj h).symm⟩
  · simp at h

/-- A condition of parameters is that of a text, on an allowed column.  Nothing else can be
attached. -/
theorem exists_of_mem_rawConditions {supports : Operator → Bool} {groupKey : String}
    {allowed : Option (List String)} {params : Params} {c : Condition}
    (h : c ∈ rawConditions pattern supports groupKey allowed params) :
    ∃ column raw, Condition.allowed allowed column = true ∧
      rawCondition? pattern supports column raw = some c := by
  obtain ⟨e, -, he⟩ := List.mem_filterMap.1 h
  split at he
  · next hallowed => exact ⟨e.1, e.2, hallowed, he⟩
  · simp at he

/-! ### Recording -/

/-- A backend whose queries are the conditions that have narrowed them, in order.  It fails for no
condition, so that its errors are those of the way to the conditions. -/
def recorder (pattern : String → String) (supported : List Operator) :
    Backend (List Condition) where
  supported := supported
  narrow recorded c := .ok (recorded ++ [c])
  paginate recorded _ _ := recorded
  pattern := pattern

/-- The recorder with the patterns of backends that have none of their own.  Its conditions are
those that a backend with patterns of that kind is narrowed by. -/
abbrev substringRecorder (supported : List Operator) : Backend (List Condition) :=
  recorder Condition.substringPattern supported

/-- The recorder has the patterns that it was given, so that it records what another backend with
these patterns is narrowed by. -/
@[simp] theorem pattern_recorder (supported : List Operator) :
    (recorder pattern supported).pattern = pattern :=
  rfl

/-- The recorder adds each condition at the end. -/
theorem foldlM_recorder (supported : List Operator) (recorded conditions : List Condition) :
    conditions.foldlM (recorder pattern supported).narrow recorded
      = .ok (recorded ++ conditions) := by
  -- By induction on the conditions, for every list that is there before.
  induction conditions generalizing recorded with
  | nil => simp [pure, Except.pure]
  | cons c conditions ih =>
    have hstep : (recorder pattern supported).narrow recorded c = .ok (recorded ++ [c]) := rfl
    rw [List.foldlM_cons, hstep]
    exact (ih _).trans (by rw [List.append_assoc, List.singleton_append])

variable {Query : Type} (b : Backend Query) (q : Query) (kinds : Option Condition.Kinds)

/-- The recorder records the conditions that are cast.  There is an error exactly if one of them
cannot be cast. -/
theorem narrowAll_recorder (supported : List Operator) (conditions : List Condition) :
    (recorder pattern supported).narrowAll [] kinds conditions
      = Condition.castAll (kinds.getD []) conditions := by
  unfold narrowAll
  cases Condition.castAll (kinds.getD []) conditions with
  | error e => rfl
  | ok results => exact foldlM_recorder supported [] results

/-- Conditions narrow a query one after another, as far as they can be cast.  The recorder stands
for the first part of the way, and the backend for the second. -/
theorem narrowAll_eq_recorded (conditions : List Condition) :
    b.narrowAll q kinds conditions
      = ((recorder b.pattern b.supported).narrowAll [] kinds conditions).bind
          fun recorded => recorded.foldlM b.narrow q := by
  rw [narrowAll_recorder]
  rfl

/-- **Filters narrow a query by the conditions that are recorded,** one after another.  An error
before the first condition is the same for every backend with these operators and patterns. -/
theorem apply_eq_recorded (allowed : Option (List String)) (filters : List Filter) :
    b.apply q allowed kinds filters
      = ((recorder b.pattern b.supported).apply [] allowed kinds filters).bind
          fun recorded => recorded.foldlM b.narrow q := by
  have hcheck : ∀ conditions, (recorder b.pattern b.supported).checkSupported conditions
      = b.checkSupported conditions := fun _ => rfl
  unfold apply
  rw [pattern_recorder]
  -- Both sides fail together before the first condition narrows anything.
  cases Condition.ofFilters b.pattern allowed filters with
  | error e => rfl
  | ok conditions =>
    simp only [bind, Except.bind, hcheck]
    cases b.checkSupported conditions with
    | error e => rfl
    | ok _ => exact b.narrowAll_eq_recorded q kinds conditions

/-- **Parameters narrow a query by the conditions that are recorded,** one after another.  Only a
cast can fail before the first of them. -/
theorem applyRaw_eq_recorded (allowed : Option (List String)) (groupKey : String)
    (params : Params) :
    b.applyRaw q allowed kinds groupKey params
      = ((recorder b.pattern b.supported).applyRaw [] allowed kinds groupKey params).bind
          fun recorded => recorded.foldlM b.narrow q :=
  b.narrowAll_eq_recorded q kinds _

/-- To be supported is to be in the list of supported operators. -/
theorem supports_iff {op : Operator} : b.supports op = true ↔ op ∈ b.supported :=
  List.contains_iff_mem

/-- Conditions whose operators are supported pass the check.  It has no other reason to fail. -/
theorem checkSupported_of_mem {conditions : List Condition}
    (h : ∀ c ∈ conditions, c.operator ∈ b.supported) : b.checkSupported conditions = .ok () := by
  have hnone : conditions.find? (fun c => !b.supports c.operator) = none := by
    rw [List.find?_eq_none]
    intro c hc
    simpa using b.supports_iff.2 (h c hc)
  rw [checkSupported, hnone]

/-- Without a cast, conditions narrow a query as they are.  The kinds of columns are not known
then. -/
theorem narrowAll_none (conditions : List Condition) :
    b.narrowAll q none conditions = conditions.foldlM b.narrow q := by
  rw [narrowAll, Option.getD_none, Condition.castAll_nil]
  rfl

/-- Filters whose conditions have supported operators narrow a query by these, one after another.
Nothing but the conditions matters then. -/
theorem apply_of_supported {allowed : Option (List String)} {filters : List Filter}
    {conditions : List Condition}
    (hmade : Condition.ofFilters b.pattern allowed filters = .ok conditions)
    (hsupported : ∀ c ∈ conditions, c.operator ∈ b.supported) :
    b.apply q allowed none filters = conditions.foldlM b.narrow q := by
  rw [apply, hmade]
  simp only [bind, Except.bind, b.checkSupported_of_mem hsupported]
  exact b.narrowAll_none q conditions

/-- Filters narrow a query by their conditions, if these are made without an error and their
operators are supported.  Filters that narrow nothing make none. -/
theorem apply_eq_foldlM {filters : List Filter}
    (hmade : ∀ f ∈ filters, Condition.ofFilter b.pattern f = .ok (f.conditions b.pattern))
    (hsupports : ∀ f ∈ filters, ∀ c ∈ f.conditions b.pattern, b.supports c.operator = true) :
    b.apply q none none filters
      = (filters.flatMap (Filter.conditions b.pattern)).foldlM b.narrow q := by
  refine b.apply_of_supported q (Condition.ofFilters_eq hmade) fun c hc => ?_
  obtain ⟨f, hf, hc⟩ := List.mem_flatMap.1 hc
  exact b.supports_iff.1 (hsupports f hf c hc)

/-- What is recorded of filters is on the columns of filters on allowed fields.  The settings of a
filter decide on the column, and its own name on whether it is allowed. -/
theorem exists_field_of_recorded {supported : List Operator} {allowed : Option (List String)}
    {filters : List Filter} {recorded : List Condition}
    (h : (recorder pattern supported).apply [] allowed kinds filters = .ok recorded) {c : Condition}
    (hc : c ∈ recorded) :
    ∃ f ∈ filters, Condition.allowed allowed f.field = true ∧
      ∃ config, f.config = some config ∧ c.field = config.column := by
  obtain ⟨conditions, hconditions, hchecked⟩ := exists_of_bind_eq_ok h
  obtain ⟨_, -, hcast⟩ := exists_of_bind_eq_ok hchecked
  rw [narrowAll_recorder] at hcast
  -- Back from the cast to the conditions, and from these to their filters.
  obtain ⟨d, hd, hfield⟩ := Condition.exists_field_of_mem_castAll hcast hc
  obtain ⟨f, hmem, hallowed, made, hmade, hd⟩ := (Condition.mem_ofFilters_iff hconditions).1 hd
  rw [hfield]
  exact ⟨f, hmem, hallowed, Condition.column_of_mem_ofFilter hmade hd⟩

/-- What is recorded of parameters is on allowed columns.  Here the name that is asked for is the
column itself. -/
theorem allowed_of_recordedRaw {supported : List Operator} {allowed : Option (List String)}
    {groupKey : String} {params : Params} {recorded : List Condition}
    (h : (recorder pattern supported).applyRaw [] allowed kinds groupKey params = .ok recorded)
    {c : Condition} (hc : c ∈ recorded) : Condition.allowed allowed c.field = true := by
  rw [applyRaw, narrowAll_recorder] at h
  obtain ⟨d, hd, hfield⟩ := Condition.exists_field_of_mem_castAll h hc
  obtain ⟨column, raw, hallowed, hmade⟩ := exists_of_mem_rawConditions hd
  obtain ⟨op, v, -, -, -, -, rfl⟩ := exists_read_of_rawCondition? hmade
  rwa [hfield]

end Backend

end UrlFilter
