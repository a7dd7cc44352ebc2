import UrlFilter.Proofs.Memory.Conjunction
import UrlFilter.Proofs.Wire.Expression

namespace UrlFilter

/-!
# Operators that are not supported

A store may support some of its operators only.  Filters are handled strictly: of their conditions,
the first one with another operator is an error.  Parameters without fields are handled leniently:
their conditions with other operators are left out.

* `Store` — where queries are answered, in memory or in a database.
* `Error.isUnsupported` — the error is about an operator.
* `Backend.Restricts` — a backend that supports some of the operators of another one.
* `Backend.Restricts.apply_eq`, `Backend.Restricts.rawConditions_eq` — filters and parameters where
  some operators are supported and where all are.
* `Store.strict_and_lenient` — both, in every store.
-/

/-- The error is that a backend does not support an operator.  No other error tells which operators
there are. -/
def Error.isUnsupported : Error → Bool
  | operatorNotSupported .. => true
  | _ => false

/-- A value without a counterpart is no matter of operators, whether it can be written or not. -/
theorem Error.isUnsupported_rejected (field : String) (value : Value) (target : Target) :
    (rejected field value target).isUnsupported = false := by
  unfold rejected
  split <;> rfl

variable {pattern : String → String}

/-! ### Conditions of filters -/

namespace Condition

/-- The conditions of filters fail to be made for reasons other than a backend.  So an error about
an operator is never hidden behind one of these. -/
theorem isUnsupported_of_ofFilters {names : Option (List String)} {filters : List Filter}
    {e : Error} (h : ofFilters pattern names filters = .error e) : e.isUnsupported = false := by
  have hmapM : (filters.filter fun f => allowed names f.field).mapM (ofFilter pattern)
      = .error e := by
    rcases error_of_bind_eq_error h with hmapM | ⟨lists, -, h⟩
    · exact hmapM
    · simp [pure, Except.pure] at h
  obtain ⟨f, -, hf⟩ := exists_of_mapM_error hmapM
  unfold ofFilter at hf
  split at hf
  · simp at hf
  -- Settings may be missing, and the bounds of a range may be too few, too many or none at all.
  rcases error_of_bind_eq_error hf with hconfig | ⟨config, -, hset⟩
  · unfold Filter.config? at hconfig
    split at hconfig
    · simp at hconfig
    · exact Except.error.inj hconfig ▸ rfl
  dsimp only at hset
  split at hset
  · rcases error_of_bind_eq_error hset with hbounds | ⟨bounds, -, hset⟩
    · unfold Value.bounds? at hbounds
      split at hbounds
      · simp at hbounds
      · exact Except.error.inj hbounds ▸ rfl
      · exact Except.error.inj hbounds ▸ rfl
    · simp [pure, Except.pure] at hset
  · simp [pure, Except.pure] at hset

/-- No condition of filters is about two bounds: each bound makes a condition of its own.  A range
is so supported by every backend that supports the two orders. -/
theorem ne_between_of_mem_ofFilters {names : Option (List String)} {filters : List Filter}
    {conditions : List Condition} (h : ofFilters pattern names filters = .ok conditions)
    {c : Condition} (hc : c ∈ conditions) : c.operator ≠ .between := by
  obtain ⟨f, -, -, made, hmade, hc⟩ := (mem_ofFilters_iff h).1 hc
  rcases cases_of_ofFilter hmade with
    ⟨-, rfl⟩ | ⟨-, config, -, ⟨hop, rfl⟩ | ⟨-, lower, upper, -, rfl⟩⟩
  · exact absurd hc List.not_mem_nil
  · rw [List.mem_singleton.1 hc]
    exact hop
  · rcases mem_ofBounds.1 hc with ⟨-, rfl⟩ | ⟨-, rfl⟩ <;> simp

end Condition

namespace Backend

/-! ### Conditions of parameters -/

/-- Where fewer operators are supported, a text makes the same condition or none.  It makes none
exactly if its operator is one of those that are left out. -/
theorem rawCondition?_filter {supports keeps : Operator → Bool}
    (h : ∀ op, keeps op = true → supports op = true) (column : String) (raw : Value) :
    (rawCondition? pattern supports column raw).filter (fun c => keeps c.operator)
      = rawCondition? pattern keeps column raw := by
  -- Support is asked for after reading, which may have turned one operator into another.
  unfold rawCondition?
  cases Wire.read? raw with
  | none => rfl
  | some asked =>
    obtain ⟨op, v⟩ := asked
    simp only [Option.bind_eq_bind, Option.bind_some]
    cases hkeeps : keeps op with
    | true =>
      rw [h op hkeeps]
      split <;> simp [hkeeps]
    | false =>
      cases supports op <;> cases v.isEmpty <;> cases Condition.hasPredicate op v <;> simp [hkeeps]

/-- **Where fewer operators are supported, the conditions with other operators are left out,** and
those that are left keep their order. -/
theorem rawConditions_filter {supports keeps : Operator → Bool}
    (h : ∀ op, keeps op = true → supports op = true) (groupKey : String)
    (allowed : Option (List String)) (params : Params) :
    (rawConditions pattern supports groupKey allowed params).filter (fun c => keeps c.operator)
      = rawConditions pattern keeps groupKey allowed params := by
  rw [rawConditions, List.filter_filterMap]
  -- Each text is taken by itself, so that the order cannot change.
  refine List.filterMap_congr fun e _ => ?_
  split
  · exact rawCondition?_filter h e.1 e.2
  · rfl

/-- No condition of parameters is about two bounds.  No reader gives this operator, since it may not
stand in a URL. -/
theorem ne_between_of_mem_rawConditions {supports : Operator → Bool} {groupKey : String}
    {allowed : Option (List String)} {params : Params} {c : Condition}
    (h : c ∈ rawConditions pattern supports groupKey allowed params) :
    supports c.operator = true ∧ c.operator ≠ .between := by
  obtain ⟨column, raw, -, hmade⟩ := exists_of_mem_rawConditions h
  obtain ⟨op, v, hread, hsupports, -, -, rfl⟩ := exists_read_of_rawCondition? hmade
  refine ⟨hsupports, ?_⟩
  rintro rfl
  exact absurd (Wire.settled_of_read? hread).1 (by decide)

/-! ### Backends that support less -/

variable {Query : Type} {b full : Backend Query}

/-- If there are conditions with operators that are not supported, there is a first one.  The
conditions before it are all supported. -/
theorem exists_first {operators : List Operator} {conditions : List Condition}
    (h : ∃ c ∈ conditions, c.operator ∉ operators) :
    ∃ before c after, conditions = before ++ c :: after ∧
      (∀ d ∈ before, d.operator ∈ operators) ∧ c.operator ∉ operators := by
  obtain ⟨c, hc⟩ : ∃ c, conditions.find? (fun c => !operators.contains c.operator) = some c := by
    rw [← Option.isSome_iff_exists, List.find?_isSome]
    simpa using h
  obtain ⟨hoperator, before, after, hsplit, hbefore⟩ := List.find?_eq_some_iff_append.1 hc
  exact ⟨before, c, after, hsplit, by simpa using hbefore, by simpa using hoperator⟩

/-- **The first condition with an operator that is not supported is the error.**  It does not matter
what comes behind it, and whether it could be cast. -/
theorem apply_of_first {allowed : Option (List String)} {filters : List Filter}
    {before after : List Condition} {c : Condition}
    (hmade : Condition.ofFilters b.pattern allowed filters = .ok (before ++ c :: after))
    (hbefore : ∀ d ∈ before, d.operator ∈ b.supported) (hc : c.operator ∉ b.supported) (q : Query)
    (kinds : Option Condition.Kinds) :
    b.apply q allowed kinds filters = .error (.notAmong b.supported c.operator) := by
  have hfirst : (before ++ c :: after).find? (fun d => !b.supports d.operator) = some c :=
    List.find?_eq_some_iff_append.2
      ⟨by simpa [supports] using hc, before, after, rfl, by simpa [supports] using hbefore⟩
  rw [apply, hmade]
  simp only [bind, Except.bind, checkSupported, hfirst]

/-- A backend that supports some of the operators of another one, and has the same patterns.  With
these operators the two narrow alike, and none of them is what an error is about. -/
structure Restricts (b full : Backend Query) : Prop where
  subset : b.supported ⊆ full.supported
  pattern_eq : b.pattern = full.pattern
  narrow_eq : ∀ q c, c.operator ∈ b.supported → b.narrow q c = full.narrow q c
  narrow_error : ∀ q c e, c.operator ∈ b.supported → c.operator ≠ .between →
    b.narrow q c = .error e → e.isUnsupported = false

namespace Restricts

variable {q : Query} {allowed : Option (List String)} {filters : List Filter}
  {conditions : List Condition}

/-- Conditions with supported operators narrow a query alike.  By their order they meet the same
queries on the way. -/
theorem foldlM_eq (h : Restricts b full) (hsupported : ∀ c ∈ conditions, c.operator ∈ b.supported)
    (q : Query) : conditions.foldlM b.narrow q = conditions.foldlM full.narrow q := by
  induction conditions generalizing q with
  | nil => rfl
  | cons c conditions ih =>
    -- By induction on the conditions, as both sides narrow by one in the same way.
    rw [List.forall_mem_cons] at hsupported
    rw [List.foldlM_cons, List.foldlM_cons, h.narrow_eq q c hsupported.1]
    exact bind_congr fun r => ih hsupported.2 r

/-- Conditions with supported operators make no error about an operator.  If one fails, it fails for
the column or for the value. -/
theorem foldlM_error (h : Restricts b full)
    (hsupported : ∀ c ∈ conditions, c.operator ∈ b.supported ∧ c.operator ≠ .between) {e : Error}
    (herror : conditions.foldlM b.narrow q = .error e) : e.isUnsupported = false :=
  of_foldlM_error (P := fun e => e.isUnsupported = false)
    (fun r c hc e he => h.narrow_error r c e (hsupported c hc).1 (hsupported c hc).2 he) herror

/-! ### Filters -/

/-- Filters whose conditions have supported operators narrow a query alike.  The check passes on
both sides. -/
theorem apply_eq (h : Restricts b full)
    (hmade : Condition.ofFilters b.pattern allowed filters = .ok conditions)
    (hsupported : ∀ c ∈ conditions, c.operator ∈ b.supported) (q : Query) :
    b.apply q allowed none filters = full.apply q allowed none filters := by
  rw [b.apply_of_supported q hmade hsupported, h.foldlM_eq hsupported,
    full.apply_of_supported q (h.pattern_eq ▸ hmade) fun c hc => h.subset (hsupported c hc)]

/-- **An error of filters is about an operator exactly if one of their conditions has an operator
that is not supported.** -/
theorem apply_isUnsupported_iff (h : Restricts b full)
    (hmade : Condition.ofFilters b.pattern allowed filters = .ok conditions) (q : Query) :
    (∃ e, b.apply q allowed none filters = .error e ∧ e.isUnsupported = true) ↔
      ∃ c ∈ conditions, c.operator ∉ b.supported := by
  constructor
  · -- Otherwise all conditions pass the check, and behind it no error is about an operator.
    rintro ⟨e, he, hunsupported⟩
    by_contra hnone
    have hsupported : ∀ c ∈ conditions, c.operator ∈ b.supported := by simpa using hnone
    rw [b.apply_of_supported q hmade hsupported] at he
    have hother := h.foldlM_error
      (fun c hc => ⟨hsupported c hc, Condition.ne_between_of_mem_ofFilters hmade hc⟩) he
    rw [hother] at hunsupported
    exact absurd hunsupported (by decide)
  · -- The first condition with such an operator is what the error names.
    intro hother
    obtain ⟨before, c, after, rfl, hbefore, hc⟩ := exists_first hother
    exact ⟨_, apply_of_first hmade hbefore hc q none, rfl⟩

/-! ### Parameters -/

/-- **The conditions of parameters are those of the other backend with supported operators.** -/
theorem rawConditions_eq (h : Restricts b full) (groupKey : String)
    (allowed : Option (List String)) (params : Params) :
    rawConditions b.pattern b.supports groupKey allowed params
      = (rawConditions full.pattern full.supports groupKey allowed params).filter
          fun c => b.supported.contains c.operator := by
  have hkeeps : ∀ op, b.supports op = true → full.supports op = true :=
    fun op hop => full.supports_iff.2 (h.subset (b.supports_iff.1 hop))
  rw [← h.pattern_eq]
  exact (rawConditions_filter hkeeps groupKey allowed params).symm

/-- Parameters narrow a query by the conditions with supported operators, and the other backend
narrows it by those alike.  What is left out on one side is left out on the other. -/
theorem applyRaw_eq (h : Restricts b full) (q : Query) (groupKey : String)
    (allowed : Option (List String)) (params : Params) :
    b.applyRaw q allowed none groupKey params
      = ((rawConditions full.pattern full.supports groupKey allowed params).filter
          fun c => b.supported.contains c.operator).foldlM full.narrow q := by
  rw [applyRaw, narrowAll_none, h.rawConditions_eq, h.foldlM_eq]
  intro c hc
  simpa using (List.mem_filter.1 hc).2

/-- No error of parameters is about an operator.  Conditions with other operators have been left out
before. -/
theorem isUnsupported_of_applyRaw (h : Restricts b full) {groupKey : String} {params : Params}
    {e : Error} (herror : b.applyRaw q allowed none groupKey params = .error e) :
    e.isUnsupported = false := by
  rw [applyRaw, narrowAll_none] at herror
  refine h.foldlM_error (fun c hc => ?_) herror
  obtain ⟨hsupports, hop⟩ := ne_between_of_mem_rawConditions hc
  exact ⟨b.supports_iff.1 hsupports, hop⟩

end Restricts

end Backend

/-! ### Backends in memory and in databases -/

/-- **In memory, the backend with fewer operators narrows like that with more.** -/
theorem Memory.restricts_backend (ρ : Type) [Record ρ] (fields : Option (List String))
    {operators registered : List Operator} (hsubset : operators ⊆ registered) :
    (backend ρ fields operators).Restricts (backend ρ fields registered) where
  subset := hsubset
  pattern_eq := rfl
  narrow_eq := by
    intro q c hc
    have hknown : operators.contains c.operator = true := List.contains_iff_mem.2 hc
    have hregistered : registered.contains c.operator = true :=
      List.contains_iff_mem.2 (hsubset hc)
    simp only [backend, narrow, hknown, hregistered, if_true]
  narrow_error := by
    intro q c e hc _ h
    have hknown : operators.contains c.operator = true := List.contains_iff_mem.2 hc
    simp only [backend, narrow, hknown, if_true] at h
    split at h
    · simp at h
    · exact Except.error.inj h ▸ rfl

namespace Relational

section Predicates

variable {column : Column} {v : Value} {e : Error}

/-- An order fails for a constant, and for no other reason. -/
theorem Predicate.isUnsupported_of_ordering {relation : Relation}
    (h : ordering relation column v = .error e) : e.isUnsupported = false := by
  unfold ordering at h
  split at h
  · exact Except.error.inj h ▸ rfl
  · simp at h

/-- A choice fails for what cannot be gone through. -/
theorem Predicate.isUnsupported_of_choices (h : choices v = .error e) :
    e.isUnsupported = false := by
  unfold choices at h
  split at h
  · exact Except.error.inj h ▸ rfl
  · split at h
    · simp at h
    · exact Except.error.inj h ▸ rfl

/-- A list of an array fails for what has no values to list. -/
theorem Predicate.isUnsupported_of_array (h : array v = .error e) : e.isUnsupported = false := by
  unfold array at h
  split at h
  · simp at h
  · exact Except.error.inj h ▸ rfl

/-- A predicate fails to be made for other reasons than its operator, unless this is about two
bounds. -/
theorem Predicate.isUnsupported_of_of {name : String} {op : Operator} (hop : op ≠ .between)
    (h : Predicate.of name op column v = .error e) : e.isUnsupported = false := by
  -- What is made of a list fails only if the list does.
  have hlist : ∀ {list : Except Error Value} {relation : Relation},
      (list >>= fun items => .ok (⟨relation, .column column, .bind items⟩ : Predicate)) = .error e →
        list = .error e :=
    fun h => (error_of_bind_eq_error h).resolve_right fun ⟨_, _, h⟩ => by simp at h
  cases op with
  | between => exact absurd rfl hop
  | gt | gte | lt | lte | like | ilike => exact isUnsupported_of_ordering h
  | among | notAmong => exact isUnsupported_of_choices (hlist h)
  | contains | containedBy | overlaps => exact isUnsupported_of_array (hlist h)
  | is =>
    simp only [Predicate.of] at h
    split at h
    · simp at h
    · exact Except.error.inj h ▸ Error.isUnsupported_rejected name v .bool
  | eq | neq | isNull | search | plainSearch | phraseSearch => simp [Predicate.of] at h

end Predicates

/-- **In a database, the backend with fewer operators narrows like that with more.** -/
theorem restricts_backend (source : Source) {operators registered : List Operator}
    (hsubset : operators ⊆ registered) :
    (backend source operators).Restricts (backend source registered) where
  subset := hsubset
  pattern_eq := rfl
  narrow_eq := by
    intro q c hc
    have hknown : operators.contains c.operator = true := List.contains_iff_mem.2 hc
    have hregistered : registered.contains c.operator = true :=
      List.contains_iff_mem.2 (hsubset hc)
    simp only [backend, narrow, hknown, hregistered, if_true]
  narrow_error := by
    intro q c e hc hop h
    have hknown : operators.contains c.operator = true := List.contains_iff_mem.2 hc
    simp only [backend, narrow, hknown, if_true] at h
    rcases error_of_bind_eq_error h with hcolumn | ⟨column, -, h⟩
    · unfold Source.resolve at hcolumn
      split at hcolumn
      · simp at hcolumn
      · exact Except.error.inj hcolumn ▸ rfl
    rcases error_of_bind_eq_error h with hpredicate | ⟨predicate, -, h⟩
    · exact Predicate.isUnsupported_of_of hop hpredicate
    · simp [pure, Except.pure] at h

end Relational

/-! ### Stores -/

/-- Where queries are answered: in memory, over records of some type with fields that may be known,
or in a database, over the columns of a source.  Both kinds are queried by the same calls. -/
inductive Store where
  | memory (ρ : Type) [Memory.Record ρ] (fields : Option (List String))
  | database (source : Relational.Source)

namespace Store

open Condition (substringPattern)

/-- The queries of a store.  Their type depends on where the rows are. -/
def Query : Store → Type
  | memory ρ _ => Memory.Query ρ
  | database _ => Relational.Select

/-- The backend of a store that supports some operators. -/
def backend (operators : List Operator) : (store : Store) → Backend store.Query
  | memory ρ fields => Memory.backend ρ fields operators
  | database source => Relational.backend source operators

/-- A store supports exactly the operators that it was given. -/
@[simp] theorem supported_backend (operators : List Operator) (store : Store) :
    (store.backend operators).supported = operators := by
  cases store <;> rfl

/-- Stores of both kinds search for a text in the same way. -/
@[simp] theorem pattern_backend (operators : List Operator) (store : Store) :
    (store.backend operators).pattern = substringPattern := by
  cases store <;> rfl

/-- A store with fewer operators narrows like the same store with more. -/
theorem restricts_backend (store : Store) {operators registered : List Operator}
    (hsubset : operators ⊆ registered) :
    (store.backend operators).Restricts (store.backend registered) := by
  cases store with
  | memory ρ fields => exact Memory.restricts_backend ρ fields hsubset
  | database source => exact Relational.restricts_backend source hsubset

/-- **Filters are handled strictly and parameters leniently.**  Let a store support some of the
registered operators.

Filters whose conditions can be made have an error about an operator exactly if one of these
conditions has an operator that is not supported; the first such operator is named.  Otherwise the
outcome is the same as if all registered operators were supported.  No condition is about two
bounds, since each of them makes a condition of its own.  If the conditions cannot be made, the
error is not about an operator, and is the same whichever operators are supported.

Parameters never have an error about an operator.  They narrow a query by those of the conditions,
made where all registered operators are supported, that have supported operators, in the same order;
and in memory, with no fields to know, they narrow it without an error. -/
theorem strict_and_lenient {operators registered : List Operator}
    (hsubset : operators ⊆ registered) :
    (∀ (store : Store) (q : store.Query) (allowed : Option (List String)) (filters : List Filter),
      (∀ conditions, Condition.ofFilters substringPattern allowed filters = .ok conditions →
        (∀ c ∈ conditions, c.operator ≠ .between) ∧
        ((∃ e, (store.backend operators).apply q allowed none filters = .error e ∧
            e.isUnsupported = true) ↔ ∃ c ∈ conditions, c.operator ∉ operators) ∧
        (∀ before c after, conditions = before ++ c :: after →
          (∀ d ∈ before, d.operator ∈ operators) → c.operator ∉ operators →
            (store.backend operators).apply q allowed none filters
              = .error (.notAmong operators c.operator)) ∧
        ((∀ c ∈ conditions, c.operator ∈ operators) →
          (store.backend operators).apply q allowed none filters
            = (store.backend registered).apply q allowed none filters)) ∧
      ∀ e, Condition.ofFilters substringPattern allowed filters = .error e →
        e.isUnsupported = false ∧
          (store.backend operators).apply q allowed none filters = .error e ∧
          (store.backend registered).apply q allowed none filters = .error e) ∧
    (∀ (store : Store) (q : store.Query) (allowed : Option (List String)) (groupKey : String)
        (params : Params),
      (store.backend registered).applyRaw q allowed none groupKey params
          = (Backend.rawConditions substringPattern registered.contains groupKey allowed
              params).foldlM (store.backend registered).narrow q ∧
        (store.backend operators).applyRaw q allowed none groupKey params
          = ((Backend.rawConditions substringPattern registered.contains groupKey allowed
              params).filter fun c => operators.contains c.operator).foldlM
                (store.backend registered).narrow q ∧
        ∀ e, (store.backend operators).applyRaw q allowed none groupKey params = .error e →
          e.isUnsupported = false) ∧
    ∀ (ρ : Type) [Memory.Record ρ] (q : Memory.Query ρ) (allowed : Option (List String))
        (groupKey : String) (params : Params),
      (Memory.backend ρ none registered).applyRaw q allowed none groupKey params
          = .ok { q with
              predicates := q.predicates ++
                (Backend.rawConditions substringPattern registered.contains groupKey allowed
                  params).map Memory.meets } ∧
        (Memory.backend ρ none operators).applyRaw q allowed none groupKey params
          = .ok { q with
              predicates := q.predicates ++
                ((Backend.rawConditions substringPattern registered.contains groupKey allowed
                  params).filter fun c => operators.contains c.operator).map Memory.meets } := by
  refine ⟨fun store q allowed filters => ⟨fun conditions hmade => ?_, fun e he => ?_⟩,
    fun store q allowed groupKey params => ?_, fun ρ _ q allowed groupKey params => ?_⟩
  · have h := store.restricts_backend hsubset
    rw [← pattern_backend operators store] at hmade
    refine ⟨fun c hc => Condition.ne_between_of_mem_ofFilters hmade hc, ?_, ?_, ?_⟩
    · simpa using h.apply_isUnsupported_iff hmade q
    · rintro before c after rfl hbefore hc
      simpa using Backend.apply_of_first (b := store.backend operators) hmade
        (by simpa using hbefore) (by simpa using hc) q none
    · intro hsupported
      exact h.apply_eq hmade (by simpa using hsupported) q
  · refine ⟨Condition.isUnsupported_of_ofFilters he, ?_, ?_⟩ <;>
      rw [Backend.apply, pattern_backend, he] <;> rfl
  · have h := store.restricts_backend hsubset
    -- The registered operators are tested in the same way in both kinds of stores.
    have hregistered : (store.backend registered).supports = registered.contains := by
      cases store <;> rfl
    have hnarrowed := h.applyRaw_eq q groupKey allowed params
    rw [supported_backend, hregistered, pattern_backend] at hnarrowed
    refine ⟨?_, hnarrowed, fun e he => h.isUnsupported_of_applyRaw he⟩
    rw [Backend.applyRaw, Backend.narrowAll_none, hregistered, pattern_backend]
  · have hmade : ∀ c ∈ Backend.rawConditions substringPattern registered.contains groupKey allowed
          params,
        Condition.allowed none c.field = true ∧ registered.contains c.operator = true :=
      fun c hc => ⟨rfl, (Backend.ne_between_of_mem_rawConditions hc).1⟩
    have h := Memory.restricts_backend ρ none hsubset
    constructor
    · rw [Backend.applyRaw, Backend.narrowAll_none]
      exact Memory.foldlM_narrow_of_known hmade q
    · rw [h.applyRaw_eq]
      exact Memory.foldlM_narrow_of_known (fun c hc => hmade c (List.mem_of_mem_filter hc)) q

/-- Two operators, the only ones that a store supports.  Both may stand in a URL. -/
def fewOperators : List Operator :=
  [.eq, .lte]

/-- A range without a lower bound, and a filter without a value. -/
def upToSix : List Filter :=
  [Memory.ofNumber .between (.range .null (.int 6)), Memory.ofNumber .like .null]

/-- Columns of a table.  The filters above are on its one column. -/
def numbers : Relational.Source :=
  .tables [⟨"numbers", ["number"]⟩]

/-- A range without a lower bound needs one operator only; of two operators that are not supported,
the first one is named; and of two parameters one is left out. -/
theorem fewOperators_strict_and_lenient :
    ((Store.database numbers).backend fewOperators).apply (.ofSource numbers) none none upToSix
        = ((Store.database numbers).backend Operator.wire).apply (.ofSource numbers) none none
            upToSix ∧
      ((Store.memory Value none).backend fewOperators).apply (.ofRecords []) none none
          (upToSix ++ [Memory.ofNumber .like (.text "5"), Memory.ofNumber .gt (.int 5)])
        = .error (.notAmong fewOperators .like) ∧
      (Memory.backend Value none fewOperators).applyRaw (.ofRecords []) none none "and"
          (.ofList [("state", .text "is.null"), ("number", .text "lte.6")])
        = .ok { records := [], predicates := [Memory.meets ⟨"number", .lte, .text "6"⟩] } := by
  obtain ⟨hstrict, -, hlenient⟩ :=
    strict_and_lenient (show fewOperators ⊆ Operator.wire by decide)
  refine ⟨?_, ?_, ?_⟩
  · have hmade : Condition.ofFilters substringPattern none upToSix
        = .ok [⟨"number", .lte, .int 6⟩] := rfl
    obtain ⟨-, -, -, hequal⟩ :=
      (hstrict (.database numbers) (.ofSource numbers) none upToSix).1 _ hmade
    exact hequal (by decide)
  · have hmade : Condition.ofFilters substringPattern none
        (upToSix ++ [Memory.ofNumber .like (.text "5"), Memory.ofNumber .gt (.int 5)])
      = .ok ([⟨"number", .lte, .int 6⟩] ++
          ⟨"number", .like, .text "%5%"⟩ :: [⟨"number", .gt, .int 5⟩]) := rfl
    obtain ⟨-, -, hfirst, -⟩ := (hstrict (.memory Value none) (.ofRecords []) none _).1 _ hmade
    exact hfirst _ _ _ rfl (by decide) (by decide)
  · exact (hlenient Value (.ofRecords []) none "and"
      (.ofList [("state", .text "is.null"), ("number", .text "lte.6")])).2

end Store

end UrlFilter
