import UrlFilter.Proofs.Backend.Calls
import UrlFilter.Proofs.Backend.Recorder
import UrlFilter.Proofs.Memory.Walk
import UrlFilter.Proofs.Scheme

namespace UrlFilter

/-!
# Filters as a conjunction

A record meets filters if it meets all their conditions.  So it does not matter in which order the
filters are applied, by how many calls, and which pages are taken in between.

* `Memory.satisfies` — the record meets a predicate, as a plain test.
* `Memory.matching_eq` — the records that meet all predicates, by this test.
* `Memory.foldlM_narrow_of_known` — conditions narrow a query one after another.
* `Call.Plain`, `Call.filters` — calls that apply filters as they are or give a page.
* `Memory.run_of_plain` — what a query is after such calls.
* `Memory.matching_run` — the records that meet filters, however these are applied.
-/

namespace Memory

variable {ρ : Type}

/-! ### Records that meet predicates -/

/-- The record meets a predicate, and whether it does is defined.  A predicate without an answer
counts as not met; the results below exclude it. -/
def satisfies (r : ρ) (p : Predicate ρ) : Bool :=
  (p r).toOption.getD false

/-- If whether a record meets a predicate is defined, the test tells it.  Outside this case the test
says nothing about the record. -/
theorem eq_satisfies {r : ρ} {p : Predicate ρ} (h : ∃ b, p r = .ok b) :
    p r = .ok (satisfies r p) := by
  obtain ⟨b, hb⟩ := h
  rw [satisfies, hb]
  rfl

/-- **The records that meet all predicates,** if for each of them each predicate has an answer.
Each record is tested by itself, so they stay in their order. -/
theorem matching_eq {q : Query ρ}
    (h : ∀ r ∈ q.records, ∀ p ∈ q.predicates, ∃ b, p r = .ok b) :
    q.matching = .ok (q.records.filter fun r => q.predicates.all (satisfies r)) :=
  filterM_eq_ok fun r hr => allM_eq_ok fun p hp => eq_satisfies (h r hr p hp)

/-! ### Narrowing -/

variable [Record ρ] {fields : Option (List String)} {operators : List Operator}

/-- A query in memory searches with wildcards around a text. -/
@[simp] theorem pattern_backend :
    (backend ρ fields operators).pattern = Condition.substringPattern :=
  rfl

/-- Conditions on known fields with operators of the backend narrow a query one after another.  The
records, the limit and the offset stay as they are. -/
theorem foldlM_narrow_of_known {conditions : List Condition}
    (h : ∀ c ∈ conditions,
      Condition.allowed fields c.field = true ∧ operators.contains c.operator = true)
    (q : Query ρ) :
    conditions.foldlM (backend ρ fields operators).narrow q
      = .ok { q with predicates := q.predicates ++ conditions.map meets } := by
  -- One condition adds one predicate.
  induction conditions generalizing q with
  | nil => simp [pure, Except.pure]
  | cons c conditions ih =>
    rw [List.forall_mem_cons] at h
    have hstep : (backend ρ fields operators).narrow q c
        = .ok { q with predicates := q.predicates ++ [meets c] } := by
      simp only [backend, narrow, h.1.1, h.1.2, if_true]
    rw [List.foldlM_cons, hstep]
    exact (ih h.2 _).trans (by rw [List.append_assoc, List.singleton_append, List.map_cons])

end Memory

/-! ### Plain calls -/

/-- The call applies filters as they are, on all fields and without casts, or gives a page.  Other
calls may refuse a filter or change its values. -/
inductive Call.Plain : Call → Prop
  | apply (filters : List Filter) : Plain (.apply none none filters)
  | paginate (limit offset : Option Int) : Plain (.paginate limit offset)

/-- The filters that a call applies.  A call that gives a page applies none. -/
def Call.filters : Call → List Filter
  | apply _ _ filters => filters
  | _ => []

namespace Memory

open Condition (substringPattern)

variable {ρ : Type} [Record ρ] {fields : Option (List String)} {operators : List Operator}

/-- A backend accepts a filter that makes conditions on known fields with its operators.  A filter
without a condition is accepted by every backend. -/
def Accepts (fields : Option (List String)) (operators : List Operator) (f : Filter) : Prop :=
  Condition.ofFilter substringPattern f = .ok (f.conditions substringPattern) ∧
    ∀ c ∈ f.conditions substringPattern,
      Condition.allowed fields c.field = true ∧ operators.contains c.operator = true

/-- Filters narrow a query by their conditions.  Nothing is evaluated yet, so this needs no
answers. -/
theorem apply_of_accepts {filters : List Filter} (h : ∀ f ∈ filters, Accepts fields operators f)
    (q : Query ρ) :
    (backend ρ fields operators).apply q none none filters
      = .ok { q with predicates := q.predicates
          ++ (filters.flatMap (Filter.conditions substringPattern)).map meets } := by
  have hsupports : ∀ f ∈ filters, ∀ c ∈ f.conditions substringPattern,
      (backend ρ fields operators).supports c.operator = true :=
    fun f hf c hc => ((h f hf).2 c hc).2
  rw [Backend.apply_eq_foldlM (backend ρ fields operators) q (fun f hf => (h f hf).1) hsupports,
    pattern_backend, foldlM_narrow_of_known]
  intro c hc
  obtain ⟨f, hf, hc⟩ := List.mem_flatMap.1 hc
  exact (h f hf).2 c hc

/-- **What a query is after plain calls:** its records are the same, and to its predicates those of
the conditions of all filters are added, in the order of the calls.  Pages change only the limit and
the offset. -/
theorem run_of_plain {calls : List Call} (hplain : ∀ c ∈ calls, c.Plain)
    (h : ∀ f ∈ calls.flatMap Call.filters, Accepts fields operators f) (q : Query ρ) :
    ∃ r, (backend ρ fields operators).run q calls = .ok r ∧ r.records = q.records ∧
      r.predicates = q.predicates ++
        ((calls.flatMap Call.filters).flatMap (Filter.conditions substringPattern)).map meets := by
  -- One call adds the conditions of its filters, and a page adds none.
  induction calls generalizing q with
  | nil => exact ⟨q, rfl, rfl, by simp⟩
  | cons c calls ih =>
    rw [List.forall_mem_cons] at hplain
    rw [List.flatMap_cons, List.forall_mem_append] at h
    have hfirst : ∃ s, c.run (backend ρ fields operators) q = .ok s ∧ s.records = q.records ∧
        s.predicates = q.predicates
          ++ (c.filters.flatMap (Filter.conditions substringPattern)).map meets := by
      cases hplain.1 with
      | apply filters => exact ⟨_, apply_of_accepts h.1 q, rfl, rfl⟩
      | paginate limit offset => exact ⟨_, rfl, rfl, (List.append_nil _).symm⟩
    obtain ⟨s, hs, hrecords, hpredicates⟩ := hfirst
    obtain ⟨r, hr, hrecords', hpredicates'⟩ := ih hplain.2 h.2 s
    refine ⟨r, ?_, hrecords'.trans hrecords, ?_⟩
    · rw [Backend.run, List.foldlM_cons, hs]
      exact hr
    · rw [hpredicates', hpredicates, List.flatMap_cons, List.flatMap_append, List.map_append,
        List.append_assoc]

/-! ### Records that meet filters -/

/-- **The records that meet filters.**  Let each predicate of a query and each condition of some
filters have an answer for each record, and let the backend know the fields and the operators of the
filters.  Then applying the filters leaves of the records that meet the query those that meet each
condition of the filters, in their order.  So do calls that apply the same filters in any order, as
many at a time as they like and with any pages in between, and all count equally many.  The counts
do not depend on the pages either. -/
theorem matching_run (fields : Option (List String)) (operators : List Operator) (q : Query ρ)
    {filters : List Filter} {conditions : List Condition}
    (hmade : Condition.ofFilters substringPattern none filters = .ok conditions)
    (hknown : ∀ c ∈ conditions,
      Condition.allowed fields c.field = true ∧ operators.contains c.operator = true)
    (hmeets : ∀ r ∈ q.records, (∀ p ∈ q.predicates, ∃ b, p r = .ok b) ∧
      ∀ c ∈ conditions, ∃ b, meets c r = .ok b) :
    ∃ matched rows, q.matching = .ok matched ∧
      rows = (matched.filter fun r => conditions.all fun c => satisfies r (meets c)) ∧
      (∃ s, (backend ρ fields operators).apply q none none filters = .ok s ∧
        s.matching = .ok rows ∧ s.count = .ok rows.length) ∧
      ∀ calls, (∀ c ∈ calls, c.Plain) → (calls.flatMap Call.filters).Perm filters →
        ∃ s, (backend ρ fields operators).run q calls = .ok s ∧
          s.matching = .ok rows ∧ s.count = .ok rows.length := by
  have hof : ∀ f ∈ filters,
      Condition.ofFilter substringPattern f = .ok (f.conditions substringPattern) := by
    intro f hf
    obtain ⟨made, hf⟩ := Condition.exists_ofFilter_of_ofFilters hmade hf rfl
    exact Filter.ofFilter_eq_conditions hf
  obtain rfl : filters.flatMap (Filter.conditions substringPattern) = conditions :=
    Except.ok.inj ((Condition.ofFilters_eq hof).symm.trans hmade)
  have haccepts : ∀ f ∈ filters, Accepts fields operators f :=
    fun f hf => ⟨hof f hf, fun c hc => hknown c (List.mem_flatMap.2 ⟨f, hf, hc⟩)⟩
  have hmatched := matching_eq fun r hr => (hmeets r hr).1
  -- However the filters are applied, their conditions are the same up to their order.
  have hcalls : ∀ calls, (∀ c ∈ calls, c.Plain) → (calls.flatMap Call.filters).Perm filters →
      ∃ s, (backend ρ fields operators).run q calls = .ok s ∧
        s.matching = .ok ((q.records.filter fun r => q.predicates.all (satisfies r)).filter
          fun r => (filters.flatMap (Filter.conditions substringPattern)).all
            fun c => satisfies r (meets c)) := by
    intro calls hplain hperm
    obtain ⟨s, hs, hrecords, hpredicates⟩ :=
      run_of_plain hplain (fun f hf => haccepts f (hperm.subset hf)) q
    -- Filters in another order have the same conditions in another order.
    have hasked := (hperm.flatMap_right (Filter.conditions substringPattern)).map (meets (ρ := ρ))
    refine ⟨s, hs, ?_⟩
    rw [matching_eq, hrecords, hpredicates, List.filter_filter]
    · refine congrArg Except.ok (List.filter_congr fun r _ => ?_)
      rw [List.all_append, hasked.all_eq, List.all_map, Bool.and_comm]
      rfl
    · rw [hrecords, hpredicates]
      intro r hr p hp
      rcases List.mem_append.1 hp with hp | hp
      · exact (hmeets r hr).1 p hp
      · obtain ⟨c, hc, rfl⟩ := List.mem_map.1 (hasked.subset hp)
        exact (hmeets r hr).2 c hc
  refine ⟨_, _, hmatched, rfl, ?_, fun calls hplain hperm => ?_⟩
  · obtain ⟨s, hs, hrows⟩ := hcalls [.apply none none filters]
      (List.forall_mem_singleton.2 (.apply filters)) (by simp [Call.filters])
    have hsingle : (backend ρ fields operators).run q [.apply none none filters]
        = (backend ρ fields operators).apply q none none filters := bind_pure _
    exact ⟨s, hsingle.symm.trans hs, hrows, count_of_matching hrows⟩
  · obtain ⟨s, hs, hrows⟩ := hcalls calls hplain hperm
    exact ⟨s, hs, hrows, count_of_matching hrows⟩

/-- Three numbers above two, one of them above six.  The numbers are tested, so the query has an
answer for each of its records. -/
def threeNumbers : Query Value where
  records := [numbered 7, numbered 5, numbered 4, numbered 3]
  predicates := [meets ⟨"number", .gt, .int 2⟩]

/-- A filter on numbers.  The name of the field is also that of its column. -/
def ofNumber (op : Operator) (v : Value) : Filter :=
  ⟨"number", op, v, some (.ofKind .number "number"), "number"⟩

/-- The numbers from three to six other than four, and a filter without a value.  The filter without
a value makes no condition. -/
def toSixButFour : List Filter :=
  [ofNumber .between (.range (.int 3) (.int 6)), ofNumber .eq .null, ofNumber .neq (.int 4)]

/-- Two of the numbers are left, whether the filters are applied at once, or in another order by two
calls with pages in between. -/
theorem threeNumbers_matching_run :
    ∃ rows, rows = [numbered 5, numbered 3] ∧
      (∃ s, (backend Value none Operator.wire).apply threeNumbers none none toSixButFour = .ok s ∧
        s.matching = .ok rows ∧ s.count = .ok rows.length) ∧
      ∃ s, (backend Value none Operator.wire).run threeNumbers
          [.apply none none [ofNumber .neq (.int 4), ofNumber .eq .null], .paginate (some 1) none,
            .apply none none [ofNumber .between (.range (.int 3) (.int 6))],
            .paginate none (some 3)] = .ok s ∧
        s.matching = .ok rows ∧ s.count = .ok rows.length := by
  have hmade : Condition.ofFilters substringPattern none toSixButFour
      = .ok [⟨"number", .gte, .int 3⟩, ⟨"number", .lte, .int 6⟩, ⟨"number", .neq, .int 4⟩] := rfl
  have hmeets : ∀ r ∈ threeNumbers.records,
      (∀ p ∈ threeNumbers.predicates, ∃ b, p r = .ok b) ∧
        ∀ c ∈ [⟨"number", .gte, .int 3⟩, ⟨"number", .lte, .int 6⟩, ⟨"number", .neq, .int 4⟩],
          ∃ b, meets c r = .ok b := by
    simp only [threeNumbers, List.forall_mem_cons, List.not_mem_nil, false_implies, implies_true,
      and_true]
    refine ⟨⟨?_, ?_, ?_, ?_⟩, ⟨?_, ?_, ?_, ?_⟩, ⟨?_, ?_, ?_, ?_⟩, ?_, ?_, ?_, ?_⟩ <;>
      exact ⟨_, rfl⟩
  obtain ⟨matched, rows, hmatched, hrows, happly, hrun⟩ :=
    matching_run none Operator.wire threeNumbers hmade (by decide) hmeets
  have hall : threeNumbers.matching
      = .ok [numbered 7, numbered 5, numbered 4, numbered 3] := rfl
  obtain rfl := Except.ok.inj (hall.symm.trans hmatched)
  -- The second way applies the same filters in reverse.
  refine ⟨rows, hrows, happly, hrun _ ?_ ?_⟩
  · simp only [List.forall_mem_cons, List.not_mem_nil, false_implies, implies_true, and_true]
    exact ⟨.apply _, .paginate _ _, .apply _, .paginate _ _⟩
  · exact List.reverse_perm toSixButFour

end Memory

end UrlFilter
