import UrlFilter.Proofs.Partition
import UrlFilter.Proofs.Stability

namespace UrlFilter.Scheme

open Reading

/-!
# Reading what is left over

What reading leaves over holds no filters any more: it is of no field, and the text that is left of
the grouping parameter has the conditions that were left, however malformed the text was that they
were cut out of.

* `Scheme.grouped_left` — the conditions that are left of a group are found in it again.
* `Scheme.left_left` — nothing more is taken of what is left over.
* `Scheme.read_left_over` — what is read of what is left over.
-/

variable {s : Scheme}

/-- The conditions that are left bound no range.  This is what being left means. -/
theorem groupedBound?_of_mem_kept {conditions : List (List Char)} {c : List Char}
    (h : c ∈ s.kept conditions) : groupedBound? s c = none := by
  simpa using List.of_mem_filter h

/-- All conditions that are left are left again.  The test for being left does not depend on the
other conditions. -/
theorem kept_kept (s : Scheme) (conditions : List (List Char)) :
    s.kept (s.kept conditions) = s.kept conditions := by
  rw [kept, List.filter_eq_self]
  intro c hc
  rw [groupedBound?_of_mem_kept hc]
  rfl

/-- The same is left of a group and of the conditions that are left of it.  Their texts are joined
in the same way. -/
theorem residue_kept (s : Scheme) (conditions : List (List Char)) :
    s.residue (s.kept conditions) = s.residue conditions := by
  rw [residue_eq, residue_eq, kept_kept]

/-- Conditions that are left make no filters.  A filter needs a bound. -/
theorem groupedFilters_kept (s : Scheme) (conditions : List (List Char)) :
    groupedFilters s (s.kept conditions) = [] := by
  have hnone : ∀ c ∈ s.kept conditions, groupedBound? s c = none :=
    fun _ => groupedBound?_of_mem_kept
  have hnil := groupedFilters_append_of_eq_none hnone []
  rw [List.append_nil] at hnil
  exact hnil

variable (hkey : s.fieldOf? s.groupKey = none)

include hkey

/-- **The conditions that are left of a group are found in it again,** if it is a single text. -/
theorem grouped_left {p : Params} (hgroup : ∀ v, p.get? s.groupKey = some v → ∃ t, v = .text t) :
    s.grouped (s.left p) = s.kept (s.grouped p) := by
  have hfront : ∀ e ∈ (s.beside p).filter fun e => (s.fieldOf? e.1).isNone, e.1 ≠ s.groupKey :=
    fun e he => ne_groupKey_of_mem_beside (List.mem_of_mem_filter he)
  -- The conditions come out of one text, so that a reader keeps those that are left apart, even
  -- where the last one leaves a quote or a bracket open.
  rw [grouped_of_get? (get?_groupKey_of_residue hfront (entries_left hkey p)), ← leftText,
    splitConditions_leftText hgroup]

/-- No parameter that is left over is of a field.  The entries of fields have been taken away. -/
theorem askedFirst_left (p : Params) : s.askedFirst (s.left p) = [] := by
  have hnil : fieldEntries s (s.beside (s.left p)) = [] := by
    apply fieldEntries_eq_nil
    intro e he
    rw [beside_left hkey] at he
    simpa using List.of_mem_filter he
  rw [askedFirst, hnil]
  rfl

/-- **Nothing more is taken of what is left over.** -/
theorem left_left {p : Params} (hgroup : ∀ v, p.get? s.groupKey = some v → ∃ t, v = .text t) :
    s.left (s.left p) = s.left p := by
  refine Params.ext ?_
  -- Both parts of what is left, the entries of no field and the group, are what they were.
  rw [entries_left hkey, beside_left hkey, grouped_left hkey hgroup, residue_kept,
    List.filter_filter, entries_left hkey]
  simp only [Bool.and_self]

omit hkey

/-- **Reading what is left over** gives the start values of the fields that are always on, and
leaves the same over again.  It fails only if one of these fields starts with more than two bounds.
The conditions that are left of the grouping parameter are found in it again, and none of them
bounds a range. -/
theorem read_left_over
    (hkeys : ∀ c ∈ s.fields, c.name ≠ s.groupKey ∧ c.customKey? ≠ some s.groupKey) {p : Params}
    (hgroup : ∀ v, p.get? s.groupKey = some v → ∃ t, v = .text t) {r : Reading}
    (hread : s.read p = .ok r) :
    (∀ again, s.read r.remaining = .ok again ↔ ∃ always,
      (s.absent []).mapM Filter.start = .ok always ∧ again = ⟨always, r.remaining⟩) ∧
    ((∃ again, s.read r.remaining = .ok again) ↔
      ∀ c ∈ s.fields, c.alwaysOn = true → c.StartFits) ∧
    s.grouped r.remaining = s.kept (s.grouped p) ∧
    ∀ c ∈ s.grouped r.remaining, groupedBound? s c = none := by
  have hkey : s.fieldOf? s.groupKey = none := fieldOf?_eq_none_iff.2 hkeys
  obtain ⟨-, -, -, -, rfl⟩ := (read_eq_ok_iff hkey).1 hread
  -- No parameter of a field is left, and no condition that is left bounds a range, so that no field
  -- is met again.
  have hasked := askedFirst_left hkey p
  have hgrouped := grouped_left hkey hgroup
  have haside : s.groupedAside (s.left p) = [] := by
    rw [groupedAside, hgrouped, groupedFilters_kept, List.filter_nil]
  have hmet : s.met (s.left p) = [] := by
    rw [met, hasked, haside]
    rfl
  have hagain : ∀ again, s.read (s.left p) = .ok again ↔ ∃ always,
      (s.absent []).mapM Filter.start = .ok always ∧ again = ⟨always, s.left p⟩ := by
    intro again
    rw [read_eq_ok_iff hkey, hasked, haside, hmet, left_left hkey hgroup]
    simp [pure, Except.pure]
  refine ⟨hagain, ?_, hgrouped, fun c hc => ?_⟩
  · have hok : (∃ again, s.read (s.left p) = .ok again)
        ↔ ∃ always, (s.absent []).mapM Filter.start = .ok always := by
      simp [hagain]
    rw [hok, exists_mapM_eq_ok_iff]
    simp [Filter.exists_start_iff, absent]
  · rw [hgrouped] at hc
    exact groupedBound?_of_mem_kept hc

/-- A group that opens a quote and does not close it, with a bound in front of the quote and one
behind it.  A browser may have cut it off. -/
def torn : Params :=
  .ofList [("colour", .text "red"), ("and", .text "(sent.lte.3, ,x\"y,made.gte.1")]

/-- The bound behind the quote stays part of the condition that is left.  A second reading finds the
same text, and not a bound. -/
theorem torn_read_left_over :
    ∃ r again, post.read torn = .ok r ∧
      r.remaining.entries = [("colour", .text "red"), ("and", .text "(x\"y,made.gte.1)")] ∧
      post.read r.remaining = .ok again ∧ again.remaining = r.remaining ∧
      again.filters.map Filter.field = ["remark", "made"] ∧
      post.grouped r.remaining = ["x\"y,made.gte.1".toList] := by
  have hgroup : ∀ v, torn.get? post.groupKey = some v → ∃ t, v = .text t :=
    fun v hv => ⟨_, (Option.some.inj hv).symm⟩
  obtain ⟨r, hr, hentries⟩ : ∃ r, post.read torn = .ok r ∧
      r.remaining.entries = [("colour", .text "red"), ("and", .text "(x\"y,made.gte.1)")] :=
    ⟨_, rfl, rfl⟩
  obtain ⟨hagain, -, hgrouped, -⟩ := read_left_over (s := post) (by decide) hgroup hr
  exact ⟨r, _, hr, hentries, (hagain _).2 ⟨_, rfl, rfl⟩, rfl, rfl, hgrouped⟩

/-- What is left over need not be read again: the parameter that hides a start value that does not
fit is no part of it. -/
theorem threeBounds_left_over_fails :
    ¬ ∀ (s : Scheme) (p : Params) (r : Reading), (s.fields.map (·.name)).Nodup →
      (∀ c ∈ s.fields, c.name ≠ s.groupKey ∧ c.customKey? ≠ some s.groupKey) →
      (∀ v, p.get? s.groupKey = some v → ∃ t, v = .text t) → s.read p = .ok r →
      ∃ again, s.read r.remaining = .ok again ∧ again.remaining = r.remaining := by
  intro h
  have hgroup : (Params.ofList [("made", .text "gte.1"), ("page", .text "2")]).get?
      threeBounds.groupKey = none := rfl
  obtain ⟨again, hagain, -⟩ := h threeBounds
    (.ofList [("made", .text "gte.1"), ("page", .text "2")]) _ (by decide) (by decide)
    (by simp [hgroup]) rfl
  -- The field starts with three bounds, which a parameter of its own has hidden before.
  have hfail : threeBounds.read (.ofList [("page", .text "2")]) = .error .badCall := rfl
  exact absurd (hfail.symm.trans hagain) (by simp)

end UrlFilter.Scheme
