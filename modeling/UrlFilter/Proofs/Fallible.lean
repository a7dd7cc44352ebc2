import Mathlib.Data.List.Basic
import Mathlib.Data.Set.List

namespace UrlFilter

/-!
# Lists of items that may have no result

A list has a result if its items have one.

* `exists_of_bind_eq_ok`, `error_of_bind_eq_error` — one step after another has a result only if
  both have one, and otherwise the error of the first that has none.
* `mapM_eq_ok_iff` — the results of all items.
* `anyM_eq_ok`, `allM_eq_ok`, `filterM_eq_ok` — tests that have a result for each item.
* `allM_concat` — one more test.
* `filterM_eq_ok_iff`, `filterM_error_iff` — when all items have an answer, and the error otherwise.
* `foldlM_of_ok`, `of_foldlM_error` — what each step keeps, and what each error is like.
* `foldl_eq_getLast?` — what the steps that give something give last.
-/

/-- What has a result after two steps has one after the first.  This takes a computation apart
without unfolding any of its steps. -/
theorem exists_of_bind_eq_ok {α β ε : Type} {x : Except ε α} {f : α → Except ε β} {b : β}
    (h : x >>= f = .ok b) : ∃ a, x = .ok a ∧ f a = .ok b := by
  cases x with
  | error e => simp [bind, Except.bind] at h
  | ok a => exact ⟨a, rfl, h⟩

/-- What has an error after two steps has one after the first, or gets it by the second.  It is the
counterpart of `exists_of_bind_eq_ok` for what goes wrong. -/
theorem error_of_bind_eq_error {α β ε : Type} {x : Except ε α} {f : α → Except ε β} {e : ε}
    (h : x >>= f = .error e) : x = .error e ∨ ∃ a, x = .ok a ∧ f a = .error e := by
  cases x with
  | error e' => exact .inl (congrArg _ (Except.error.inj h))
  | ok a => exact .inr ⟨a, rfl, h⟩

section Results

variable {α β ε : Type} {f : α → Except ε β} {items : List α}

/-- A list has results exactly if its items have them, in the same order.  A statement about results
so becomes one about lists. -/
theorem mapM_eq_ok_iff {results : List β} :
    items.mapM f = .ok results ↔ items.map f = results.map .ok := by
  -- By induction on the items, for any results: both lists have to be empty, or to start with the
  -- result of the first item.
  induction items generalizing results with
  | nil => cases results <;> simp [pure, Except.pure]
  | cons x items ih =>
    rw [List.mapM_cons, List.map_cons]
    cases f x with
    | error e => cases results <;> simp [bind, Except.bind]
    | ok y =>
      cases hrest : items.mapM f with
      | error e =>
        have hnone : ∀ rest : List β, items.map f ≠ rest.map .ok := by
          intro rest h
          rw [← ih, hrest] at h
          exact absurd h (by simp)
        cases results <;> simp [bind, Except.bind, hnone]
      | ok ys =>
        have hys := ih.1 hrest
        have hinj : Function.Injective (Except.ok : β → Except ε β) := fun _ _ => Except.ok.inj
        cases results <;>
          simp [bind, Except.bind, pure, Except.pure, hys, (List.map_injective_iff.2 hinj).eq_iff]

/-- All items of a list have a result exactly if each one has.  Nothing is said of what the results
are. -/
theorem exists_mapM_eq_ok_iff :
    (∃ results, items.mapM f = .ok results) ↔ ∀ x ∈ items, ∃ y, f x = .ok y := by
  have hrange : (∃ results, items.mapM f = .ok results)
      ↔ items.map f ∈ Set.range (List.map (Except.ok : β → Except ε β)) :=
    exists_congr fun _ => mapM_eq_ok_iff.trans eq_comm
  -- A list of results is a list whose members are all results.
  rw [hrange, Set.range_list_map]
  show (∀ r ∈ items.map f, ∃ y, .ok y = r) ↔ _
  rw [List.forall_mem_map]
  simp only [eq_comm]

/-- Each result of a list is that of one of its items.  The item need not be the only one with this
result. -/
theorem exists_of_mem_mapM {results : List β} (h : items.mapM f = .ok results) {y : β}
    (hy : y ∈ results) : ∃ x ∈ items, f x = .ok y := by
  have hmem : .ok y ∈ items.map f := by
    rw [mapM_eq_ok_iff.1 h]
    exact List.mem_map.2 ⟨y, hy, rfl⟩
  exact List.mem_map.1 hmem

/-- Each item of a list has its result among those of the list.  No item is passed over. -/
theorem exists_mem_of_mapM {results : List β} (h : items.mapM f = .ok results) {x : α}
    (hx : x ∈ items) : ∃ y ∈ results, f x = .ok y := by
  have hmem : f x ∈ results.map .ok := by
    rw [← mapM_eq_ok_iff.1 h]
    exact List.mem_map.2 ⟨x, hx, rfl⟩
  obtain ⟨y, hy, hok⟩ := List.mem_map.1 hmem
  exact ⟨y, hy, hok.symm⟩

/-- The error of a list is that of one of its items.  It is the first item that has one. -/
theorem exists_of_mapM_error {e : ε} (h : items.mapM f = .error e) :
    ∃ x ∈ items, f x = .error e := by
  induction items with
  | nil => simp [pure, Except.pure] at h
  | cons x items ih =>
    rw [List.mapM_cons] at h
    rcases error_of_bind_eq_error h with hx | ⟨y, -, h⟩
    · exact ⟨x, List.mem_cons_self, hx⟩
    · rcases error_of_bind_eq_error h with hrest | ⟨ys, -, h⟩
      · obtain ⟨z, hz, herror⟩ := ih hrest
        exact ⟨z, List.mem_cons_of_mem x hz, herror⟩
      · simp [pure, Except.pure] at h

end Results

/-! ### Steps -/

section Steps

variable {σ α ε : Type} {step : σ → α → Except ε σ} {items : List α} {s t : σ}

/-- What each step keeps, the steps together keep.  This is the induction along a run that has a
result. -/
theorem foldlM_of_ok {P : σ → Prop} (hstep : ∀ s x t, P s → step s x = .ok t → P t) (hs : P s)
    (h : items.foldlM step s = .ok t) : P t := by
  induction items generalizing s with
  | nil => exact Except.ok.inj h ▸ hs
  | cons x items ih =>
    rw [List.foldlM_cons] at h
    obtain ⟨r, hx, hrest⟩ := exists_of_bind_eq_ok h
    exact ih (hstep s x r hs hx) hrest

/-- What each error of a step is like, the error of the steps together is like.  The step that fails
need not be the first. -/
theorem of_foldlM_error {P : ε → Prop} (hstep : ∀ s, ∀ x ∈ items, ∀ e, step s x = .error e → P e)
    {e : ε} (h : items.foldlM step s = .error e) : P e := by
  induction items generalizing s with
  | nil => simp [pure, Except.pure] at h
  | cons x items ih =>
    rw [List.foldlM_cons] at h
    rcases error_of_bind_eq_error h with hx | ⟨r, -, h⟩
    · exact hstep s x List.mem_cons_self e hx
    · exact ih (fun s y hy => hstep s y (List.mem_cons_of_mem x hy)) h

/-- Where a step sets what it gives and otherwise leaves it, the steps together set what is given
last.  What the earlier steps give is replaced. -/
theorem foldl_eq_getLast? {β : Type} (view : σ → Option β) {next : σ → α → σ}
    {given? : α → Option β} (hnext : ∀ s x, view (next s x) = (given? x).or (view s))
    (items : List α) (s : σ) :
    view (items.foldl next s) = (items.filterMap given?).getLast?.or (view s) := by
  induction items generalizing s with
  | nil => rfl
  | cons x items ih =>
    -- By induction on the items: what the first one gives counts only if no later one gives
    -- anything.
    rw [List.foldl_cons, ih, hnext, List.filterMap_cons]
    cases given? x with
    | none => rfl
    | some b =>
      rw [List.getLast?_cons]
      cases (items.filterMap given?).getLast? <;> rfl

end Steps

/-! ### Tests -/

section Tests

variable {α ε : Type} {test : α → Except ε Bool} {p : α → Bool} {items : List α}

theorem anyM_eq_ok (h : ∀ x ∈ items, test x = .ok (p x)) : items.anyM test = .ok (items.any p) := by
  induction items with
  | nil => rfl
  | cons x items ih =>
    rw [List.forall_mem_cons] at h
    rw [List.anyM, h.1, List.any_cons]
    cases p x with
    | true => rfl
    | false => simpa [bind, Except.bind] using ih h.2

theorem allM_eq_ok (h : ∀ x ∈ items, test x = .ok (p x)) : items.allM test = .ok (items.all p) := by
  induction items with
  | nil => rfl
  | cons x items ih =>
    rw [List.forall_mem_cons] at h
    rw [List.allM, h.1, List.all_cons]
    cases p x with
    | false => rfl
    | true => simpa [bind, Except.bind] using ih h.2

theorem filterM_eq_ok (h : ∀ x ∈ items, test x = .ok (p x)) :
    items.filterM test = .ok (items.filter p) := by
  -- The items that pass are collected in reverse in front of those before them.
  have hafter : ∀ passed : List α,
      items.filterAuxM test passed = .ok ((items.filter p).reverse ++ passed) := by
    induction items with
    | nil => intro passed; rfl
    | cons x items ih =>
      rw [List.forall_mem_cons] at h
      intro passed
      rw [List.filterAuxM, h.1, List.filter_cons]
      cases hp : p x with
      | false => exact ih h.2 passed
      | true => exact (ih h.2 (x :: passed)).trans (by simp)
  rw [List.filterM, hafter []]
  simp [bind, Except.bind, pure, Except.pure]

/-- Items that stand for others are tested as these.  It does not matter whether the items or their
tests are exchanged. -/
theorem allM_map {β : Type} (g : β → α) (others : List β) :
    (others.map g).allM test = others.allM fun y => test (g y) := by
  induction others with
  | nil => rfl
  | cons y others ih => rw [List.map_cons, List.allM, List.allM, ih]

/-- One more test is asked of what passes the others.  It is not asked of what fails one of them
before. -/
theorem allM_concat (last : α) :
    (items ++ [last]).allM test
      = items.allM test >>= fun passes => if passes then test last else .ok false := by
  induction items with
  | nil =>
    show (test last >>= fun passes => _) = test last
    cases test last with
    | error e => rfl
    | ok passes => cases passes <;> rfl
  | cons x items ih =>
    rw [List.cons_append, List.allM, List.allM, ih]
    cases test x with
    | error e => rfl
    | ok passes => cases passes <;> rfl

/-- Items are tested without an error only if each of them is.  A test without an answer is an error
of the whole list. -/
theorem exists_of_filterM_eq_ok {passed : List α} (h : items.filterM test = .ok passed) :
    ∀ x ∈ items, ∃ b, test x = .ok b := by
  obtain ⟨collected, hafter, -⟩ := exists_of_bind_eq_ok h
  clear h
  -- What has been collected before plays no part.
  generalize ([] : List α) = before at hafter
  induction items generalizing before with
  | nil => exact fun x hx => absurd hx List.not_mem_nil
  | cons x items ih =>
    rw [List.filterAuxM] at hafter
    obtain ⟨b, hx, hrest⟩ := exists_of_bind_eq_ok hafter
    exact List.forall_mem_cons.2 ⟨⟨b, hx⟩, ih _ hrest⟩

/-- **The items that pass a test,** if each of them has an answer.  An item passes if the answer is
yes, and they stay in order. -/
theorem filterM_eq_ok_iff {passed : List α} :
    items.filterM test = .ok passed ↔ (∀ x ∈ items, ∃ b, test x = .ok b) ∧
      passed = items.filter fun x => (test x).toOption.getD false := by
  have hanswer : (∀ x ∈ items, ∃ b, test x = .ok b) →
      items.filterM test = .ok (items.filter fun x => (test x).toOption.getD false) := by
    intro h
    refine filterM_eq_ok fun x hx => ?_
    obtain ⟨b, hb⟩ := h x hx
    rw [hb]
    rfl
  constructor
  · intro h
    have hall := exists_of_filterM_eq_ok h
    exact ⟨hall, Except.ok.inj (h.symm.trans (hanswer hall))⟩
  · rintro ⟨h, rfl⟩
    exact hanswer h

/-- Items that can be tested are filtered; if one cannot, there is no answer for the list.  The
error is the same for all of them. -/
theorem filterM_ite_eq_ok_iff {testable : α → Bool} {e : ε} {passed : List α} :
    items.filterM (fun x => (if testable x then .ok (p x) else .error e : Except ε Bool))
        = .ok passed ↔
      (∀ x ∈ items, testable x = true) ∧ passed = items.filter p := by
  have hanswer : ∀ x, (∃ b, (if testable x then .ok (p x) else .error e : Except ε Bool) = .ok b)
      ↔ testable x = true := by
    intro x
    cases testable x <;> simp
  simp only [filterM_eq_ok_iff, hanswer]
  refine and_congr_right fun htestable => Eq.congr_right (List.filter_congr fun x hx => ?_)
  rw [if_pos (htestable x hx)]
  rfl

/-- Two tests that fail for the same items, with the same errors, fail for a list with the same
error: that of its first item that has one.  Which items pass does not matter for this. -/
theorem filterM_error_iff {other : α → Except ε Bool}
    (h : ∀ x ∈ items, ∀ e, test x = .error e ↔ other x = .error e) (e : ε) :
    items.filterM test = .error e ↔ items.filterM other = .error e := by
  have hafter : ∀ before before' : List α,
      items.filterAuxM test before = .error e ↔ items.filterAuxM other before' = .error e := by
    induction items with
    | nil =>
      intro before before'
      simp [List.filterAuxM, pure, Except.pure]
    | cons x items ih =>
      rw [List.forall_mem_cons] at h
      intro before before'
      rw [List.filterAuxM, List.filterAuxM]
      cases hx : test x with
      | error fault =>
        rw [(h.1 fault).1 hx]
        rfl
      | ok b =>
        cases hx' : other x with
        | error fault => exact absurd (hx.symm.trans ((h.1 fault).2 hx')) (by simp)
        | ok b' => exact ih h.2 _ _
  -- The items that pass are put in order at the end, which makes no error.
  have hreverse : ∀ collected : Except ε (List α),
      (collected >>= fun passed => pure passed.reverse) = .error e ↔ collected = .error e := by
    rintro (fault | passed)
    · exact Iff.rfl
    · exact iff_of_false (by simp [bind, Except.bind, pure, Except.pure]) (by simp)
  rw [List.filterM, List.filterM, hreverse, hreverse]
  exact hafter [] []

end Tests

end UrlFilter
