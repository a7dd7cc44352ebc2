import UrlFilter.Memory.Query
import UrlFilter.Proofs.Fallible
import UrlFilter.Relational.Select

namespace UrlFilter

/-!
# Calls on a query

A query is narrowed and gets its page by calls, one after another.  What narrows it leaves its page
alone; and of two calls that give a page, the later one replaces the whole page in memory, but in a
database only what it gives of it.

* `Call`, `Backend.run`, `Backend.after` — calls, and the query that they lead to.
* `Call.view_attempt` — what every narrowing keeps, the calls that give no page keep.
* `Memory.page_after`, `Relational.limit_after`, `Relational.offset_after` — the page after calls.
* `Backend.page_after_eq_iff` — when the page after calls is the same in memory and in a database.
-/

/-- What narrows a query or gives it a page.  These are all the ways in which a query changes. -/
inductive Call where
  | apply (allowed : Option (List String)) (kinds : Option Condition.Kinds) (filters : List Filter)
  | applyParams (allowed : Option (List String)) (kinds : Option Condition.Kinds)
      (scheme : Option Scheme) (params : Params)
  | applyRaw (allowed : Option (List String)) (kinds : Option Condition.Kinds) (groupKey : String)
      (params : Params)
  | paginate (limit offset : Option Int)

namespace Call

/-- The limit and the offset that a call gives, either of which may be left out.  Every other call
gives none. -/
def page? : Call → Option (Option Int × Option Int)
  | paginate limit offset => some (limit, offset)
  | _ => none

variable {Query : Type} (b : Backend Query)

/-- The query that a call leads to, unless it fails. -/
def run (q : Query) : Call → Except Error Query
  | apply allowed kinds filters => b.apply q allowed kinds filters
  | applyParams allowed kinds scheme params => b.applyParams q allowed kinds scheme params
  | applyRaw allowed kinds groupKey params => b.applyRaw q allowed kinds groupKey params
  | paginate limit offset => .ok (b.paginate q limit offset)

/-- The query after a call; one that fails leaves it as it is.  This is what an application sees
that catches the error and goes on. -/
def attempt (q : Query) (c : Call) : Query :=
  (c.run b q).toOption.getD q

end Call

namespace Backend

variable {Query : Type} (b : Backend Query)

/-- The query that calls lead to, unless one of them fails.  The first that fails is the error of
all. -/
def run (q : Query) (calls : List Call) : Except Error Query :=
  calls.foldlM (Call.run b) q

/-- The query after calls, of which those that fail leave it as it is.  It is defined for all
calls. -/
def after (q : Query) (calls : List Call) : Query :=
  calls.foldl (Call.attempt b) q

end Backend

/-- The pages that calls give, in order.  Only the last of them counts in memory. -/
def Call.pages (calls : List Call) : List (Option Int × Option Int) :=
  calls.filterMap Call.page?

/-! ### Narrowing keeps the page -/

section Narrowing

variable {Query α : Type} {b : Backend Query} {view : Query → α}

/-- What each condition keeps of a query, conditions together keep.  A cast changes conditions, but
no query. -/
theorem Backend.view_narrowAll (hview : ∀ q c r, b.narrow q c = .ok r → view r = view q)
    {q r : Query} {kinds : Option Condition.Kinds} {conditions : List Condition}
    (h : b.narrowAll q kinds conditions = .ok r) : view r = view q := by
  obtain ⟨cast, -, hfold⟩ := exists_of_bind_eq_ok h
  refine foldlM_of_ok (P := fun s => view s = view q) (fun s c t hs hstep => ?_) rfl hfold
  exact (hview s c t hstep).trans hs

/-- What each condition keeps of a query, filters keep. -/
theorem Backend.view_apply (hview : ∀ q c r, b.narrow q c = .ok r → view r = view q)
    {q r : Query} {allowed : Option (List String)} {kinds : Option Condition.Kinds}
    {filters : List Filter} (h : b.apply q allowed kinds filters = .ok r) : view r = view q := by
  -- Making and checking conditions does not touch the query.
  obtain ⟨conditions, -, hchecked⟩ := exists_of_bind_eq_ok h
  obtain ⟨_, -, hnarrowed⟩ := exists_of_bind_eq_ok hchecked
  exact view_narrowAll hview hnarrowed

/-- **What each condition keeps of a query, each call that gives no page keeps.**  A call that fails
keeps everything. -/
theorem Call.view_attempt (hview : ∀ q c r, b.narrow q c = .ok r → view r = view q) {c : Call}
    (hpage : c.page? = none) (q : Query) : view (c.attempt b q) = view q := by
  unfold attempt
  cases hrun : c.run b q with
  | error e => rfl
  | ok r =>
    show view r = view q
    -- Every call that gives no page ends in a narrowing by conditions.
    cases c with
    | apply allowed kinds filters => exact Backend.view_apply hview hrun
    | applyParams allowed kinds scheme params =>
      cases scheme with
      | none => simp [run, Backend.applyParams] at hrun
      | some s =>
        obtain ⟨result, -, happlied⟩ := exists_of_bind_eq_ok hrun
        exact Backend.view_apply hview happlied
    | applyRaw allowed kinds groupKey params => exact Backend.view_narrowAll hview hrun
    | paginate limit offset => simp [page?] at hpage

end Narrowing

/-! ### The page after calls -/

namespace Memory

variable {ρ : Type} [Record ρ] {fields : Option (List String)} {operators : List Operator}

/-- A condition leaves the page of a query in memory alone.  It adds a predicate and changes nothing
else. -/
theorem page_narrow {q r : Query ρ} {c : Condition}
    (h : (backend ρ fields operators).narrow q c = .ok r) :
    (r.limit, r.offset) = (q.limit, q.offset) := by
  simp only [backend, narrow] at h
  split at h
  · split at h
    · rw [← Except.ok.inj h]
    · simp at h
  · simp at h

/-- **A query in memory has the page of the last call that gives one.**  Without such a call it has
the page that it started with. -/
theorem page_after (fields : Option (List String)) (operators : List Operator) (q : Query ρ)
    (calls : List Call) :
    (((backend ρ fields operators).after q calls).limit,
        ((backend ρ fields operators).after q calls).offset)
      = (Call.pages calls).getLast?.getD (q.limit, q.offset) := by
  -- One call replaces the page or leaves it, so that the last replacement counts.
  have hstep : ∀ (q : Query ρ) (c : Call),
      some ((c.attempt (backend ρ fields operators) q).limit,
          (c.attempt (backend ρ fields operators) q).offset)
        = c.page?.or (some (q.limit, q.offset)) := by
    intro q c
    cases hpage : c.page? with
    | none => exact congrArg some (Call.view_attempt (fun _ _ _ => page_narrow) hpage q)
    | some page =>
      cases c with
      | paginate limit offset => exact hpage
      | _ => simp [Call.page?] at hpage
  have hlast := foldl_eq_getLast? (fun q : Query ρ => some (q.limit, q.offset)) hstep calls q
  rw [Option.or_some] at hlast
  exact Option.some.inj hlast

/-- A fresh query has no page, so that after calls it has what the last page gives.  A part that
this page leaves out is not there. -/
theorem page_after_ofRecords (fields : Option (List String)) (operators : List Operator)
    (records : List ρ) (calls : List Call) :
    ((backend ρ fields operators).after (.ofRecords records) calls).limit
        = (Call.pages calls).getLast?.bind Prod.fst ∧
      ((backend ρ fields operators).after (.ofRecords records) calls).offset
        = (Call.pages calls).getLast?.bind Prod.snd := by
  have hpage := Prod.ext_iff.1 (page_after fields operators (.ofRecords records) calls)
  cases hlast : (Call.pages calls).getLast? <;> rw [hlast] at hpage <;> exact hpage

end Memory

namespace Relational

variable {s : Source} {operators : List Operator}

/-- A condition leaves the page of a query of a database alone.  It adds a predicate and changes
nothing else. -/
theorem page_narrow {q r : Select} {c : Condition} (h : (backend s operators).narrow q c = .ok r) :
    (r.limit, r.offset) = (q.limit, q.offset) := by
  obtain ⟨column, -, hnarrowed⟩ := exists_of_bind_eq_ok h
  split at hnarrowed
  · obtain ⟨p, -, hmade⟩ := exists_of_bind_eq_ok hnarrowed
    rw [← Except.ok.inj hmade]
  · simp at hnarrowed

/-- A call sets what it gives of the page of a query of a database and leaves the rest.  Either part
can so be given by a call of its own. -/
theorem page_attempt (c : Call) (q : Select) :
    (c.attempt (backend s operators) q).limit = (c.page?.bind Prod.fst).or q.limit ∧
      (c.attempt (backend s operators) q).offset = (c.page?.bind Prod.snd).or q.offset := by
  -- A call that gives no page is a narrowing, and the other kind sets what it has.
  cases hpage : c.page? with
  | none => exact Prod.ext_iff.1 (Call.view_attempt (fun _ _ _ => page_narrow) hpage q)
  | some page =>
    cases c with
    | paginate limit offset =>
      obtain rfl := Option.some.inj hpage
      cases limit <;> cases offset <;> exact ⟨rfl, rfl⟩
    | _ => simp [Call.page?] at hpage

/-- **A query of a database has the limit that was given last.**  It may come from an earlier call
than the offset. -/
theorem limit_after (s : Source) (operators : List Operator) (q : Select) (calls : List Call) :
    ((backend s operators).after q calls).limit
      = ((Call.pages calls).filterMap Prod.fst).getLast?.or q.limit := by
  rw [Call.pages, List.filterMap_filterMap]
  exact foldl_eq_getLast? Select.limit (fun q c => (page_attempt c q).1) calls q

/-- **A query of a database has the offset that was given last.**  It may come from an earlier call
than the limit. -/
theorem offset_after (s : Source) (operators : List Operator) (q : Select) (calls : List Call) :
    ((backend s operators).after q calls).offset
      = ((Call.pages calls).filterMap Prod.snd).getLast?.or q.offset := by
  rw [Call.pages, List.filterMap_filterMap]
  exact foldl_eq_getLast? Select.offset (fun q c => (page_attempt c q).2) calls q

end Relational

/-! ### The same page in memory and in a database -/

namespace Call

variable {α π : Type} {part : π → Option α} {pages : List π} {last : π}

/-- What the last page gives is what is given last.  Pages that leave the part out do not count. -/
theorem getLast?_filterMap_of_last (hlast : pages.getLast? = some last) {x : α}
    (hpart : part last = some x) : (pages.filterMap part).getLast? = some x := by
  obtain ⟨front, rfl⟩ := List.getLast?_eq_some_iff.1 hlast
  simp [hpart]

/-- The last page gives what is given last, unless it leaves out what an earlier one gives.  Then
the two disagree, as one of them has forgotten the earlier one. -/
theorem bind_getLast?_eq_iff :
    pages.getLast?.bind part = (pages.filterMap part).getLast? ↔
      ∀ last ∈ pages.getLast?, part last = none → ∀ page ∈ pages, part page = none := by
  -- Without pages there is nothing to disagree about.
  cases hlast : pages.getLast? with
  | none => simp [List.getLast?_eq_none_iff.1 hlast]
  | some last =>
    cases hpart : part last with
    | none => simp [hpart, eq_comm]
    | some x => simp [hpart, getLast?_filterMap_of_last hlast hpart]

/-- Where what is left out counts as some value, an earlier page may also give that value.  This is
so for offsets, where none is as good as zero. -/
theorem getD_bind_getLast?_eq_iff (x : α) :
    (pages.getLast?.bind part).getD x = (pages.filterMap part).getLast?.getD x ↔
      ∀ last ∈ pages.getLast?, part last = none →
        ∀ y ∈ (pages.filterMap part).getLast?, y = x := by
  cases hlast : pages.getLast? with
  | none => simp [List.getLast?_eq_none_iff.1 hlast]
  | some last =>
    cases hpart : part last with
    | none => cases (pages.filterMap part).getLast? <;> simp [hpart, eq_comm]
    | some y => simp [hpart, getLast?_filterMap_of_last hlast hpart]

end Call

/-- **The page after calls in memory and in a database.**  After any calls on a fresh query, in
memory it has the limit and the offset of the last call that gives a page, and in a database the
limit and the offset that were given last.  So the limits are the same exactly if the last call that
gives a page gives a limit or none of them does; and the offsets, of which one that is left out is
zero, are the same exactly if the last such call gives an offset, or zero or none was given last. -/
theorem Backend.page_after_eq_iff {ρ : Type} [Memory.Record ρ] (records : List ρ)
    (fields : Option (List String)) (operators : List Operator) (s : Relational.Source)
    (others : List Operator) (calls : List Call) :
    ((Memory.backend ρ fields operators).after (.ofRecords records) calls).limit
        = (Call.pages calls).getLast?.bind Prod.fst ∧
      ((Memory.backend ρ fields operators).after (.ofRecords records) calls).offset
        = (Call.pages calls).getLast?.bind Prod.snd ∧
      ((Relational.backend s others).after (.ofSource s) calls).limit
        = ((Call.pages calls).filterMap Prod.fst).getLast? ∧
      ((Relational.backend s others).after (.ofSource s) calls).offset
        = ((Call.pages calls).filterMap Prod.snd).getLast? ∧
      (((Memory.backend ρ fields operators).after (.ofRecords records) calls).limit
          = ((Relational.backend s others).after (.ofSource s) calls).limit ↔
        ∀ last ∈ (Call.pages calls).getLast?, last.1 = none →
          ∀ page ∈ Call.pages calls, page.1 = none) ∧
      (((Memory.backend ρ fields operators).after (.ofRecords records) calls).offset.getD 0
          = ((Relational.backend s others).after (.ofSource s) calls).offset.getD 0 ↔
        ∀ last ∈ (Call.pages calls).getLast?, last.2 = none →
          ∀ n ∈ ((Call.pages calls).filterMap Prod.snd).getLast?, n = 0) := by
  obtain ⟨hlimit, hoffset⟩ := Memory.page_after_ofRecords fields operators records calls
  have hlimit' : ((Relational.backend s others).after (.ofSource s) calls).limit
      = ((Call.pages calls).filterMap Prod.fst).getLast? :=
    (Relational.limit_after s others (.ofSource s) calls).trans Option.or_none
  have hoffset' : ((Relational.backend s others).after (.ofSource s) calls).offset
      = ((Call.pages calls).filterMap Prod.snd).getLast? :=
    (Relational.offset_after s others (.ofSource s) calls).trans Option.or_none
  refine ⟨hlimit, hoffset, hlimit', hoffset', ?_, ?_⟩
  · rw [hlimit, hlimit']
    exact Call.bind_getLast?_eq_iff
  · rw [hoffset, hoffset']
    exact Call.getD_bind_getLast?_eq_iff 0

/-- A limit that the later of two calls leaves out is forgotten in memory only. -/
example :
    ((Memory.backend Value none Operator.wire).after (.ofRecords [])
        [.paginate (some 10) none, .paginate none (some 5)]).limit = none ∧
      ((Relational.backend (.tables []) Operator.wire).after (.ofSource (.tables []))
        [.paginate (some 10) none, .paginate none (some 5)]).limit = some 10 :=
  ⟨rfl, rfl⟩

end UrlFilter
