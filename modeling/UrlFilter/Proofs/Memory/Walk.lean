import UrlFilter.Memory.Query
import UrlFilter.Page
import UrlFilter.Proofs.Fallible

namespace UrlFilter

/-!
# Walking the pages

Whoever starts on the first page and turns to the next one as long as there are rows behind it comes
to an end and has seen each row once, in order.

* `Page.Walk` — the pages that are visited on the way.
* `Page.Walk.unique` — there is only one way.
* `Memory.shown` — the rows that a page shows.
* `Memory.exists_walk` — the pages from a given one on show the rows from its offset on.
* `Memory.rows_walk` — the pages of a query show the records that meet its predicates.
-/

/-! ### Visited pages -/

/-- The pages that are visited from a page on: the next one follows as long as there are rows behind
this one.  The first page is visited even if it has no rows. -/
inductive Page.Walk : Page → List Page → Prop
  | stop {p : Page} (h : p.hasNext = false) : Walk p [p]
  | turn {p : Page} {pages : List Page} (h : p.hasNext = true) (rest : Walk p.next pages) :
      Walk p (p :: pages)

/-- There is only one way from a page on.  Each page tells whether another one follows. -/
theorem Page.Walk.unique {p : Page} {pages others : List Page} (h : p.Walk pages)
    (h' : p.Walk others) : others = pages := by
  -- The walks agree on whether they stop here, and on the page that they turn to.
  induction h generalizing others with
  | stop hlast =>
    cases h' with
    | stop => rfl
    | turn hmore => simp [hlast] at hmore
  | turn hmore _ ih =>
    cases h' with
    | stop hlast => simp [hmore] at hlast
    | turn _ rest => rw [ih rest]

theorem Page.Walk.ne_nil {p : Page} {pages : List Page} (h : p.Walk pages) : pages ≠ [] := by
  cases h <;> simp

/-- There are rows behind a page if it ends before the total.  Without a total no next page is
known. -/
theorem Page.hasNext_iff {p : Page} {n : Int} (h : p.total = some n) :
    p.hasNext = true ↔ p.offset + p.limit < n := by
  simp [hasNext, h]

namespace Memory

/-! ### Rows of a page -/

section Rows

variable {α : Type}

/-- A slice between two places that are not negative.  A slice that starts behind the end is
empty. -/
theorem slice_eq_take_drop (items : List α) (start size : Nat) :
    slice items start (some (start + size)) = (items.drop start).take size := by
  have hplace : ∀ place : Nat, placeIn items.length place = min place items.length := by
    intro place
    simp [placeIn]
  have hstop : placeIn items.length (start + size : Int) = min (start + size) items.length := by
    exact_mod_cast hplace (start + size)
  rw [slice, hplace, Option.map_some, Option.getD_some, hstop]
  -- Behind the end of the list both sides have nothing.
  rcases le_total start items.length with hle | hle
  · rw [min_eq_left hle, ← List.take_eq_take_min, List.drop_take, Nat.add_sub_cancel_left]
  · rw [min_eq_right hle, List.drop_eq_nil_of_le hle, List.take_nil, List.drop_eq_nil_of_le]
    exact List.length_take_le _ _ |>.trans (min_le_right _ _)

/-- The rows that a page shows.  The limit of the page is the most it shows. -/
def shown (rows : List α) (p : Page) : List α :=
  slice rows p.offset (some (p.offset + p.limit))

theorem shown_eq_take_drop (rows : List α) {p : Page} (hlimit : 0 < p.limit)
    (hoffset : 0 ≤ p.offset) :
    shown rows p = (rows.drop p.offset.toNat).take p.limit.toNat := by
  rw [← slice_eq_take_drop, Int.toNat_of_nonneg hoffset, Int.toNat_of_nonneg hlimit.le, shown]

/-- **The pages from a given one on** come to an end and show the rows from its offset on, each page
but the last one as many as its limit; and if there are such rows, no page is empty.  The total must
be the true one, as the walk ends where it says so. -/
theorem exists_walk (rows : List α) {p : Page} (hlimit : 0 < p.limit) (hoffset : 0 ≤ p.offset)
    (htotal : p.total = some (rows.length : Int)) :
    ∃ pages, p.Walk pages ∧ (pages.map (shown rows)).flatten = rows.drop p.offset.toNat ∧
      (∀ part ∈ (pages.map (shown rows)).dropLast, (part.length : Int) = p.limit) ∧
      (p.offset < rows.length → ∀ part ∈ pages.map (shown rows), part ≠ []) := by
  -- Each step leaves fewer rows behind the offset.
  induction hn : (rows.length - p.offset).toNat using Nat.strong_induction_on generalizing p with
  | _ n ih =>
    have hshown := shown_eq_take_drop rows hlimit hoffset
    -- Either there are rows behind the page, and the next page has its rows dropped, or it is the
    -- last.
    by_cases hmore : p.offset + p.limit < rows.length
    · have hnext : p.next.offset = p.offset + p.limit := rfl
      obtain ⟨pages, hwalk, hrows, hfull, hsome⟩ := ih (rows.length - p.next.offset).toNat
        (by omega) hlimit (p := p.next) (by omega) htotal rfl
      obtain ⟨first, others, rfl⟩ := List.exists_cons_of_ne_nil hwalk.ne_nil
      have hlength : ((shown rows p).length : Int) = p.limit := by
        rw [hshown, List.length_take, List.length_drop]
        omega
      refine ⟨p :: first :: others, .turn ((Page.hasNext_iff htotal).2 hmore) hwalk, ?_, ?_, ?_⟩
      · rw [List.map_cons, List.flatten_cons, hrows, hshown, hnext,
          Int.toNat_add hoffset hlimit.le, ← List.drop_drop, List.take_append_drop]
      · rw [List.map_cons, List.dropLast_cons_of_ne_nil (by simp), List.forall_mem_cons]
        exact ⟨hlength, hfull⟩
      · intro _
        rw [List.map_cons, List.forall_mem_cons]
        refine ⟨?_, hsome (by omega)⟩
        rw [← List.length_pos_iff]
        omega
    · have hlast : p.hasNext = false := by
        rw [Bool.eq_false_iff]
        exact (Page.hasNext_iff htotal).not.2 hmore
      have hall : shown rows p = rows.drop p.offset.toNat := by
        rw [hshown, List.take_of_length_le]
        rw [List.length_drop]
        omega
      refine ⟨[p], .stop hlast, by simpa using hall, by simp, fun hsome => ?_⟩
      rw [List.map_singleton, List.forall_mem_singleton, hall, ← List.length_pos_iff,
        List.length_drop]
      omega

end Rows

/-! ### Pages of a query -/

section Queries

variable {ρ : Type}

/-- If each predicate has an answer for each record, so has the query.  One error on any record
would stop the query. -/
theorem exists_matching {q : Query ρ}
    (h : ∀ r ∈ q.records, ∀ p ∈ q.predicates, ∃ b, p r = .ok b) :
    ∃ rows, q.matching = .ok rows := by
  choose! answer hanswer using h
  exact ⟨_, filterM_eq_ok fun r hr => allM_eq_ok (hanswer r hr)⟩

/-- A query counts the records that meet its predicates.  It counts them whatever its limit and its
offset are. -/
theorem count_of_matching {q : Query ρ} {matched : List ρ} (h : q.matching = .ok matched) :
    q.count = .ok matched.length := by
  rw [Query.count, h]
  rfl

/-- **The pages of a query** show the records that meet its predicates.  If each predicate has an
answer for each record, the walk from the first page with the number of these records as its total
comes to an end, and its pages, one after another, show these records, each once and in order: each
page but the last one as many as its limit, and none of them nothing unless there are no records.
The number is the same on every page.  The predicates may be any, not only those that conditions
make. -/
theorem rows_walk [Record ρ] (fields : Option (List String)) (operators : List Operator)
    (q : Query ρ)
    {p : Page} (hlimit : 0 < p.limit)
    (hmeets : ∀ r ∈ q.records, ∀ p ∈ q.predicates, ∃ b, p r = .ok b) :
    ∃ rows, q.matching = .ok rows ∧ q.count = .ok rows.length ∧
      (∀ limit offset,
        ((backend ρ fields operators).paginate q limit offset).count = .ok rows.length) ∧
      ∃ pages, (∀ visited,
          (p.first.withTotal (some (rows.length : Int))).Walk visited ↔ visited = pages) ∧
        ∃ parts, pages.mapM (fun p =>
            ((backend ρ fields operators).paginate q (some p.limit) (some p.offset)).rows)
              = .ok parts ∧
          parts.flatten = rows ∧
          (∀ part ∈ parts.dropLast, (part.length : Int) = p.limit) ∧
          (rows ≠ [] → ∀ part ∈ parts, part ≠ []) := by
  obtain ⟨rows, hrows⟩ := exists_matching hmeets
  -- A page of a query has the records and the predicates of the query.
  have hcount : ∀ limit offset,
      ((backend ρ fields operators).paginate q limit offset).count = .ok rows.length := by
    intro limit offset
    have hsame : ((backend ρ fields operators).paginate q limit offset).matching = .ok rows := hrows
    rw [Query.count, hsame]
    rfl
  have hpage : ∀ p : Page,
      ((backend ρ fields operators).paginate q (some p.limit) (some p.offset)).rows
        = .ok (shown rows p) := by
    intro p
    have hsame : ((backend ρ fields operators).paginate q (some p.limit) (some p.offset)).matching
        = .ok rows := hrows
    rw [Query.rows, hsame]
    rfl
  obtain ⟨pages, hwalk, hflatten, hfull, hsome⟩ := exists_walk rows
    (p := p.first.withTotal (some (rows.length : Int))) hlimit le_rfl rfl
  refine ⟨rows, hrows, by rw [Query.count, hrows]; rfl, hcount, pages,
    fun visited => ⟨hwalk.unique, fun h => h ▸ hwalk⟩, pages.map (shown rows), ?_, hflatten, hfull,
    fun hne => hsome ?_⟩
  · rw [mapM_eq_ok_iff, List.map_map]
    exact List.map_congr_left fun p _ => hpage p
  · exact Int.natCast_pos.2 (List.length_pos_iff.2 hne)

end Queries

/-- A record with a number.  It is a mapping with a single key. -/
def numbered (n : Int) : Value :=
  .map [("number", .int n)]

/-- The numbers above two, of seven.  Two of them do not meet the predicate. -/
def aboveTwo : Query Value where
  records := [numbered 1, numbered 7, numbered 2, numbered 3, numbered 6, numbered 4, numbered 5]
  predicates := [meets ⟨"number", .gt, .int 2⟩]

/-- Two rows at a time.  The total is not known yet. -/
def twoRows : Page :=
  ⟨2, 0, none, Page.defaultLimitOptions, Page.defaultMaxLimit⟩

/-- The five numbers are seen two at a time, and the last one alone. -/
theorem aboveTwo_rows_walk :
    ∃ pages, (twoRows.withTotal (some 5)).Walk pages ∧
      ∃ parts, pages.mapM (fun p =>
          ((backend Value none Operator.wire).paginate aboveTwo (some p.limit)
            (some p.offset)).rows) = .ok parts ∧
        parts.flatten = [numbered 7, numbered 3, numbered 6, numbered 4, numbered 5] ∧
        ∀ part ∈ parts.dropLast, (part.length : Int) = 2 := by
  have hmeets : ∀ r ∈ aboveTwo.records, ∀ p ∈ aboveTwo.predicates, ∃ b, p r = .ok b := by
    simp only [aboveTwo, List.forall_mem_cons, List.not_mem_nil, false_implies, implies_true,
      and_true]
    exact ⟨⟨_, rfl⟩, ⟨_, rfl⟩, ⟨_, rfl⟩, ⟨_, rfl⟩, ⟨_, rfl⟩, ⟨_, rfl⟩, _, rfl⟩
  obtain ⟨rows, hrows, -, -, pages, hpages, parts, hparts, hflatten, hfull, -⟩ :=
    rows_walk none Operator.wire aboveTwo (p := twoRows) (by decide) hmeets
  have hfive : aboveTwo.matching
      = .ok [numbered 7, numbered 3, numbered 6, numbered 4, numbered 5] := rfl
  obtain rfl := Except.ok.inj (hfive.symm.trans hrows)
  exact ⟨pages, (hpages pages).2 rfl, parts, hparts, hflatten, hfull⟩

end Memory

end UrlFilter
