import UrlFilter.Proofs.Number.Ceiling
import UrlFilter.Proofs.Page.Bounds

namespace UrlFilter.Page

/-!
# Where a jump leads

A jump bounds the offset in rows: by the largest offset, and by the last row as far as the total is
known.  In pages, it leads to the page asked for or to the last one that can be reached.

* `Page.pageCount` — the number of pages that hold all rows, by an exact division.
* `Page.isLeast_pageCount`, `Page.pageCount_eq` — what this number is.
* `Page.lastOffset`, `Page.lastPage` — the bounds of a jump, in rows and in pages.
* `Page.lastPage_eq` — the one bound in terms of the other.
* `Page.jumpOffset_eq_iff` — when the bounds do not matter.
* `Page.jump_lands` — where a jump leads.
-/

/-! ### The number of pages -/

/-- The number of pages that hold `n` rows: the exact quotient, rounded up.  There are none without
rows. -/
def pageCount (limit n : Int) : Int :=
  ⌈(n : ℚ) / limit⌉

section PageCount

variable {limit : Int} (hlimit : 0 < limit)

include hlimit

/-- So many pages hold all rows that are at least the number of pages.  This is how it is compared
below. -/
theorem pageCount_le_iff {n k : Int} : pageCount limit n ≤ k ↔ n ≤ k * limit :=
  Number.Binary.ceil_div_le_iff hlimit

/-- **The number of pages is the least one that holds all rows.**  One page less would leave a row
out. -/
theorem isLeast_pageCount (n : Int) : IsLeast {k | n ≤ k * limit} (pageCount limit n) :=
  ⟨(pageCount_le_iff hlimit).1 le_rfl, fun _ hk => (pageCount_le_iff hlimit).2 hk⟩

/-- The last page is that of the last row.  Without rows this is the page in front of the first
one. -/
theorem pageCount_eq (n : Int) : pageCount limit n = (n - 1) / limit + 1 := by
  -- Both sides have the same numbers above them.
  refine eq_of_forall_ge_iff fun k => ?_
  rw [pageCount_le_iff hlimit, Int.add_one_le_iff, Int.ediv_lt_iff_lt_mul hlimit]
  omega

/-- The page of the earlier of two rows is the earlier of their pages.  So bounds in rows turn into
bounds in pages. -/
theorem min_ediv (a b : Int) : min a b / limit = min (a / limit) (b / limit) := by
  obtain h | h := le_total a b
  · rw [min_eq_left h, min_eq_left (Int.ediv_le_ediv hlimit h)]
  · rw [min_eq_right h, min_eq_right (Int.ediv_le_ediv hlimit h)]

/-- The page of the later of two rows is the later of their pages. -/
theorem max_ediv (a b : Int) : max a b / limit = max (a / limit) (b / limit) := by
  obtain h | h := le_total a b
  · rw [max_eq_right h, max_eq_right (Int.ediv_le_ediv hlimit h)]
  · rw [max_eq_left h, max_eq_left (Int.ediv_le_ediv hlimit h)]

end PageCount

/-! ### Bounds of a jump -/

/-- The largest offset that a jump leads to: the largest one at all, and within the rows as far as
their total is known.  It is the first row where there are no rows. -/
def lastOffset (p : Page) : Int :=
  match p.total with
  | none => maxOffset
  | some n => min maxOffset (max 0 (n - 1))

/-- The last page that a jump leads to: that of the largest offset, and the last one that has rows
as far as their total is known.  There is always a first page to go to. -/
def lastPage (p : Page) : Int :=
  match p.total with
  | none => maxOffset / p.limit + 1
  | some n => min (maxOffset / p.limit + 1) (max 1 (pageCount p.limit n))

theorem jumpOffset_eq (p : Page) (k : Int) :
    p.jumpOffset k = min ((k - 1) * p.limit) p.lastOffset := by
  unfold jumpOffset lastOffset
  cases p.total with
  | none => rfl
  | some n => exact min_assoc _ _ _

section Bounds

variable {p : Page} (hlimit : 0 < p.limit)

include hlimit

/-- **The last page is that of the largest offset.**  The page need not begin there. -/
theorem lastPage_eq : p.lastPage = p.lastOffset / p.limit + 1 := by
  unfold lastPage lastOffset
  cases p.total with
  | none => rfl
  | some n =>
    -- Each bound in rows becomes one in pages.
    simp only [min_ediv hlimit, max_ediv hlimit, pageCount_eq hlimit, Int.zero_ediv]
    omega

/-- **The offset of a page is that of a jump to it if the page is not behind the last one.**  Behind
it the offset may lie in the middle of a page. -/
theorem jumpOffset_eq_iff {k : Int} :
    p.jumpOffset k = (k - 1) * p.limit ↔ k ≤ p.lastPage := by
  rw [jumpOffset_eq, min_eq_left_iff, lastPage_eq hlimit, ← Int.le_ediv_iff_mul_le hlimit]
  omega

/-- A jump leads to the page asked for, or else to the last one.  This holds of every number, also
below one. -/
theorem number_jumpOffset (k : Int) :
    ({ p with offset := p.jumpOffset k } : Page).number = min k p.lastPage := by
  have hnumber : ({ p with offset := p.jumpOffset k } : Page).number
      = p.jumpOffset k / p.limit + 1 := number_eq hlimit
  rw [hnumber, jumpOffset_eq, min_ediv hlimit, Int.mul_ediv_cancel _ hlimit.ne', lastPage_eq hlimit]
  omega

end Bounds

/-! ### Steps to the next page -/

/-- The page after some steps to the next one.  Nothing bounds these steps. -/
theorem iterate_next (p : Page) (steps : Nat) :
    next^[steps] p = { p with offset := p.offset + steps * p.limit } := by
  -- Each step adds the limit once more.
  induction steps with
  | zero => simp
  | succ steps ih =>
    rw [Function.iterate_succ_apply', ih, next]
    congr 1
    push_cast
    ring

/-- **Where a jump leads.**  It leads to the page asked for or to the last one that can be reached,
whichever is less; the row it leads to is within the rows, as far as their total is known.  A page
that can be reached is that of so many steps from the first one, and no other one is. -/
theorem jump_lands {p : Page} (hlimit : 0 < p.limit) {k : Int} (hk : 1 ≤ k) :
    ∃ q, p.jump k = .ok q ∧ q.number = min k p.lastPage ∧
      (∀ n ∈ p.total, q.firstRow ≤ max 1 n) ∧
      (q = next^[(k - 1).toNat] p.first ↔ k ≤ p.lastPage) := by
  -- The page follows from the offset; what remains is where the offset lies.
  refine ⟨_, jump_eq_ok_iff.2 ⟨hk, rfl⟩, number_jumpOffset hlimit k, fun n hn => ?_, ?_⟩
  · have hbound : p.lastOffset ≤ max 0 (n - 1) := by
      rw [lastOffset, Option.mem_def.1 hn]
      exact min_le_right _ _
    have hoffset : p.jumpOffset k ≤ p.lastOffset := by
      rw [jumpOffset_eq]
      exact min_le_right _ _
    show p.jumpOffset k + 1 ≤ max 1 n
    omega
  · have hsteps : ((k - 1).toNat : Int) = k - 1 := Int.toNat_of_nonneg (by omega)
    rw [iterate_next, hsteps, ← jumpOffset_eq_iff hlimit]
    simp [first]

/-- Ten rows of a page of a result of a hundred and one.  The last page has one row only. -/
def tenOfHundred : Page :=
  ⟨10, 40, some 101, defaultLimitOptions, defaultMaxLimit⟩

/-- The eleventh page has the last row; a jump behind it leads to this row. -/
theorem tenOfHundred_jump_lands :
    tenOfHundred.lastPage = 11 ∧
      (∃ q, tenOfHundred.jump 4 = .ok q ∧ q.number = 4 ∧ q = next^[3] tenOfHundred.first) ∧
      ∃ q, tenOfHundred.jump 12 = .ok q ∧ q.number = 11 ∧ q.firstRow ≤ 101 ∧
        q ≠ next^[11] tenOfHundred.first := by
  have hlimit : 0 < tenOfHundred.limit := by decide
  have hlast : tenOfHundred.lastPage = 11 := by
    rw [lastPage_eq hlimit]
    decide
  obtain ⟨q, hq, hnumber, -, hsteps⟩ := jump_lands hlimit (k := 4) (by decide)
  obtain ⟨r, hr, hrnumber, hrow, hrsteps⟩ := jump_lands hlimit (k := 12) (by decide)
  rw [hlast] at hnumber hsteps hrnumber hrsteps
  exact ⟨hlast, ⟨q, hq, hnumber, hsteps.2 (by decide)⟩, r, hr, hrnumber, hrow 101 rfl,
    fun h => absurd (hrsteps.1 h) (by decide)⟩

end UrlFilter.Page
