import Mathlib.Data.Nat.Digits.Defs
import Mathlib.Logic.Relation
import UrlFilter.Page
import UrlFilter.Proofs.Number.Numeral

namespace UrlFilter.Page

open UrlFilter.Number UrlFilter.Settings UrlFilter.Text

/-!
# Pages in a URL

A page is written as two parameters and read from them.  Reading bounds the limit and the offset,
and so do most of the moves between pages.

* `Page.params` — the parameters that ask for a page, as a reader finds them.
* `Page.ofParams_default` — what is read of any parameters.
* `Page.Ordinary` — what holds of every page that can be reached.
* `Page.Move`, `Page.Reached` — the moves between pages, and what they lead to.
* `Page.exists_ofParams_params` — what is read of the parameters of a page.
* `Page.params_read_back` — which of the pages that can be reached come back.
-/

/-- The parameters that ask for the page, as a reader finds them.  Their values are texts, as those
of a query string are. -/
def params (p : Page) : Params :=
  .ofList (p.toParams.map fun e => (e.1, .text e.2))

/-! ### Reading -/

theorem one_le_limitFrom (params : Params) {d : Defaults} (h : 1 ≤ d.limit) :
    1 ≤ limitFrom params d := by
  unfold limitFrom
  split
  · split <;> omega
  · exact h

theorem offsetFrom_nonneg (params : Params) : 0 ≤ offsetFrom params := by
  unfold offsetFrom
  split
  · split <;> omega
  · exact le_rfl

theorem readAbove_int {bound n : Int} (h : bound < n) : readAbove bound (.int n) = .ok n :=
  if_pos h

theorem readNonnegative_int {n : Int} (h : 0 ≤ n) : readNonnegative (.int n) = .ok n := by
  have hread : readNonnegative (.int n) = .ok ((n.toNat : Nat) : Int) := by
    simp [readNonnegative, readNat, readInt, h, bind, Except.bind, pure, Except.pure]
  rw [hread, Int.toNat_of_nonneg h]

/-- **What is read of any parameters:** the limit and the offset asked for, as far as they are
within their bounds. -/
theorem ofParams_default (params : Params) :
    ofParams params {} = .ok ⟨min (limitFrom params {}) defaultMaxLimit,
      min (offsetFrom params) maxOffset, none, defaultLimitOptions, defaultMaxLimit⟩ := by
  have hlimit : 0 < min (limitFrom params {}) defaultMaxLimit :=
    lt_min (one_le_limitFrom params (by decide)) (by decide)
  have hoffset : 0 ≤ min (offsetFrom params) maxOffset :=
    le_min (offsetFrom_nonneg params) (by decide)
  have hoptions : listOf readInt "limit_options" (.list (defaultLimitOptions.map .int))
      = .ok defaultLimitOptions := rfl
  have hmax : readAbove 0 (.int defaultMaxLimit) = .ok defaultMaxLimit := rfl
  simp only [ofParams, readAbove_int hlimit, readNonnegative_int hoffset, hoptions, hmax]
  rfl

/-! ### Written pages -/

theorem entries_params (p : Page) :
    p.params.entries = [("limit", .text (String.ofList (Integer.text p.limit))),
      ("offset", .text (String.ofList (Integer.text p.offset)))] := rfl

theorem get?_params_limit (p : Page) :
    p.params.get? "limit" = some (.text (String.ofList (Integer.text p.limit))) := by
  rw [Params.get?, entries_params, Params.lookup_cons, if_pos rfl]

theorem get?_params_offset (p : Page) :
    p.params.get? "offset" = some (.text (String.ofList (Integer.text p.offset))) := by
  rw [Params.get?, entries_params, Params.lookup_cons, if_neg (by decide), Params.lookup_cons,
    if_pos rfl]

/-- An integer of limited length is read of its text.  A longer text is not read at all. -/
theorem intParameter?_text {n : Int} (h : (Nat.toDigits 10 n.natAbs).length ≤ maxIntegerDigits) :
    intParameter? (some (.text (String.ofList (Integer.text n)))) = some n := by
  have hshown : (Value.text (String.ofList (Integer.text n))).shown
      = String.ofList (Integer.text n) := rfl
  simp [intParameter?, Value.sequence?, Value.isNull, hshown, Integer.read?_trim,
    Integer.read?_text h]

/-- A number below a million has few digits.  All limits and offsets that parameters ask for are
below. -/
theorem length_toDigits_of_lt {n : Int} (hn : 0 ≤ n) (h : n < 1000000) :
    (Nat.toDigits 10 n.natAbs).length ≤ maxIntegerDigits := by
  have hlength : (Nat.toDigits 10 n.natAbs).length ≤ 6 :=
    Nat.toDigits_length 10 n.natAbs 6 (by decide) (by omega)
  exact hlength.trans (by decide)

/-! ### Ordinary pages -/

/-- The page is valid, and its limit is within the bound that holds where none is set.  A page that
is read with the usual bounds is of this kind. -/
structure Ordinary (p : Page) : Prop extends Valid p where
  limit_le : p.limit ≤ defaultMaxLimit
  maxLimit_eq : p.maxLimit = defaultMaxLimit

/-- **What is read of the parameters of a page:** its limit, and its offset as far as it is within
its bound.  The total is not among them, and comes back unknown. -/
theorem Ordinary.exists_ofParams_params {p : Page} (h : p.Ordinary) :
    ∃ q, ofParams p.params {} = .ok q ∧ q.limit = p.limit ∧ q.offset ≤ maxOffset ∧
      (p.offset < 1000000 → q.offset = min p.offset maxOffset) := by
  -- The limit has few digits and is within its bounds, so that it is read as it is.
  have hlimit : limitFrom p.params {} = p.limit := by
    have hpos := h.limit_pos
    have hle : p.limit ≤ 100 := h.limit_le
    rw [limitFrom, get?_params_limit,
      intParameter?_text (length_toDigits_of_lt (by omega) (by omega))]
    exact if_neg (by omega)
  refine ⟨_, ofParams_default p.params, ?_, min_le_right _ _, fun hlt => ?_⟩
  · rw [hlimit, min_eq_left h.limit_le]
  · have hnonneg := h.offset_nonneg
    have hoffset : offsetFrom p.params = p.offset := by
      rw [offsetFrom, get?_params_offset, intParameter?_text (length_toDigits_of_lt hnonneg hlt)]
      exact if_neg (by omega)
    rw [hoffset]

/-! ### Moves -/

/-- A move from a page to another one.  The next page is taken only where there are rows behind this
one; a jump and a new limit need a number above zero.  A total has to be a number of rows. -/
inductive Move (p : Page) : Page → Prop
  | withTotal {n : Int} (h : 0 ≤ n) : Move p (p.withTotal (some n))
  | previous : Move p p.previous
  | next (h : p.hasNext = true) : Move p p.next
  | jump {k : Int} {q : Page} (h : p.jump k = .ok q) : Move p q
  | resize {limit : Int} {q : Page} (h : p.resize limit = .ok q) : Move p q
  | first : Move p p.first

/-- A page is reached from another one by moves.  There may be any number of moves, also none. -/
def Reached : Page → Page → Prop :=
  Relation.ReflTransGen Move

theorem jump_eq_ok_iff {p q : Page} {k : Int} :
    p.jump k = .ok q ↔ 1 ≤ k ∧ q = { p with offset := p.jumpOffset k } := by
  unfold jump
  split
  · next h => simp only [reduceCtorEq, false_iff]; omega
  · next h => rw [Except.ok.injEq, eq_comm, iff_and_self]; omega

theorem resize_eq_ok_iff {p q : Page} {limit : Int} :
    p.resize limit = .ok q ↔
      1 ≤ limit ∧ q = { p with limit := min limit p.maxLimit, offset := 0 } := by
  unfold resize
  split
  · next h => simp only [reduceCtorEq, false_iff]; omega
  · next h => rw [Except.ok.injEq, eq_comm, iff_and_self]; omega

/-- A jump leads to an offset within its bound.  It is not negative, even if the total is zero. -/
theorem jumpOffset_mem {p : Page} (hlimit : 0 < p.limit) {k : Int} (hk : 1 ≤ k) :
    0 ≤ p.jumpOffset k ∧ p.jumpOffset k ≤ maxOffset := by
  -- A multiple of the limit that is not negative stays so under each of the bounds.
  have hpages : 0 ≤ (k - 1) * p.limit := Int.mul_nonneg (by omega) hlimit.le
  have hmax : 0 ≤ maxOffset := by decide
  unfold jumpOffset
  cases p.total <;> simp only <;> omega

/-- **A move keeps a page ordinary.**  One case for each kind of move. -/
theorem Ordinary.move {p q : Page} (hp : p.Ordinary) (h : Move p q) : q.Ordinary := by
  obtain ⟨⟨hlimit, hoffset, htotal, hmaxLimit⟩, hle, hmax⟩ := hp
  cases h with
  | withTotal hn =>
    exact ⟨⟨hlimit, hoffset, by simpa [Page.withTotal] using hn, hmaxLimit⟩, hle, hmax⟩
  | previous => exact ⟨⟨hlimit, le_max_left _ _, htotal, hmaxLimit⟩, hle, hmax⟩
  | next => exact ⟨⟨hlimit, Int.add_nonneg hoffset hlimit.le, htotal, hmaxLimit⟩, hle, hmax⟩
  | jump h =>
    obtain ⟨hk, rfl⟩ := jump_eq_ok_iff.1 h
    exact ⟨⟨hlimit, (jumpOffset_mem hlimit hk).1, htotal, hmaxLimit⟩, hle, hmax⟩
  | resize h =>
    obtain ⟨hnew, rfl⟩ := resize_eq_ok_iff.1 h
    exact ⟨⟨lt_min (by omega) hmaxLimit, le_rfl, htotal, hmaxLimit⟩,
      (min_le_right _ _).trans hmax.le, hmax⟩
  | first => exact ⟨⟨hlimit, le_rfl, htotal, hmaxLimit⟩, hle, hmax⟩

/-- **Only the step to the next page leads to an offset above the bound.**  All other moves go back,
or are bounded by themselves. -/
theorem Move.offset_le_or_eq_next {p q : Page} (h : Move p q) (hlimit : 0 < p.limit)
    (hle : p.offset ≤ maxOffset) : q.offset ≤ maxOffset ∨ q = p.next := by
  have hmax : 0 ≤ maxOffset := by decide
  cases h with
  | withTotal => exact .inl hle
  | previous => exact .inl (max_le hmax (by omega))
  | next => exact .inr rfl
  | jump h =>
    obtain ⟨hk, rfl⟩ := jump_eq_ok_iff.1 h
    exact .inl (jumpOffset_mem hlimit hk).2
  | resize h =>
    obtain ⟨-, rfl⟩ := resize_eq_ok_iff.1 h
    exact .inl hmax
  | first => exact .inl hmax

/-- **Every page that is reached from an ordinary one is ordinary.**  So its limit comes back from a
URL, wherever it stands. -/
theorem Ordinary.reached {p q : Page} (hp : p.Ordinary) (h : Reached p q) : q.Ordinary := by
  induction h with
  | refl => exact hp
  | tail _ hmove ih => exact ih.move hmove

/-- Parameters ask for an ordinary page within the bound of offsets.  There are no parameters that
ask for none. -/
theorem exists_ordinary_ofParams (params : Params) :
    ∃ p, ofParams params {} = .ok p ∧ p.Ordinary ∧ p.offset ≤ maxOffset :=
  ⟨_, ofParams_default params,
    ⟨⟨lt_min (one_le_limitFrom params (by decide)) (by decide),
      le_min (offsetFrom_nonneg params) (by decide), by simp, (by decide : 0 < defaultMaxLimit)⟩,
      min_le_right _ _, rfl⟩,
    min_le_right _ _⟩

/-- **Which pages come back from their parameters.**  Parameters always ask for a page.  Of every
page that is reached from it the limit comes back, and the offset exactly if it is within its bound.
Of the moves from an offset within the bound only the step to the next page leads out of it, where
the page ends behind the bound; and the parameters of the next page lead further exactly if the
offset is below the bound.  An offset with too many digits to be written is far behind the bound,
and what stands in its parameters here is read as no offset. -/
theorem params_read_back (params : Params) :
    ∃ start, ofParams params {} = .ok start ∧ start.offset ≤ maxOffset ∧
      ∀ p, Reached start p →
        (∃ q, ofParams p.params {} = .ok q ∧ q.limit = p.limit ∧
          (q.offset = p.offset ↔ p.offset ≤ maxOffset)) ∧
        (p.offset ≤ maxOffset →
          (∀ q, Move p q → maxOffset < q.offset →
            q = p.next ∧ maxOffset < p.offset + p.limit) ∧
          ∃ q, ofParams p.next.params {} = .ok q ∧ q.limit = p.limit ∧
            (p.offset < q.offset ↔ p.offset < maxOffset)) := by
  obtain ⟨start, hstart, hordinary, hbound⟩ := exists_ordinary_ofParams params
  refine ⟨start, hstart, hbound, fun p hreached => ?_⟩
  -- Whatever the moves were, the page is ordinary.
  have hp := hordinary.reached hreached
  have hpos := hp.limit_pos
  have hle : p.limit ≤ 100 := hp.limit_le
  have hmax : maxOffset = 100000 := rfl
  constructor
  · obtain ⟨q, hq, hlimit, hbounded, hoffset⟩ := hp.exists_ofParams_params
    refine ⟨q, hq, hlimit, fun heq => heq ▸ hbounded, fun hle => ?_⟩
    rw [hoffset (by omega), min_eq_left hle]
  · intro hin
    constructor
    · intro q hmove hout
      obtain rfl : q = p.next := (hmove.offset_le_or_eq_next hpos hin).resolve_left (by omega)
      exact ⟨rfl, hout⟩
    · -- The next page is ordinary, whether or not it is taken.
      have hnext : p.next.offset = p.offset + p.limit := rfl
      have hordinary : p.next.Ordinary :=
        ⟨⟨hpos, Int.add_nonneg hp.offset_nonneg hpos.le, hp.total_nonneg, hp.maxLimit_pos⟩,
          hp.limit_le, hp.maxLimit_eq⟩
      obtain ⟨q, hq, hlimit, -, hoffset⟩ := hordinary.exists_ofParams_params
      refine ⟨q, hq, hlimit, ?_⟩
      rw [hoffset (by omega), hnext]
      omega

/-- The last page that parameters can ask for, of a result with more rows behind it.  Its offset is
the largest one that comes back. -/
def lastAsked : Page :=
  ⟨100, maxOffset, some 200000, defaultLimitOptions, defaultMaxLimit⟩

/-- The page behind the last one that parameters can ask for is reached and does not come back. -/
theorem lastAsked_params_read_back :
    ∃ start, ofParams lastAsked.params {} = .ok start ∧ Reached start lastAsked ∧
      Reached start lastAsked.next ∧ maxOffset < lastAsked.next.offset ∧
      ∃ q, ofParams lastAsked.next.params {} = .ok q ∧ q.limit = 100 ∧
        q.offset ≠ lastAsked.next.offset ∧ ¬ lastAsked.offset < q.offset := by
  obtain ⟨start, hstart, -, hreached⟩ := params_read_back lastAsked.params
  have hread : ofParams lastAsked.params {} = .ok { lastAsked with total := none } := rfl
  -- The page that is read is the last one, without the total.
  obtain rfl := Except.ok.inj (hread.symm.trans hstart)
  have hlast : Reached { lastAsked with total := none } lastAsked :=
    .single (.withTotal (n := 200000) (by decide))
  have hnext : Reached { lastAsked with total := none } lastAsked.next :=
    hlast.tail (.next (by decide))
  obtain ⟨q, hq, hlimit, hback⟩ := (hreached _ hnext).1
  obtain ⟨-, q', hq', -, hfurther⟩ := (hreached _ hlast).2 (by decide)
  obtain rfl := Except.ok.inj (hq.symm.trans hq')
  exact ⟨_, hread, hlast, hnext, by decide, q, hq, hlimit, fun h => absurd (hback.1 h) (by decide),
    fun h => absurd (hfurther.1 h) (by decide)⟩

end UrlFilter.Page
