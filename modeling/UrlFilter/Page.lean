import UrlFilter.Error
import UrlFilter.Number.Binary
import UrlFilter.Settings.Reader

namespace UrlFilter

open UrlFilter.Text UrlFilter.Number UrlFilter.Settings

/-!
# Pages

* `Page` — which rows of a result are shown: how many, and behind how many others.
* `Page.ofParams` — the page that parameters ask for.
* `Page.Valid` — what holds of every page that is read from settings or parameters.
* `Page.next`, `Page.previous`, `Page.jump`, `Page.resize` — moving between pages.
* `Page.totalPages` — the number of pages, by a division in floating point.
-/

/-- Which rows of a result are shown.  The integers are unbounded, as settings may give any. -/
structure Page where
  limit : Int
  offset : Int
  total : Option Int
  limitOptions : List Int
  maxLimit : Int
  deriving DecidableEq, Repr

namespace Page

/-- The largest offset that a jump leads to.  Parameters do not ask for a larger one either, unless
the defaults say otherwise. -/
def maxOffset : Int := 100000

/-- The limit where none is asked for.  A form shows this many rows at first. -/
def defaultLimit : Int := 25

/-- The largest limit where none is set.  A larger limit in the parameters is cut down to it. -/
def defaultMaxLimit : Int := 100

/-- The limits that a form offers. -/
def defaultLimitOptions : List Int := [10, 25, 50, 100]

/-- A page has rows, and no bound is negative.  The total is known to be a number of rows, if it is
known at all. -/
structure Valid (p : Page) : Prop where
  limit_pos : 0 < p.limit
  offset_nonneg : 0 ≤ p.offset
  total_nonneg : ∀ n ∈ p.total, 0 ≤ n
  maxLimit_pos : 0 < p.maxLimit

/-! ### Settings -/

/-- Reads an integer that is not negative.  Zero is allowed, and a fraction is not. -/
def readNonnegative : Reader Int := fun v => do
  return (← readNat v : Nat)

/-- The page of checked parts.  All issues are collected, and not only the first. -/
def ofParts (limit offset : Checked Int) (total : Checked (Option Int))
    (limitOptions : Checked (List Int)) (maxLimit : Checked Int) : Except Error Page :=
  let start : Checked _ := .ok Page.mk
  let page := start.app limit |>.app offset |>.app total |>.app limitOptions |>.app maxLimit
  page.mapError .settings

/-- The page that settings describe.  Names that are not known are ignored. -/
def ofSettings (settings : Params) : Except Error Page :=
  ofParts
    (optional settings "limit" (readAbove 0) defaultLimit)
    (optional settings "offset" readNonnegative 0)
    (optional settings "total_count" (readOption readNonnegative) none)
    (optionalList settings "limit_options" readInt defaultLimitOptions)
    (optional settings "max_limit" (readAbove 0) defaultMaxLimit)

/-! ### Parameters -/

/-- What holds where parameters ask for nothing, and what they may ask for at most.  They are not
checked by themselves: bad defaults show as issues of the page that is read with them. -/
structure Defaults where
  limit : Int := defaultLimit
  maxLimit : Int := defaultMaxLimit
  limitOptions : List Value := defaultLimitOptions.map .int
  maxOffset : Int := Page.maxOffset

/-- The integer that a parameter asks for; of a list its last item.  Blanks around it are ignored,
and a text that is no integer asks for nothing. -/
def intParameter? (v : Option Value) : Option Int := do
  let last ← match v with
    | some v => match v.sequence? with
      | some items => items.getLast?
      | none => some v
    | none => none
  if last.isNull then none else Integer.read? (trim last.shown.toList)

/-- The limit asked for, or else the default one.  A limit below one asks for nothing, too. -/
def limitFrom (params : Params) (d : Defaults) : Int :=
  match intParameter? (params.get? "limit") with
  | some n => if n < 1 then d.limit else n
  | none => d.limit

/-- The offset asked for, or else none.  A negative offset counts as none. -/
def offsetFrom (params : Params) : Int :=
  match intParameter? (params.get? "offset") with
  | some n => if n < 0 then 0 else n
  | none => 0

/-- The page that parameters ask for.  What a user asks for is brought within the bounds first, so
that it gives no issue. -/
def ofParams (params : Params) (d : Defaults) : Except Error Page :=
  ofParts
    (located [.name "limit"] (readAbove 0 (.int (min (limitFrom params d) d.maxLimit))))
    (located [.name "offset"] (readNonnegative (.int (min (offsetFrom params) d.maxOffset))))
    (.ok none)
    (listOf readInt "limit_options" (.list d.limitOptions))
    (located [.name "max_limit"] (readAbove 0 (.int d.maxLimit)))

/-- The parameters that ask for no page.  These are the parameters that filters are read from. -/
def otherParams (params : Params) : Params :=
  params.filterKeys fun key => key != "limit" && key != "offset"

/-- The parameters that ask for a page.  The total and the limits on offer are not written.  The two
integers are taken to have few enough digits to be written. -/
def toParams (p : Page) : List (String × String) :=
  [("limit", String.ofList (Integer.text p.limit)),
    ("offset", String.ofList (Integer.text p.offset))]

/-! ### Position -/

/-- The number of the page, counted from one.  A page that does not start at a multiple of its limit
has the number of the page that holds its first row. -/
def number (p : Page) : Int :=
  Int.fdiv p.offset p.limit + 1

/-- The number of pages: the quotient of total and limit in floating point, rounded up.  The
quotient is rounded to the nearest binary number before it is rounded up, so that large totals can
lose a page. -/
def totalPages (p : Page) : Except Error (Option Int) :=
  match p.total with
  | none => .ok none
  | some n =>
    match (Binary.ofRatio (n < 0) n.natAbs p.limit.natAbs).ceil? with
    | some pages => .ok (some pages)
    | none => .error .tooLarge

/-- There is a page before this one.  There is one as soon as a row lies before the page. -/
def hasPrevious (p : Page) : Bool :=
  0 < p.offset

/-- There is a page behind this one, as far as the total is known.  Without a total no page is known
to follow. -/
def hasNext (p : Page) : Bool :=
  p.total.any fun n => p.offset + p.limit < n

/-- The number of the first row, counted from one.  It is told even if the page has no rows. -/
def firstRow (p : Page) : Int :=
  p.offset + 1

/-- The number of the last row.  With a known total it is not beyond the last row of all. -/
def lastRow (p : Page) : Int :=
  match p.total with
  | none => p.offset + p.limit
  | some n => min (p.offset + p.limit) n

/-! ### Moving -/

/-- The page with a total.  The total is taken as it is given, and may be negative. -/
def withTotal (p : Page) (n : Option Int) : Page :=
  { p with total := n }

/-- The page before, or else the first.  It has the same limit, and starts at the first row where
less than a whole page lies before. -/
def previous (p : Page) : Page :=
  { p with offset := max 0 (p.offset - p.limit) }

/-- The page behind, whether or not it has rows.  Unlike a jump, this step is bounded neither by the
total nor by the largest offset. -/
def next (p : Page) : Page :=
  { p with offset := p.offset + p.limit }

/-- The offset of a page, but no larger than the largest and within the rows as far as their total
is known.  The last row is always within reach. -/
def jumpOffset (p : Page) (page : Int) : Int :=
  let offset := min ((page - 1) * p.limit) maxOffset
  match p.total with
  | none => offset
  | some n => min offset (max 0 (n - 1))

/-- The page of a number.  There is an error for a number below one, and for no other. -/
def jump (p : Page) (page : Int) : Except Error Page :=
  if page < 1 then .error (.pageBelowOne page) else .ok { p with offset := p.jumpOffset page }

/-- The first page with a new limit, which is no larger than the largest.  There is an error for a
limit below one. -/
def resize (p : Page) (limit : Int) : Except Error Page :=
  if limit < 1 then .error (.limitBelowOne limit)
  else .ok { p with limit := min limit p.maxLimit, offset := 0 }

/-- The first page.  The limit and the total stay as they are. -/
def first (p : Page) : Page :=
  { p with offset := 0 }

end Page

end UrlFilter
