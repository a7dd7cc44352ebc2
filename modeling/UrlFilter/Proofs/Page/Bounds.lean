import UrlFilter.Proofs.Fallible
import UrlFilter.Proofs.Page

namespace UrlFilter.Page

open UrlFilter.Settings

/-!
# Bounds of pages

Settings describe valid pages only, but nothing checks a page that is made of another one.  Its
limit and its offset stay within their bounds all the same, whatever is done and with whatever
numbers; its total is the last one that was given, even below zero.

* `Page.exists_ofSettings_iff` — settings describe exactly the valid pages.
* `Page.Change`, `Page.after` — what can be done to a page, with any number, and what it leads to.
* `Page.Bounded.after` — the bounds that every change keeps.
* `Page.total_after` — the total after changes.
* `Page.bounds_after` — when the page after changes is valid.
-/

/-! ### Pages of settings -/

/-- What is applied to checked values is the value of all of them.  Errors of the parts are
collected, so one wrong part is enough to have no result. -/
theorem app_eq_ok_iff {α β : Type} {f : Checked (α → β)} {x : Checked α} {b : β} :
    f.app x = .ok b ↔ ∃ g a, f = .ok g ∧ x = .ok a ∧ g a = b := by
  cases f <;> cases x <;> simp [Checked.app]

/-- The parts of a page are all checked.  Each is the one that the page has. -/
theorem ofParts_eq_ok_iff {limit offset maxLimit : Checked Int} {total : Checked (Option Int)}
    {limitOptions : Checked (List Int)} {p : Page} :
    ofParts limit offset total limitOptions maxLimit = .ok p ↔
      limit = .ok p.limit ∧ offset = .ok p.offset ∧ total = .ok p.total ∧
        limitOptions = .ok p.limitOptions ∧ maxLimit = .ok p.maxLimit := by
  -- Putting the errors in another form changes no result.
  have hmap : ∀ c : Checked Page, c.mapError Error.settings = .ok p ↔ c = .ok p := by
    intro c
    cases c <;> simp [Except.mapError]
  simp only [ofParts, hmap, app_eq_ok_iff, Except.ok.injEq]
  constructor
  · rintro ⟨_, _, ⟨_, _, ⟨_, _, ⟨_, _, ⟨_, _, rfl, hlimit, rfl⟩, hoffset, rfl⟩, htotal, rfl⟩,
      hoptions, rfl⟩, hmax, rfl⟩
    exact ⟨hlimit, hoffset, htotal, hoptions, hmax⟩
  · rintro ⟨hlimit, hoffset, htotal, hoptions, hmax⟩
    exact ⟨_, _, ⟨_, _, ⟨_, _, ⟨_, _, ⟨_, _, rfl, hlimit, rfl⟩, hoffset, rfl⟩, htotal, rfl⟩,
      hoptions, rfl⟩, hmax, rfl⟩

/-- A setting is read from its value, or not given.  In the latter case it is the one to start
with. -/
theorem eq_or_exists_of_optional {α : Type} {settings : Params} {name : String} {read : Reader α}
    {start a : α} (h : Settings.optional settings name read start = .ok a) :
    a = start ∨ ∃ v, read v = .ok a := by
  unfold Settings.optional at h
  split at h
  · next v _ =>
    unfold located at h
    cases hread : read v with
    | error e => simp [hread, Except.mapError] at h
    | ok b =>
      rw [hread] at h
      obtain rfl : b = a := Except.ok.inj h
      exact .inr ⟨v, hread⟩
  · exact .inl (Except.ok.inj h).symm

theorem lt_of_readAbove {bound n : Int} {v : Value} (h : readAbove bound v = .ok n) :
    bound < n := by
  obtain ⟨m, -, h⟩ := exists_of_bind_eq_ok h
  split at h
  · next hlt => rwa [Except.ok.inj h] at hlt
  · simp at h

theorem nonneg_of_readNonnegative {n : Int} {v : Value} (h : readNonnegative v = .ok n) :
    0 ≤ n := by
  obtain ⟨m, -, h⟩ := exists_of_bind_eq_ok h
  rw [← Except.ok.inj h]
  exact Int.natCast_nonneg m

theorem nonneg_of_readOption {n : Int} {total : Option Int} {v : Value}
    (h : readOption readNonnegative v = .ok total) (hn : n ∈ total) : 0 ≤ n := by
  unfold readOption at h
  split at h
  · obtain rfl := Except.ok.inj h
    simp at hn
  · cases hread : readNonnegative v with
    | error e => simp [hread, Except.map] at h
    | ok m =>
      rw [hread] at h
      obtain rfl := Except.ok.inj h
      obtain rfl := Option.some.inj hn
      exact nonneg_of_readNonnegative hread

/-- Settings describe valid pages only.  What is not given starts with a valid number. -/
theorem valid_of_ofSettings {settings : Params} {p : Page} (h : ofSettings settings = .ok p) :
    p.Valid := by
  obtain ⟨hlimit, hoffset, htotal, -, hmax⟩ := ofParts_eq_ok_iff.1 h
  -- A number is read above its bound, or it is the start value, which is.
  have habove : ∀ {name : String} {start n : Int},
      Settings.optional settings name (readAbove 0) start = .ok n → 0 < start → 0 < n := by
    intro name start n h hstart
    rcases eq_or_exists_of_optional h with rfl | ⟨v, hread⟩
    · exact hstart
    · exact lt_of_readAbove hread
  refine ⟨habove hlimit (by decide), ?_, fun n hn => ?_, habove hmax (by decide)⟩
  · rcases eq_or_exists_of_optional hoffset with hstart | ⟨v, hread⟩
    · exact hstart.ge
    · exact nonneg_of_readNonnegative hread
  · rcases eq_or_exists_of_optional htotal with hstart | ⟨v, hread⟩
    · simp [hstart] at hn
    · exact nonneg_of_readOption hread hn

/-- The settings that describe a page.  All five are given, so nothing is left to start values. -/
def toSettings (p : Page) : Params :=
  .ofList [("limit", .int p.limit), ("offset", .int p.offset),
    ("total_count", (p.total.map Value.int).getD .null),
    ("limit_options", .list (p.limitOptions.map .int)), ("max_limit", .int p.maxLimit)]

theorem traverse_readInt (numbers : List Int) (n : Nat) (name : String) :
    Checked.traverse (fun n item => located [.name name, .place n] (readInt item)) n
      (numbers.map Value.int) = .ok numbers := by
  induction numbers generalizing n with
  | nil => rfl
  | cons number numbers ih =>
    rw [List.map_cons, Checked.traverse, ih]
    rfl

/-- A valid page is described by settings.  So no valid page is out of reach. -/
theorem Valid.ofSettings_toSettings {p : Page} (h : p.Valid) : ofSettings p.toSettings = .ok p := by
  have hentries : p.toSettings.entries = [("limit", .int p.limit), ("offset", .int p.offset),
      ("total_count", (p.total.map Value.int).getD .null),
      ("limit_options", .list (p.limitOptions.map .int)), ("max_limit", .int p.maxLimit)] := rfl
  -- Each of the five settings reads back by itself.
  refine ofParts_eq_ok_iff.2 ⟨?_, ?_, ?_, ?_, ?_⟩ <;>
    simp only [Settings.optional, optionalList, Params.get?, hentries, Params.lookup_cons,
      String.reduceEq, if_true, if_false]
  · rw [readAbove_int h.limit_pos]
    rfl
  · rw [readNonnegative_int h.offset_nonneg]
    rfl
  · cases htotal : p.total with
    | none => rfl
    | some n =>
      have hread : readOption readNonnegative (.int n) = (readNonnegative (.int n)).map some := rfl
      rw [Option.map_some, Option.getD_some, hread, readNonnegative_int (h.total_nonneg n htotal)]
      rfl
  · exact traverse_readInt p.limitOptions 0 "limit_options"
  · rw [readAbove_int h.maxLimit_pos]
    rfl

/-- **Settings describe exactly the valid pages.**  The options for the limit may be any list of
numbers. -/
theorem exists_ofSettings_iff {p : Page} : (∃ settings, ofSettings settings = .ok p) ↔ p.Valid :=
  ⟨fun ⟨_, h⟩ => valid_of_ofSettings h, fun h => ⟨_, h.ofSettings_toSettings⟩⟩

/-! ### Changes -/

/-- What can be done to a page, with any number.  The numbers come from outside and are not checked
before. -/
inductive Change where
  | withTotal (n : Int)
  | previous
  | next
  | jump (page : Int)
  | resize (limit : Int)
  | first

namespace Change

/-- The page that a change leads to, unless it fails.  Only a jump and a new limit can fail. -/
def result? (p : Page) : Change → Except Error Page
  | withTotal n => .ok (p.withTotal (some n))
  | previous => .ok p.previous
  | next => .ok p.next
  | jump page => p.jump page
  | resize limit => p.resize limit
  | first => .ok p.first

/-- The total that a change gives. -/
def total? : Change → Option Int
  | withTotal n => some n
  | _ => none

end Change

/-- The page after a change; one that fails leaves it as it is.  Whoever gets an error still has the
page. -/
def change (p : Page) (c : Change) : Page :=
  (c.result? p).toOption.getD p

/-- The page after changes. -/
def after (p : Page) (changes : List Change) : Page :=
  changes.foldl change p

theorem change_of_ok {p q : Page} {c : Change} (h : c.result? p = .ok q) : p.change c = q := by
  rw [change, h]
  rfl

theorem change_of_error {p : Page} {c : Change} {e : Error} (h : c.result? p = .error e) :
    p.change c = p := by
  rw [change, h]
  rfl

/-- **What a change can do:** give a total, set the offset, or set the limit and go to the first
page.  One that fails sets the offset that the page has.  The largest limit and the options never
change. -/
theorem change_cases (p : Page) (c : Change) :
    (∃ n, c.total? = some n ∧ p.change c = { p with total := some n }) ∨
      (∃ offset, (0 < p.limit → 0 ≤ p.offset → 0 ≤ offset) ∧ c.total? = none ∧
        p.change c = { p with offset }) ∨
      ∃ limit, 1 ≤ limit ∧ c.total? = none ∧
        p.change c = { p with limit := min limit p.maxLimit, offset := 0 } := by
  cases c with
  | withTotal n => exact .inl ⟨n, rfl, rfl⟩
  | previous => exact .inr (.inl ⟨_, fun _ _ => le_max_left _ _, rfl, rfl⟩)
  | next =>
    exact .inr (.inl ⟨_, fun hlimit hoffset => Int.add_nonneg hoffset hlimit.le, rfl, rfl⟩)
  | jump page =>
    cases h : p.jump page with
    | error e => exact .inr (.inl ⟨p.offset, fun _ hoffset => hoffset, rfl, change_of_error h⟩)
    | ok q =>
      obtain ⟨hpage, rfl⟩ := jump_eq_ok_iff.1 h
      exact .inr (.inl ⟨_, fun hlimit _ => (jumpOffset_mem hlimit hpage).1, rfl, change_of_ok h⟩)
  | resize limit =>
    cases h : p.resize limit with
    | error e => exact .inr (.inl ⟨p.offset, fun _ hoffset => hoffset, rfl, change_of_error h⟩)
    | ok q =>
      obtain ⟨hlimit, rfl⟩ := resize_eq_ok_iff.1 h
      exact .inr (.inr ⟨limit, hlimit, rfl, change_of_ok h⟩)
  | first => exact .inr (.inl ⟨0, fun _ _ => le_rfl, rfl, rfl⟩)

/-! ### Bounds -/

/-- The bounds that every change keeps.  A valid page need not have them, since its limit may be
above the largest one. -/
structure Bounded (p : Page) : Prop where
  limit_pos : 0 < p.limit
  limit_le : p.limit ≤ p.maxLimit
  offset_nonneg : 0 ≤ p.offset

/-- A change keeps the bounds.  A new limit is brought within the largest one. -/
theorem Bounded.change {p : Page} (h : p.Bounded) (c : Change) : (p.change c).Bounded := by
  obtain ⟨hpos, hle, hoffset⟩ := h
  -- A change gives a total, sets the offset, or sets the limit.
  rcases p.change_cases c with ⟨n, -, heq⟩ | ⟨offset, hnonneg, -, heq⟩ | ⟨limit, hlimit, -, heq⟩ <;>
    rw [heq]
  · exact ⟨hpos, hle, hoffset⟩
  · exact ⟨hpos, hle, hnonneg hpos hoffset⟩
  · exact ⟨lt_min (by omega) (by omega), min_le_right _ _, le_rfl⟩

/-- **Changes keep the bounds.**  Nothing is assumed of the numbers in the changes. -/
theorem Bounded.after {p : Page} (h : p.Bounded) (changes : List Change) :
    (p.after changes).Bounded := by
  -- One change after another keeps them.
  induction changes generalizing p with
  | nil => exact h
  | cons c changes ih => exact ih (h.change c)

theorem total_change (p : Page) (c : Change) : (p.change c).total = c.total?.or p.total := by
  rcases p.change_cases c with ⟨n, htotal, heq⟩ | ⟨_, -, htotal, heq⟩ | ⟨_, -, htotal, heq⟩ <;>
    rw [heq, htotal] <;> rfl

/-- **The total after changes** is the last one that was given, or else that of the page.  Nothing
else gives a page another total. -/
theorem total_after (p : Page) (changes : List Change) :
    (p.after changes).total = (changes.filterMap Change.total?).getLast?.or p.total :=
  foldl_eq_getLast? Page.total total_change changes p

theorem maxLimit_change (p : Page) (c : Change) : (p.change c).maxLimit = p.maxLimit := by
  rcases p.change_cases c with ⟨_, -, heq⟩ | ⟨_, -, -, heq⟩ | ⟨_, -, -, heq⟩ <;> rw [heq]

theorem maxLimit_after (p : Page) (changes : List Change) :
    (p.after changes).maxLimit = p.maxLimit := by
  induction changes generalizing p with
  | nil => rfl
  | cons c changes ih => exact (ih (p.change c)).trans (p.maxLimit_change c)

/-- The number of a page is that of the whole pages before it, and one.  Its first page is page
one. -/
theorem number_eq {p : Page} (h : 0 < p.limit) : p.number = p.offset / p.limit + 1 := by
  rw [number, Int.fdiv_eq_ediv_of_nonneg p.offset h.le]

/-- A page begins at or before its offset and ends behind it.  So the offset lies on the page of
that number. -/
theorem offset_mem_number {p : Page} (h : 0 < p.limit) :
    (p.number - 1) * p.limit ≤ p.offset ∧ p.offset < p.number * p.limit := by
  rw [number_eq h, Int.add_sub_cancel]
  exact ⟨Int.ediv_mul_le p.offset h.ne', Int.lt_ediv_add_one_mul_self p.offset h⟩

/-- **What holds of a page whatever was done to it.**  A page that is made of a valid one by
changes, with whatever numbers, has a limit above zero and within the largest one and an offset that
is not negative, and its number tells where the offset lies.  Its total is the last one that was
given, or else that of the page at the start; so the page is valid exactly if that is not
negative. -/
theorem bounds_after {p : Page} (hp : p.Valid) (hle : p.limit ≤ p.maxLimit)
    (changes : List Change) :
    0 < (p.after changes).limit ∧ 0 ≤ (p.after changes).offset ∧
      (p.after changes).limit ≤ (p.after changes).maxLimit ∧
      (p.after changes).maxLimit = p.maxLimit ∧
      ((p.after changes).number - 1) * (p.after changes).limit ≤ (p.after changes).offset ∧
      (p.after changes).offset < (p.after changes).number * (p.after changes).limit ∧
      (p.after changes).total = (changes.filterMap Change.total?).getLast?.or p.total ∧
      ((p.after changes).Valid ↔ ∀ n ∈ (changes.filterMap Change.total?).getLast?, 0 ≤ n) := by
  have hbounded : p.Bounded := ⟨hp.limit_pos, hle, hp.offset_nonneg⟩
  obtain ⟨hpos, hlimit, hoffset⟩ := hbounded.after changes
  have htotal := p.total_after changes
  have hmax := p.maxLimit_after changes
  obtain ⟨hbegin, hend⟩ := offset_mem_number hpos
  refine ⟨hpos, hoffset, hlimit, hmax, hbegin, hend, htotal, fun h n hn => ?_, fun h => ?_⟩
  · exact h.total_nonneg n (by rw [htotal, Option.mem_def.1 hn]; rfl)
  · refine ⟨hpos, hoffset, fun n hn => ?_, hmax ▸ hp.maxLimit_pos⟩
    rw [htotal] at hn
    -- Without a new total the old one stands, which was valid.
    cases hlast : (changes.filterMap Change.total?).getLast? with
    | none =>
      rw [hlast] at hn
      exact hp.total_nonneg n hn
    | some m =>
      rw [hlast] at hn
      obtain rfl : m = n := Option.some.inj hn
      exact h m hlast

/-- The first page of ten rows of a result of fifteen.  It is made of settings below. -/
def tenOfFifteen : Page :=
  ⟨10, 0, some 15, defaultLimitOptions, defaultMaxLimit⟩

/-- After a jump behind the end, a jump that fails and a move back, the page is still valid; after a
total below zero it is not, though its other bounds hold. -/
theorem tenOfFifteen_bounds_after :
    (tenOfFifteen.after [.jump 9, .jump 0, .next, .previous]).offset = 14 ∧
      (tenOfFifteen.after [.jump 9, .jump 0, .next, .previous]).Valid ∧
      (tenOfFifteen.after [.withTotal (-1), .jump 3]).total = some (-1) ∧
      ¬ (tenOfFifteen.after [.withTotal (-1), .jump 3]).Valid := by
  have hread : ofSettings (.ofList [("limit", .int 10), ("total_count", .text "15")])
      = .ok tenOfFifteen := rfl
  have hvalid := valid_of_ofSettings hread
  have hle : tenOfFifteen.limit ≤ tenOfFifteen.maxLimit := by decide
  obtain ⟨-, -, -, -, -, -, -, hkept⟩ :=
    bounds_after hvalid hle [.jump 9, .jump 0, .next, .previous]
  obtain ⟨-, -, -, -, -, -, htotal, hlost⟩ := bounds_after hvalid hle [.withTotal (-1), .jump 3]
  exact ⟨by decide, hkept.2 (by decide), htotal, fun h => absurd (hlost.1 h (-1) rfl) (by decide)⟩

end UrlFilter.Page
