import UrlFilter.Calendar.IsoText
import UrlFilter.Proofs.Text.Digit

namespace UrlFilter.Calendar

open UrlFilter.Text

/-!
# Written dates and times

A date comes back from its text, and so does a date with a time of day, except that an offset of
less than a second is read as none at all.

* `Date.read?_text` — a date comes back.
* `readClock?_text` — what is read of hours, minutes, seconds and a fraction.
* `UtcOffset.asRead` — the offset that the text of an offset denotes.
* `DateTime.read?_text` — what the text of a date and time denotes.
-/

/-! ### Fixed numbers of digits -/

/-- A padded number is read as a whole.  What stands behind the digits may start with another
digit. -/
theorem takeDigits?_padded {width n : Nat} (hwidth : 0 < width) (h : n < 10 ^ width)
    (rest : List Char) : takeDigits? width (padded width n ++ rest) = some (n, rest) := by
  have hlen := length_padded hwidth h
  have htake : (padded width n ++ rest).take width = padded width n := List.take_left' hlen
  have hdrop : (padded width n ++ rest).drop width = rest := List.drop_left' hlen
  have hall : (padded width n).all Char.isDigit = true :=
    List.all_eq_true.2 fun c hc => isDigit_of_mem_padded hc
  unfold takeDigits?
  simp only [htake, hdrop, hlen, hall, ofDigitChars_padded, and_self, if_true]

theorem startsWithDigit_padded (width n : Nat) : StartsWithDigit (padded width n) := by
  refine startsWithDigit_of_isDigit ?_ fun c hc => isDigit_of_mem_padded hc
  rw [padded]
  simp [Nat.toDigits_ne_nil]

/-! ### Characters -/

/-- A character of a written date or time.  The letter stands between a date and a time of day. -/
def isIsoChar (c : Char) : Bool :=
  c.isDigit || c == '-' || c == ':' || c == '.' || c == '+' || c == 'T'

/-- All characters of a text are those of written dates and times.  This keeps out blanks, letters
of other scripts and the mark of universal time. -/
def IsoChars (cs : List Char) : Prop :=
  ∀ c ∈ cs, isIsoChar c = true

theorem IsoChars.cons {c : Char} {cs : List Char} (hc : isIsoChar c = true) (h : IsoChars cs) :
    IsoChars (c :: cs) :=
  List.forall_mem_cons.2 ⟨hc, h⟩

theorem IsoChars.append {xs ys : List Char} (hx : IsoChars xs) (hy : IsoChars ys) :
    IsoChars (xs ++ ys) :=
  List.forall_mem_append.2 ⟨hx, hy⟩

theorem isoChars_padded (width n : Nat) : IsoChars (padded width n) := by
  intro c hc
  simp [isIsoChar, isDigit_of_mem_padded hc]

theorem isGraphic_of_isIsoChar {c : Char} (h : isIsoChar c = true) :
    isGraphic c = true ∧ c ≠ 'Z' := by
  simp only [isIsoChar, Bool.or_eq_true, beq_iff_eq] at h
  -- The character is a digit or one of five signs and letters.
  rcases h with ((((h | rfl) | rfl) | rfl) | rfl) | rfl
  · refine ⟨isGraphic_of_isDigit h, ?_⟩
    rintro rfl
    exact absurd h (by decide)
  all_goals decide

theorem IsoChars.graphic {cs : List Char} (h : IsoChars cs) : Graphic cs :=
  fun c hc => (isGraphic_of_isIsoChar (h c hc)).1

/-- Each visible character takes one place.  The reader counts places in octets, which makes no
difference here. -/
theorem octetPlaces_of_graphic {cs : List Char} (h : Graphic cs) : octetPlaces cs = cs := by
  have hplaces : ∀ c ∈ cs, List.replicate (octetsOfChar c).length c = [c] := by
    intro c hc
    have hrange := isGraphic_iff.1 (h c hc)
    have hlen : (octetsOfChar c).length = 1 := by
      unfold octetsOfChar
      dsimp only
      rw [if_pos (by omega)]
      rfl
    rw [hlen]
    rfl
  rw [octetPlaces, List.flatMap_congr hplaces, List.flatMap_singleton']

/-! ### Dates -/

theorem isoChars_dateText (d : Date) : IsoChars d.text :=
  ((isoChars_padded 4 _).append (.cons (by decide) (isoChars_padded 2 _))).append
    (.cons (by decide) (isoChars_padded 2 _))

namespace Date

theorem lt_of_mem (d : Date) : d.year < 10 ^ 4 ∧ d.month < 10 ^ 2 ∧ d.day < 10 ^ 2 := by
  -- No month has more than thirty-one days.
  have hdays : daysInMonth d.year d.month ≤ 31 := by
    unfold daysInMonth
    split
    · split <;> decide
    · split <;> decide
  obtain ⟨-, hyear⟩ := d.year_mem
  obtain ⟨-, hmonth⟩ := d.month_mem
  obtain ⟨-, hday⟩ := d.day_mem
  omega

theorem length_text (d : Date) : d.text.length = 10 := by
  obtain ⟨hyear, hmonth, hday⟩ := d.lt_of_mem
  simp [text, length_padded (show 0 < 4 by decide) hyear,
    length_padded (show 0 < 2 by decide) hmonth, length_padded (show 0 < 2 by decide) hday]

/-- The written form of a date is read as that date.  The year is padded to four digits, so the
places of its parts are fixed. -/
theorem readDate?_text (d : Date) : readDate? d.text = some d := by
  obtain ⟨hyear, hmonth, hday⟩ := d.lt_of_mem
  have hday' := takeDigits?_padded (by decide) hday []
  rw [List.append_nil] at hday'
  unfold readDate? text
  rw [List.append_assoc, List.cons_append, takeDigits?_padded (by decide) hyear]
  simp only [Option.bind_eq_bind, Option.bind_some, List.head?_cons, decide_true, skipDash?,
    if_true]
  -- The month starts with a digit, so that no week is read.
  split
  · next heq => exact absurd heq (((startsWithDigit_padded 2 _).append _).ne_cons (by decide) _)
  · rw [takeDigits?_padded (by decide) hmonth]
    simp only [Option.bind_some, hday', of?_self]

/-- **A date comes back from its text.**  This holds of every date of the calendar. -/
theorem read?_text (d : Date) : read? d.text = some d := by
  have hplaces := octetPlaces_of_graphic (isoChars_dateText d).graphic
  have hlone : readLoneDate? d.text = some d := by
    rw [readLoneDate?, hplaces]
    simp [d.length_text, d.readDate?_text]
  rw [read?, hlone]
  rfl

end Date

/-! ### Times -/

theorem isoChars_fractionText (n : Nat) : IsoChars (fractionText n) := by
  unfold fractionText
  split
  · simp [IsoChars]
  · exact .cons (by decide) (isoChars_padded 6 n)

/-- A number at the end of a time.  Nothing follows, so the time ends here. -/
theorem readClock?_last (next : Char) (count : Nat) (separated : Option Bool) {n : Nat}
    (h : n < 10 ^ 2) :
    readClock? next (count + 1) separated (padded 2 n) = some ⟨[n], 0, next != endMark⟩ := by
  have htake := takeDigits?_padded (by decide) h []
  rw [List.append_nil] at htake
  simp only [readClock?, htake, Option.bind_eq_bind, Option.bind_some]

/-- A number in front of a colon.  Whether colons stand between the numbers must not change on the
way. -/
theorem readClock?_colon (next : Char) (count : Nat) {separated : Option Bool}
    (hsep : separated ≠ some false) {n : Nat} (h : n < 10 ^ 2) {more : List Char}
    (hmore : more ≠ []) :
    readClock? next (count + 1) separated (padded 2 n ++ ':' :: more)
      = (readClock? next count (some true) more).map
          fun r => { r with fields := n :: r.fields } := by
  obtain ⟨c, rest, rfl⟩ := List.exists_cons_of_ne_nil hmore
  have hcolon : separated.getD true = true := by
    cases separated with
    | none => rfl
    | some b => cases b <;> first | rfl | exact absurd rfl hsep
  simp only [readClock?, takeDigits?_padded (by decide) h, Option.bind_eq_bind, Option.bind_some,
    beq_self_eq_true, hcolon, Bool.and_self, if_true]
  cases readClock? next count (some true) (c :: rest) <;> rfl

/-- The seconds and the fraction at the end of a time with colons.  A fraction is written with six
digits or not at all. -/
theorem readClock?_fraction (next : Char) (count : Nat) {n micros : Nat} (h : n < 10 ^ 2)
    (hmicros : micros < 10 ^ 6) :
    readClock? next (count + 1) (some true) (padded 2 n ++ fractionText micros)
      = some ⟨[n], micros, next != endMark⟩ := by
  unfold fractionText
  -- Without microseconds nothing follows the seconds.
  by_cases hzero : micros = 0
  · rw [if_pos hzero, List.append_nil, readClock?_last next count _ h, hzero]
  rw [if_neg hzero]
  have htake := takeDigits?_padded (by decide) hmicros []
  rw [List.append_nil] at htake
  have hlen : (padded 6 micros).length = 6 := length_padded (by decide) hmicros
  obtain ⟨c, rest, hpadded, -⟩ := startsWithDigit_padded 6 micros
  have hread : readFraction? next (padded 6 micros) = some ⟨[], micros, next != endMark⟩ := by
    simp [readFraction?, hlen, htake]
  simp only [readClock?, takeDigits?_padded (by decide) h, Option.bind_eq_bind, Option.bind_some]
  rw [hpadded] at hread ⊢
  simp [hread]

/-- **What is read of hours, minutes, seconds and a fraction.**  The character behind them only
tells whether something follows. -/
theorem readClock?_text (next : Char) {hour minute second micros : Nat} (hhour : hour < 10 ^ 2)
    (hminute : minute < 10 ^ 2) (hsecond : second < 10 ^ 2) (hmicros : micros < 10 ^ 6) :
    readClock? next 3 none (padded 2 hour ++ ':' :: (padded 2 minute ++ ':' ::
        (padded 2 second ++ fractionText micros)))
      = some ⟨[hour, minute, second], micros, next != endMark⟩ := by
  rw [readClock?_colon next 2 (by simp) hhour ((startsWithDigit_padded 2 _).append _).ne_nil,
    readClock?_colon next 1 (by simp) hminute ((startsWithDigit_padded 2 _).append _).ne_nil,
    readClock?_fraction next 0 hsecond hmicros]
  rfl

/-! ### Offsets -/

namespace UtcOffset

/-- The offset that the text of an offset denotes: one of less than a second is none at all.  The
sign of such an offset is lost as well. -/
def asRead (o : UtcOffset) : UtcOffset :=
  if o.microseconds.natAbs < 1000000 then utc else o

/-- The sign in front of the text of an offset.  Zero has a plus sign. -/
def signChar (o : UtcOffset) : Char :=
  if o.microseconds < 0 then '-' else '+'

theorem isSign_signChar (o : UtcOffset) : isSign o.signChar = true := by
  unfold signChar
  split <;> rfl

/-- The numbers in the text of an offset.  An offset is shorter than a day, so its hours have two
digits. -/
theorem lt_of_lt_day (o : UtcOffset) :
    o.microseconds.natAbs / 1000000 / 3600 < 10 ^ 2 ∧
      o.microseconds.natAbs / 1000000 / 60 % 60 < 10 ^ 2 ∧
      o.microseconds.natAbs / 1000000 % 60 < 10 ^ 2 ∧
      o.microseconds.natAbs % 1000000 < 10 ^ 6 := by
  have hday := o.lt_day
  rw [microsecondsPerDay] at hday
  omega

/-- The length that is read of an offset.  An offset without whole seconds counts as zero, whatever
its fraction is. -/
theorem length_asRead (o : UtcOffset) {reading : ClockReading}
    (hseconds : (reading.fields.getD 0 0 * 60 + reading.fields.getD 1 0) * 60
      + reading.fields.getD 2 0 = o.microseconds.natAbs / 1000000)
    (hmicros : reading.microsecond = o.microseconds.natAbs % 1000000) :
    of? (if o.signChar = '-' then -(reading.offset : Int) else reading.offset)
      = some o.asRead := by
  have hoffset : reading.offset
      = if o.microseconds.natAbs < 1000000 then 0 else o.microseconds.natAbs := by
    simp only [ClockReading.offset, hseconds, hmicros]
    split <;> split <;> omega
  rw [hoffset, asRead]
  by_cases hshort : o.microseconds.natAbs < 1000000
  · rw [if_pos hshort, if_pos hshort]
    split <;> rfl
  -- The sign was written according to the length, so it is taken back.
  have hlength : (if o.signChar = '-' then -(o.microseconds.natAbs : Int)
      else o.microseconds.natAbs) = o.microseconds := by
    by_cases hsign : o.microseconds < 0
    · rw [signChar, if_pos hsign, if_pos rfl]
      omega
    · rw [signChar, if_neg hsign, if_neg (by decide)]
      omega
  rw [if_neg hshort, if_neg hshort, hlength, of?_self]

/-- What is read behind the sign of an offset.  Seconds are written only if there are any, or a
fraction. -/
theorem exists_readClock?_text (o : UtcOffset) :
    ∃ rest reading, o.text = o.signChar :: rest ∧
      readClock? endMark 3 none rest = some reading ∧ reading.followed = false ∧
      of? (if o.signChar = '-' then -(reading.offset : Int) else reading.offset)
        = some o.asRead := by
  obtain ⟨hhour, hminute, hsecond, hmicros⟩ := o.lt_of_lt_day
  by_cases hshort : o.microseconds.natAbs / 1000000 % 60 = 0 ∧
      o.microseconds.natAbs % 1000000 = 0
  · -- Neither seconds nor a fraction are written.
    refine ⟨padded 2 (o.microseconds.natAbs / 1000000 / 3600)
        ++ ':' :: padded 2 (o.microseconds.natAbs / 1000000 / 60 % 60),
      ⟨[o.microseconds.natAbs / 1000000 / 3600, o.microseconds.natAbs / 1000000 / 60 % 60], 0,
        false⟩, ?_, ?_, rfl, o.length_asRead ?_ hshort.2.symm⟩
    · simp [text, signChar, hshort, fractionText]
    · rw [readClock?_colon endMark 2 (by simp) hhour (startsWithDigit_padded 2 _).ne_nil,
        readClock?_last endMark 1 _ hminute]
      rfl
    · simp only [List.getD_cons_zero, List.getD_cons_succ, List.getD_nil]
      omega
  · refine ⟨padded 2 (o.microseconds.natAbs / 1000000 / 3600)
        ++ ':' :: (padded 2 (o.microseconds.natAbs / 1000000 / 60 % 60)
          ++ ':' :: (padded 2 (o.microseconds.natAbs / 1000000 % 60)
            ++ fractionText (o.microseconds.natAbs % 1000000))), _, ?_,
      readClock?_text endMark hhour hminute hsecond hmicros, rfl, o.length_asRead ?_ rfl⟩
    · simp [text, signChar, hshort]
    · simp only [List.getD_cons_zero, List.getD_cons_succ]
      omega

theorem isoChars_text (o : UtcOffset) : IsoChars o.text := by
  have hseconds : IsoChars (if o.microseconds.natAbs / 1000000 % 60 = 0 ∧
      o.microseconds.natAbs % 1000000 = 0 then []
      else ':' :: padded 2 (o.microseconds.natAbs / 1000000 % 60)) := by
    split
    · simp [IsoChars]
    · exact .cons (by decide) (isoChars_padded 2 _)
  exact .append (.append (.append (.cons (by split <;> decide) (isoChars_padded 2 _))
    (.cons (by decide) (isoChars_padded 2 _))) hseconds) (isoChars_fractionText _)

end UtcOffset

/-! ### Times of day -/

namespace TimeOfDay

theorem lt_pow (t : TimeOfDay) :
    t.hour < 10 ^ 2 ∧ t.minute < 10 ^ 2 ∧ t.second < 10 ^ 2 ∧ t.microsecond < 10 ^ 6 := by
  have hhour := t.hour_lt
  have hminute := t.minute_lt
  have hsecond := t.second_lt
  have hmicros := t.microsecond_lt
  omega

/-- What is read of a written time of day. -/
theorem readClock?_text (next : Char) (t : TimeOfDay) :
    ∃ reading, readClock? next 3 none t.text = some reading ∧ reading.time? = some t ∧
      reading.followed = (next != endMark) := by
  obtain ⟨hhour, hminute, hsecond, hmicros⟩ := t.lt_pow
  refine ⟨⟨[t.hour, t.minute, t.second], t.microsecond, next != endMark⟩, ?_, t.of?_self, rfl⟩
  rw [← Calendar.readClock?_text next hhour hminute hsecond hmicros]
  simp [text]

/-- No character of a written time of day is a sign.  So a sign in front of an offset can be
found. -/
theorem not_isSign_of_mem_text {t : TimeOfDay} {c : Char} (h : c ∈ t.text) :
    isSign c = false := by
  have hpadded : ∀ width n, c ∈ padded width n → isSign c = false := by
    intro width n hc
    have hdigit := isDigit_of_mem_padded hc
    rw [isSign, Bool.or_eq_false_iff, beq_eq_false_iff_ne, beq_eq_false_iff_ne]
    constructor <;> rintro rfl <;> exact absurd hdigit (by decide)
  -- A fraction is a point and digits.
  have hfraction : c ∈ fractionText t.microsecond → isSign c = false := by
    unfold fractionText
    split
    · intro hc
      exact absurd hc List.not_mem_nil
    · intro hc
      rcases List.mem_cons.1 hc with rfl | hc
      · rfl
      · exact hpadded 6 _ hc
  simp only [text, List.mem_append, List.mem_cons] at h
  rcases h with ((h | rfl | h) | rfl | h) | h
  · exact hpadded 2 _ h
  · rfl
  · exact hpadded 2 _ h
  · rfl
  · exact hpadded 2 _ h
  · exact hfraction h

theorem isoChars_text (t : TimeOfDay) : IsoChars t.text :=
  .append (.append (.append (isoChars_padded 2 _) (.cons (by decide) (isoChars_padded 2 _)))
    (.cons (by decide) (isoChars_padded 2 _))) (isoChars_fractionText _)

end TimeOfDay

/-- The text of an offset that may be known.  No text stands for an offset that is not known. -/
def offsetSuffix (offset : Option UtcOffset) : List Char :=
  match offset with
  | none => []
  | some o => o.text

/-- **What is read of a written time of day and its offset.**  A time of day with no offset is read
without one. -/
theorem readTime?_text (t : TimeOfDay) (offset : Option UtcOffset) :
    readTime? (t.text ++ offsetSuffix offset) = some (t, offset.map UtcOffset.asRead) := by
  have hsigns : ∀ c ∈ t.text, (!isSign c) = true := by
    intro c hc
    rw [TimeOfDay.not_isSign_of_mem_text hc]
    rfl
  cases offset with
  | none =>
    obtain ⟨reading, hread, htime, hfollowed⟩ := t.readClock?_text endMark
    have hend : reading.followed = false := by rw [hfollowed, bne_self_eq_false]
    have htake : t.text.takeWhile (!isSign ·) = t.text := List.takeWhile_eq_self_iff.2 hsigns
    have hdrop : t.text.dropWhile (!isSign ·) = [] := List.dropWhile_eq_nil_iff.2 hsigns
    simp [readTime?, offsetSuffix, htake, hdrop, hread, hend, htime]
  | some o =>
    obtain ⟨rest, distance, htext, hdistance, hend, hoffset⟩ := o.exists_readClock?_text
    obtain ⟨reading, hread, htime, -⟩ := t.readClock?_text o.signChar
    have hsign := o.isSign_signChar
    -- The time ends at the first sign, which is that of the offset.
    have htake : (t.text ++ o.text).takeWhile (!isSign ·) = t.text := by
      rw [List.takeWhile_append_of_pos hsigns, htext, List.takeWhile_cons_of_neg (by simp [hsign]),
        List.append_nil]
    have hdrop : (t.text ++ o.text).dropWhile (!isSign ·) = o.text := by
      rw [List.dropWhile_append_of_pos hsigns, htext, List.dropWhile_cons_of_neg (by simp [hsign])]
    unfold readTime?
    rw [offsetSuffix, htake, hdrop, htext]
    simp only [hread, hdistance, hend, htime, hoffset, Option.bind_eq_bind, Option.bind_some,
      Bool.false_eq_true, if_false, Option.pure_def, Option.map_some]

/-! ### Dates with a time of day -/

namespace DateTime

theorem text_eq (t : DateTime) :
    t.text = t.date.text ++ 'T' :: (t.time.text ++ offsetSuffix t.offset) := by
  rw [text, textWith, List.append_assoc, List.cons_append]
  rfl

theorem isoChars_text (t : DateTime) : IsoChars t.text := by
  rw [text_eq]
  refine (isoChars_dateText _).append (.cons (by decide) (t.time.isoChars_text.append ?_))
  cases t.offset with
  | none => simp [offsetSuffix, IsoChars]
  | some o => exact o.isoChars_text

/-- The date of a written date and time has ten characters.  Neither a week nor a day of the year is
found in its place. -/
theorem dateEnd?_text (t : DateTime) : dateEnd? t.text = some 10 := by
  obtain ⟨hyear, -, -⟩ := t.date.lt_of_mem
  have hlen : t.text.length ≠ 7 := by
    rw [text_eq, List.length_append, t.date.length_text]
    omega
  obtain ⟨c, rest, hmonth, hdigit⟩ := startsWithDigit_padded 2 t.date.month
  have hyearLen : (padded 4 t.date.year).length = 4 := length_padded (by decide) hyear
  -- The fifth character is a hyphen and the sixth one starts the month.
  have hfour : t.text[4]? = some '-' ∧ t.text[5]? = some c := by
    rw [text_eq, Date.text, hmonth]
    simp only [List.append_assoc, List.cons_append]
    constructor <;> simp [List.getElem?_append_right, hyearLen]
  have hweek : ¬ some c = some 'W' := by
    rintro heq
    rw [Option.some.inj heq] at hdigit
    exact absurd hdigit (by decide)
  rw [dateEnd?, if_neg hlen, if_pos hfour.1, hfour.2, if_neg hweek]

/-- **What the text of a date and time denotes:** itself, but that an offset of less than a second
is read as none at all. -/
theorem read?_text (t : DateTime) :
    read? t.text = some { t with offset := t.offset.map UtcOffset.asRead } := by
  have hplain : (t.text.flatMap fun c => if c = 'Z' then "+00:00".toList else [c]) = t.text := by
    have hone : ∀ c ∈ t.text, (if c = 'Z' then "+00:00".toList else [c]) = [c] :=
      fun c hc => if_neg (isGraphic_of_isIsoChar (t.isoChars_text c hc)).2
    rw [List.flatMap_congr hone, List.flatMap_singleton']
  have hplaces := octetPlaces_of_graphic t.isoChars_text.graphic
  have htake : t.text.take 10 = t.date.text := by
    rw [text_eq]
    exact List.take_left' t.date.length_text
  have hdrop : t.text.drop 10 = 'T' :: (t.time.text ++ offsetSuffix t.offset) := by
    rw [text_eq]
    exact List.drop_left' t.date.length_text
  have hoctet : (octetsOfChar 'T').length - 1 = 0 := rfl
  rw [read?, hplain, readDateTime?, hplaces]
  simp only [dateEnd?_text, htake, hdrop, t.date.readDate?_text, hoctet, List.drop_zero,
    readTime?_text, Option.bind_eq_bind, Option.bind_some]

/-- Every moment is equal to itself.  An offset that is not known is not compared. -/
theorem compare?_self (t : DateTime) : t.compare? t = some .eq := by
  obtain ⟨date, time, offset⟩ := t
  cases offset <;> simp [compare?]

/-- Moments of one local time at different offsets are different.  They are compared in universal
time. -/
theorem compare?_ne_of_offset (d : Date) (time : TimeOfDay) {o p : UtcOffset}
    (h : o.microseconds ≠ p.microseconds) :
    compare? ⟨d, time, some o⟩ ⟨d, time, some p⟩ ≠ some .eq := by
  have hlocal : (⟨d, time, some o⟩ : DateTime).localTime
      = (⟨d, time, some p⟩ : DateTime).localTime := rfl
  intro heq
  simp only [compare?, Option.some.injEq, hlocal] at heq
  have hequal := Std.LawfulEqCmp.compare_eq_iff_eq.1 heq
  omega

/-- The offset is none at all, or at least a second.  An offset that is not known counts as well. -/
def OffsetInSeconds (t : DateTime) : Prop :=
  ∀ o, t.offset = some o → o.microseconds = 0 ∨ 1000000 ≤ o.microseconds.natAbs

/-- Such an offset is read as it is.  These are the moments that come back from their text. -/
theorem OffsetInSeconds.map_asRead {t : DateTime} (h : t.OffsetInSeconds) :
    t.offset.map UtcOffset.asRead = t.offset := by
  cases hoffset : t.offset with
  | none => rfl
  | some o =>
    rw [Option.map_some, UtcOffset.asRead]
    split
    · next hlt =>
      obtain ⟨microseconds, hday⟩ := o
      obtain rfl : microseconds = 0 := (h _ hoffset).resolve_right (Nat.not_le.2 hlt)
      rfl
    · rfl

end DateTime

end UrlFilter.Calendar
