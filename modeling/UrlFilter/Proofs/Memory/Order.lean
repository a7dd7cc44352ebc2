import UrlFilter.Memory.Evaluate
import UrlFilter.Proofs.Number.Numeral
import UrlFilter.Proofs.Value.Order

namespace UrlFilter

open UrlFilter.Text UrlFilter.Number

/-!
# Comparisons in memory

An operand whose kind has no order to that of the value is cast before the two are compared.  The
operators of order do this, but the one of equality does not.

* `Memory.ComparedAs` — what an operand is compared as.
* `Memory.ends_of_isSingle` — how a comparison of a single value ends.
* `Memory.comparisons_agree` — when the six operators of comparison agree with one another.
* `Memory.order_of_urlValue` — which errors the operators of order end with.
-/

namespace Target

variable {target : Target} {v w : Value}

/-- The cast of a single value is that of a lone one.  Only lists, tuples, ranges and the absent
value are cast otherwise. -/
theorem cast_of_isSingle (hv : v.isSingle = true) : target.cast v = target.castLone v := by
  cases v <;> first | rfl | exact absurd hv Bool.false_ne_true

/-- If the cast of a single value fails, the error is the value.  So the error names what was asked
for, not a part of it. -/
theorem eq_of_cast_error {rejected : Value} (hv : v.isSingle = true)
    (h : target.cast v = .error rejected) : rejected = v := by
  rw [cast_of_isSingle hv, castLone] at h
  split at h
  · exact absurd h (by simp)
  · exact (Except.error.inj h).symm

theorem castAtom?_of_cast (hv : v.isSingle = true) (h : target.cast v = .ok w) :
    target.castAtom? v = some w := by
  rw [cast_of_isSingle hv, castLone] at h
  -- The cast of a lone value is that of an atom, with an error in place of nothing.
  split at h
  · next x hx => rw [hx, Except.ok.inj h]
  · exact absurd h (by simp)

/-- The cast of a text to an integer reads the text.  A text can always be written, so that there is
always something to read. -/
theorem castAtom?_int_text (s : String) :
    int.castAtom? (.text s) = (Integer.read? (trim s.toList)).map .int := by
  simp only [castAtom?, toInt?, trimmedText?_text, Option.bind_some]

/-- The cast of a text to a decimal number reads the text. -/
theorem castAtom?_decimal_text (s : String) :
    decimal.castAtom? (.text s) = (Decimal.read? (trim s.toList)).map .decimal := by
  simp only [castAtom?, trimmedText?_text, Option.bind_some]

/-- The cast of a text gives a single value that can be written, and a decimal number by a cast to
one only.  Integers are the only kind with a limit on what can be written. -/
theorem of_castAtom?_text {s : String} (h : target.castAtom? (.text s) = some w) :
    w.isSingle = true ∧ w.isWritable = true ∧ (w.isDecimal = true → target = decimal) := by
  cases target with
  | int =>
    -- The limit that reading has is the one that writing has.
    rw [castAtom?_int_text] at h
    obtain ⟨n, hread, rfl⟩ := Option.map_eq_some_iff.1 h
    have hwritable : Integer.isWritable n = true := Integer.isWritable_of_read? hread
    exact ⟨rfl, hwritable, fun hdecimal => absurd hdecimal Bool.false_ne_true⟩
  | decimal =>
    rw [castAtom?_decimal_text] at h
    obtain ⟨x, -, rfl⟩ := Option.map_eq_some_iff.1 h
    exact ⟨rfl, rfl, fun _ => rfl⟩
  | text =>
    obtain rfl := Option.some.inj h
    exact ⟨rfl, rfl, fun hdecimal => absurd hdecimal Bool.false_ne_true⟩
  | unknown name =>
    obtain rfl := Option.some.inj h
    exact ⟨rfl, rfl, fun hdecimal => absurd hdecimal Bool.false_ne_true⟩
  | _ =>
    simp only [castAtom?, toBool?, toDate?, toDateTime?, toUuid?, Option.map_eq_some_iff] at h
    obtain ⟨x, -, rfl⟩ := h
    exact ⟨rfl, rfl, fun hdecimal => absurd hdecimal Bool.false_ne_true⟩

theorem isDecimal_of_ofValue (h : ofValue v = decimal) : v.isDecimal = true := by
  cases v <;> first | rfl | exact absurd h Target.noConfusion

/-- A kind that casts do not know leaves a single value as it is.  This is the kind of a value that
holds others. -/
theorem cast_unknown (hv : v.isSingle = true) (name : String) :
    (unknown name).cast v = .ok v := by
  rw [cast_of_isSingle hv]
  rfl

end Target

namespace Memory

variable {v operand w : Value}

theorem holds_operator (c : Comparison) (v operand : Value) :
    holds c.operator v operand = compare c v operand := by
  cases c <;> rfl

/-! ### What an operand is compared as -/

/-- What an operand is compared as: itself, or its cast to the kind of the value if the two have no
order.  The cast is to the kind of the value, never the other way round. -/
inductive ComparedAs (v operand : Value) : Value → Prop
  | given (h : ¬ v.Unordered operand) : ComparedAs v operand operand
  | cast {w : Value} (h : v.Unordered operand) (hcast : (Target.ofValue v).cast operand = .ok w) :
      ComparedAs v operand w

/-- A NaN meets a decimal number when the value and the operand are compared.  One of the two must
be a decimal number, as binary ones have answers for NaN. -/
def NanMeets (v operand : Value) : Prop :=
  ∃ w, ComparedAs v operand w ∧ v.MeetsNan w

/-- The operand has no order to the value, and neither has its cast.  A cast that fails leaves
nothing to compare. -/
def Incomparable (v operand : Value) : Prop :=
  v.Unordered operand ∧ ∀ w, (Target.ofValue v).cast operand = .ok w → v.Unordered w

/-- How the comparison of a value and an operand can end: with the answers of an order, with the
error of a cast, or with a NaN that refuses an answer.  The error of a cast names either the operand
or what could not be cast in it. -/
inductive Ends (v operand : Value) : Prop
  | answered {w : Value} {o : Option Ordering} (has : ComparedAs v operand w)
      (horder : v.OrderedBy w o) (h : ∀ c, compare c v operand = .ok (o.any c.holds))
  | rejected {value : Value} (hincomparable : Incomparable v operand)
      (hvalue : value = operand ∨ (Target.ofValue v).cast operand = .error value)
      (h : ∀ c, compare c v operand = .error (.rejected anonymous value (Target.ofValue v)))
  | nan {w : Value} (has : ComparedAs v operand w) (hnan : v.MeetsNan w)
      (h : ∀ c, compare c v operand = .error (.noResult .undefinedComparison))

/-- What has an order to the value is compared as it is.  No cast is tried then, even if one would
give something else. -/
theorem compare_of_compare? (hnull : v.isNull = false) {c : Comparison} {b : Bool}
    (h : v.compare? c operand = .ok b) : compare c v operand = .ok b := by
  simp [compare, hnull, h]

theorem compare_of_meetsNan (hnull : v.isNull = false) (h : v.MeetsNan operand) (c : Comparison) :
    compare c v operand = .error (.noResult .undefinedComparison) := by
  simp [compare, hnull, Value.compare?_of_meetsNan h]

/-- What has no order to the value is cast.  A cast that fails and a cast that does not help end
with the same error, but for the value in it. -/
theorem compare_of_unordered (hnull : v.isNull = false) (h : v.Unordered operand)
    (c : Comparison) :
    compare c v operand = match (Target.ofValue v).cast operand with
      | .error other => .error (.rejected anonymous other (Target.ofValue v))
      | .ok w => match v.compare? c w with
        | .ok b => .ok b
        | .error .kindMismatch => .error (.rejected anonymous operand (Target.ofValue v))
        | .error fault => .error (.noResult fault) := by
  cases hcast : (Target.ofValue v).cast operand with
  | error other => simp [compare, hnull, h c, hcast]
  | ok w =>
    cases hw : v.compare? c w with
    | ok b => simp [compare, hnull, h c, hcast, hw]
    | error fault => cases fault <;> simp [compare, hnull, h c, hcast, hw]

/-- **How the comparison of a single value and an operand ends.**  A single value and any other one
are in one of three relations. -/
theorem ends_of_isSingle (hv : v.isSingle = true) (operand : Value) : Ends v operand := by
  have hnull := Value.isNull_of_isSingle hv
  cases Value.stands_of_isSingle hv operand with
  | ordered o h =>
    exact .answered (.given h.not_unordered) h fun c => compare_of_compare? hnull (h.1 c)
  | nan h => exact .nan (.given h.not_unordered) h (compare_of_meetsNan hnull h)
  | unordered hunordered hequal =>
    -- The cast decides, and what it gives stands to the value in one of the same three ways.
    have hcompare := compare_of_unordered hnull hunordered
    cases hcast : (Target.ofValue v).cast operand with
    | error rejected =>
      refine .rejected ⟨hunordered, by simp [hcast]⟩ (.inr hcast) fun c => ?_
      rw [hcompare c]
      simp only [hcast]
    | ok w =>
      cases Value.stands_of_isSingle hv w with
      | ordered o h =>
        refine .answered (.cast hunordered hcast) h fun c => ?_
        rw [hcompare c]
        simp only [hcast, h.1 c]
      | nan h =>
        refine .nan (.cast hunordered hcast) h fun c => ?_
        rw [hcompare c]
        simp only [hcast, Value.compare?_of_meetsNan h c]
      | unordered h hequal =>
        refine .rejected ⟨hunordered, fun w' hw' => ?_⟩ (.inl rfl) fun c => ?_
        · rw [hcast] at hw'
          exact Except.ok.inj hw' ▸ h
        · rw [hcompare c]
          simp only [hcast, h c]

theorem ComparedAs.unique {w' : Value} (h : ComparedAs v operand w) (h' : ComparedAs v operand w') :
    w = w' := by
  -- The operand is cast in both cases or in none.
  cases h with
  | given hordered =>
    cases h' with
    | given => rfl
    | cast hunordered => exact absurd hunordered hordered
  | cast hunordered hcast =>
    cases h' with
    | given hordered => exact absurd hunordered hordered
    | cast _ hcast' => exact Except.ok.inj (hcast.symm.trans hcast')

theorem ComparedAs.not_incomparable (has : ComparedAs v operand w) (h : ¬ v.Unordered w) :
    ¬ Incomparable v operand := by
  rintro ⟨hunordered, hcast⟩
  cases has with
  | given hordered => exact hordered hunordered
  | cast _ hw => exact h (hcast w hw)

theorem Incomparable.not_nanMeets (h : Incomparable v operand) : ¬ NanMeets v operand :=
  fun ⟨_, has, hnan⟩ => has.not_incomparable hnan.not_unordered h

/-- A value that holds others rejects every single operand.  Its kind is none that a cast knows. -/
theorem ends_of_not_isSingle (hv : v.isSingle = false) (hnull : v.isNull = false)
    (hoperand : operand.isSingle = true) : Ends v operand := by
  have hunordered := Value.unordered_of_not_isSingle hv hoperand
  have hcast : (Target.ofValue v).cast operand = .ok operand := by
    cases v <;>
      first | exact Target.cast_unknown hoperand _ | exact absurd hv.symm Bool.false_ne_true
  refine .rejected ⟨hunordered, fun w hw => ?_⟩ (.inl rfl) fun c => ?_
  · exact Except.ok.inj (hcast.symm.trans hw) ▸ hunordered
  · rw [compare_of_unordered hnull hunordered]
    simp only [hcast, hunordered c]

/-! ### The six operators of comparison -/

theorem holds_neq_of_holds_eq {equal : Bool} (h : holds .eq v operand = .ok equal) :
    holds .neq v operand = .ok (!equal) := by
  rw [holds] at h
  simp only [holds, h]
  rfl

/-- Equality looks at the operand itself, and follows the order if no cast is needed.  Two values
without an order are not equal. -/
theorem exists_equal_of_comparedAs {o : Option Ordering} (hv : v.isSingle = true)
    (has : ComparedAs v operand w) (horder : v.OrderedBy w o) :
    ∃ equal, holds .eq v operand = .ok equal ∧ (v.Unordered operand → equal = false) ∧
      (¬ v.Unordered operand → equal = (o == some .eq)) := by
  -- Equality is asked of the operand, the order of what it is compared as.
  cases has with
  | given h =>
    refine ⟨o == some .eq, ?_, fun hunordered => absurd hunordered h, fun _ => rfl⟩
    rw [holds, horder.2]
    rfl
  | cast h hcast =>
    refine ⟨false, ?_, fun _ => rfl, fun hordered => absurd h hordered⟩
    rw [holds, Value.equal?_of_unordered hv h]
    rfl

/-- **When the operators of comparison agree with one another.**  The order of the value and of what
the operand is compared as answers the four questions for it, and so would equality with that.  But
equality does not cast: the operators agree with one another exactly if the operand is not one that
only a cast makes equal to the value.  Nothing is assumed of the operand; it may be a list. -/
theorem comparisons_agree (hv : v.isSingle = true) {atLeast atMost : Bool}
    (hge : holds .gte v operand = .ok atLeast) (hle : holds .lte v operand = .ok atMost) :
    ∃ w equal above below, ComparedAs v operand w ∧
      holds .eq v w = .ok (atLeast && atMost) ∧
      holds .eq v operand = .ok equal ∧ holds .neq v operand = .ok (!equal) ∧
      holds .gt v operand = .ok above ∧ holds .lt v operand = .ok below ∧
      above = (atLeast && !atMost) ∧ below = (atMost && !atLeast) ∧
      (v.Unordered operand → equal = false) ∧
      ((equal = (atLeast && atMost) ∧ above = (atLeast && !equal) ∧ below = (atMost && !equal)) ↔
        ¬ (v.Unordered operand ∧ atLeast = true ∧ atMost = true)) := by
  -- Since two of the four questions have an answer, an order answers all of them.
  have hanswer : ∃ w o, ComparedAs v operand w ∧ v.OrderedBy w o ∧
      ∀ c : Comparison, compare c v operand = .ok (o.any c.holds) := by
    cases ends_of_isSingle hv operand with
    | answered has horder h => exact ⟨_, _, has, horder, h⟩
    | rejected _ _ h => exact absurd ((h .atLeast).symm.trans hge) (by simp)
    | nan _ _ h => exact absurd ((h .atLeast).symm.trans hge) (by simp)
  obtain ⟨w, o, has, horder, h⟩ := hanswer
  obtain rfl : o.any Comparison.atLeast.holds = atLeast :=
    Except.ok.inj ((h .atLeast).symm.trans hge)
  obtain rfl : o.any Comparison.atMost.holds = atMost :=
    Except.ok.inj ((h .atMost).symm.trans hle)
  have hcast : holds .eq v w = .ok (o == some .eq) := by rw [holds, horder.2]; rfl
  obtain ⟨equal, heq, hunordered, hordered⟩ := exists_equal_of_comparedAs hv has horder
  have hequal : (o == some .eq)
      = (o.any Comparison.atLeast.holds && o.any Comparison.atMost.holds) := by
    rcases o with _ | _ | _ | _ <;> rfl
  refine ⟨w, equal, o.any Comparison.above.holds, o.any Comparison.below.holds, has, hequal ▸ hcast,
    heq, holds_neq_of_holds_eq heq, h .above, h .below, ?_, ?_, hunordered, ?_⟩
  · rcases o with _ | _ | _ | _ <;> rfl
  · rcases o with _ | _ | _ | _ <;> rfl
  · by_cases hkinds : v.Unordered operand
    · obtain rfl := hunordered hkinds
      rcases o with _ | _ | _ | _ <;> simp [hkinds, Comparison.holds]
    · obtain rfl := hordered hkinds
      rcases o with _ | _ | _ | _ <;> simp [hkinds, Comparison.holds]

/-- A text is equal to no number, though it is compared as one.  So a filter by equality misses what
two filters by order find. -/
theorem comparisons_of_five_and_its_text :
    Value.isSingle (.int 5) = true ∧ holds .gte (.int 5) (.text "5") = .ok true ∧
      holds .lte (.int 5) (.text "5") = .ok true ∧ holds .eq (.int 5) (.text "5") = .ok false ∧
      holds .neq (.int 5) (.text "5") = .ok true := by
  have hge : holds .gte (.int 5) (.text "5") = .ok true := rfl
  have hle : holds .lte (.int 5) (.text "5") = .ok true := rfl
  obtain ⟨_, _, _, _, -, -, heq, hne, -, -, -, -, hequal, -⟩ :=
    comparisons_agree (v := .int 5) rfl hge hle
  obtain rfl := hequal fun _ => rfl
  exact ⟨rfl, hge, hle, heq, hne⟩

/-! ### Operands out of a URL -/

/-- The operand is a text or what a text is cast to.  The casts are those that a schema of columns
asks for. -/
def OfUrl (operand : Value) : Prop :=
  ∃ (target : Target) (s : String), target.cast (.text s) = .ok operand

theorem OfUrl.isSingle (h : OfUrl operand) : operand.isSingle = true := by
  obtain ⟨target, s, hcast⟩ := h
  exact (Target.of_castAtom?_text (Target.castAtom?_of_cast rfl hcast)).1

theorem OfUrl.isWritable (h : OfUrl operand) : operand.isWritable = true := by
  obtain ⟨target, s, hcast⟩ := h
  exact (Target.of_castAtom?_text (Target.castAtom?_of_cast rfl hcast)).2.1

theorem ofUrl_text (s : String) : OfUrl (.text s) :=
  ⟨.text, s, rfl⟩

/-- A text meets a decimal number as the decimal number that it reads as.  Blanks around the text do
not matter. -/
theorem nanMeets_text {s : String} (hs : operand = .text s) :
    NanMeets v operand ↔ ∃ x y : Decimal, v = .decimal x ∧
      Decimal.read? (trim s.toList) = some y ∧ (x.isNan || y.isNan) = true := by
  subst hs
  constructor
  · rintro ⟨w, has, x, y, hx, hy, hdecimal, hnan⟩
    cases has with
    | given => exact absurd hy (by simp [Value.number?])
    | cast hunordered hcast =>
      have hatom := Target.castAtom?_of_cast rfl hcast
      have hv : v.isDecimal = true := by
        rcases Bool.or_eq_true_iff.1 hdecimal with hv | hw
        · exact hv
        · exact Target.isDecimal_of_ofValue ((Target.of_castAtom?_text hatom).2.2 hw)
      obtain ⟨z, rfl⟩ : ∃ z, v = .decimal z := by
        cases v <;> first | exact ⟨_, rfl⟩ | exact absurd hv Bool.false_ne_true
      have hdec : Target.decimal.castAtom? (.text s) = some w := hatom
      rw [Target.castAtom?_decimal_text] at hdec
      obtain ⟨y', hread, rfl⟩ := Option.map_eq_some_iff.1 hdec
      obtain rfl : z = x := Option.some.inj hx
      obtain rfl : y' = y := Option.some.inj hy
      exact ⟨z, y', rfl, hread, hnan⟩
  · rintro ⟨x, y, rfl, hread, hnan⟩
    have hcast : (Target.ofValue (.decimal x)).cast (.text s) = .ok (.decimal y) := by
      rw [Target.cast_of_isSingle rfl, Target.castLone, Target.ofValue,
        Target.castAtom?_decimal_text, hread]
      rfl
    exact ⟨.decimal y, .cast (fun _ => rfl) hcast, x, y, rfl, rfl, rfl, hnan⟩

/-- **Which errors the operators of order end with.**  An operand out of a URL that has no order to
the value, and whose cast has none either, is the error of a cast.  There is one more error: a
decimal number refuses to be compared with a NaN, which a text can read as.  An absent value has the
answer no for every operand. -/
theorem order_of_urlValue (v : Value) (h : OfUrl operand) (c : Comparison) :
    (((∃ b, holds c.operator v operand = .ok b) ∨
        holds c.operator v operand = .error (.badValue anonymous operand (Target.ofValue v))) ↔
      ¬ NanMeets v operand) ∧
    (NanMeets v operand → holds c.operator v operand = .error (.noResult .undefinedComparison)) ∧
    (holds c.operator v operand = .error (.badValue anonymous operand (Target.ofValue v)) ↔
      v.isNull = false ∧ Incomparable v operand) ∧
    ∀ s, operand = .text s → (NanMeets v operand ↔ ∃ x y : Decimal, v = .decimal x ∧
      Decimal.read? (trim s.toList) = some y ∧ (x.isNan || y.isNan) = true) := by
  have htext := fun s (hs : operand = .text s) => nanMeets_text (v := v) hs
  rw [holds_operator]
  by_cases hnull : v.isNull = true
  · have hanswer : compare c v operand = .ok false := by rw [compare, if_pos hnull]
    obtain rfl : v = .null := by
      cases v <;> first | rfl | exact absurd hnull Bool.false_ne_true
    have hnan : ¬ NanMeets .null operand := by
      rintro ⟨w, -, x, y, hx, -⟩
      exact absurd hx (by simp [Value.number?])
    rw [hanswer]
    exact ⟨by simp [hnan], fun h => absurd h hnan, by simp [hnull], htext⟩
  rw [Bool.not_eq_true] at hnull
  -- The ways in which a comparison can end leave three cases.
  have hends : Ends v operand := by
    cases hv : v.isSingle with
    | true => exact ends_of_isSingle hv operand
    | false => exact ends_of_not_isSingle hv hnull h.isSingle
  -- Each way excludes the errors of the other two.
  cases hends with
  | answered has horder hanswer =>
    have hnan : ¬ NanMeets v operand := by
      rintro ⟨w, has', hw⟩
      exact horder.not_meetsNan (has.unique has' ▸ hw)
    have hcomparable := has.not_incomparable horder.not_unordered
    rw [hanswer c]
    exact ⟨by simp [hnan], fun h => absurd h hnan, by simp [hcomparable], htext⟩
  | @rejected value hincomparable hvalue hanswer =>
    obtain rfl : value = operand := by
      rcases hvalue with rfl | herror
      · rfl
      · exact Target.eq_of_cast_error h.isSingle herror
    have hnan := hincomparable.not_nanMeets
    rw [hanswer c, Error.rejected_of_isWritable h.isWritable]
    exact ⟨by simp [hnan], fun h => absurd h hnan, by simp [hnull, hincomparable], htext⟩
  | nan has hmeets hanswer =>
    have hnan : NanMeets v operand := ⟨_, has, hmeets⟩
    have hcomparable := has.not_incomparable hmeets.not_unordered
    rw [hanswer c]
    exact ⟨by simp [hnan], fun _ => rfl, by simp [hcomparable], htext⟩

/-- A text can read as a NaN, and then ends a comparison with the error of a decimal number. -/
theorem order_of_one_and_nan_text :
    OfUrl (.text "NaN") ∧ holds .gte (.decimal (.ofInt 1)) (.text "NaN")
      = .error (.noResult .undefinedComparison) := by
  have hurl : OfUrl (.text "NaN") := ofUrl_text "NaN"
  obtain ⟨-, herror, -, htext⟩ := order_of_urlValue (.decimal (.ofInt 1)) hurl .atLeast
  have hread : Decimal.read? (trim "NaN".toList) = some (.nan false false 0) := by rfl
  have hmeets : NanMeets (.decimal (.ofInt 1)) (.text "NaN") :=
    (htext "NaN" rfl).2 ⟨_, _, rfl, hread, rfl⟩
  exact ⟨hurl, herror hmeets⟩

end Memory

end UrlFilter
