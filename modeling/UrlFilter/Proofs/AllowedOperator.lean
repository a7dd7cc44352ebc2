import UrlFilter.Check
import UrlFilter.Proofs.Presence
import UrlFilter.Proofs.Wire.BareValue

namespace UrlFilter

open Reading UrlFilter.Text

/-!
# Allowed operators

A text asks for an operator, and the filter that it makes has this operator, except that `is` with
a word for absence or presence makes a filter with `isNull`.  So a field may allow what is asked for
and not what the filter has.

* `Field.asked` — the operator that applies to a text, and the text of its value.
* `Wire.AsksForAbsence` — `is` with a word for absence or presence.
* `Limits.check_operator_iff` — when a check rejects the operator of a filter.
* `Scheme.operator_of_read` — the operator of the filter that a text makes, and when it is rejected.
-/

/-! ### What a text asks for -/

/-- The operator that applies to a text, and the text of its value: what is around the first point
if an operator stands in front of it, and otherwise the operator that the field starts with and the
whole text. -/
def Field.asked (c : Field) (t : String) : Operator × String :=
  match Wire.splitOperator? t.toList with
  | some (op, rest) => (op, String.ofList rest)
  | none => (c.defaultOperator, t)

namespace Wire

/-- The operator is `is`, and the text is a word for absence or presence, whatever its case and the
blanks around it.  These are the only texts that change the operator they stand behind. -/
def AsksForAbsence (op : Operator) (t : String) : Prop :=
  op = .is ∧ (lowered (trimmed t) = "null" ∨ lowered (trimmed t) = "not_null")

instance (op : Operator) (t : String) : Decidable (AsksForAbsence op t) := by
  unfold AsksForAbsence
  infer_instance

theorem readTriState_eq_iff (t : String) :
    TriState.read? t.toList = some .absent ∨ TriState.read? t.toList = some .present ↔
      lowered (trimmed t) = "null" ∨ lowered (trimmed t) = "not_null" := by
  have hword : String.ofList (lower (trim t.toList)) = lowered (trimmed t) := by
    rw [lowered, trimmed, String.toList_ofList]
  rw [TriState.read?, hword]
  -- Four words are told apart, one after another, and only the last two are the ones in question.
  generalize lowered (trimmed t) = word
  split
  · next h => simp [h]
  split
  · next h => simp [h]
  split
  · next h => simp [h]
  split
  · next h => simp [h]
  · simp_all

/-- The operator of a text that becomes a value.  All other operators are kept, whatever their value
becomes. -/
theorem operator_shape (op : Operator) (t : String) :
    (shape op (.text t)).1 = if AsksForAbsence op t then .isNull else op := by
  by_cases his : op = .is
  · subst his
    have habsence : AsksForAbsence .is t ↔
        TriState.read? t.toList = some .absent ∨ TriState.read? t.toList = some .present := by
      rw [readTriState_eq_iff, AsksForAbsence, and_iff_right rfl]
    simp only [habsence]
    cases hr : TriState.read? t.toList with
    | none => simp [shape_of_read?_eq_none (.inl rfl) hr]
    | some word =>
      cases word <;> simp [shape, Operator.isMulti, Operator.isPattern, Value.asText?, hr]
  · -- An operator other than `is` stays, whatever the word.
    rw [if_neg fun h => his h.1]
    exact (shape_operator op t).resolve_right fun h => his h.1

end Wire

/-- A text without an operator in front of a point is the value of the one that the field starts
with, and any other text the value of the operator in front.  A field that starts with `between` is
no exception, as the text of a range is left as it is. -/
theorem Reading.operatorAndValue_eq_shape (c : Field) (t : String) :
    operatorAndValue c (.text t) = Wire.shape (c.asked t).1 (.text (c.asked t).2) := by
  unfold operatorAndValue Field.asked
  simp only [Wire.read?, Wire.readText?, Value.asText?, Option.bind_eq_bind, Option.bind_some]
  cases Wire.splitOperator? t.toList with
  | some asked => rfl
  | none =>
    -- The default operator of a range takes no text, so that the text is kept as it stands.
    by_cases hd : c.defaultOperator = .between
    · have hshape : Wire.shape .between (.text t) = (.between, .text t) :=
        Wire.shape_of_plain rfl rfl (by decide) (by decide) _
      simp [hd, hshape]
    · simp [hd]

/-! ### What a check rejects -/

/-- A check rejects the operator of a filter exactly if the field does not allow it.  What else is
wrong with a filter is only its size, which is looked at later. -/
theorem Limits.check_operator_iff (limits : Limits) {f : Filter} {c : Field}
    (hconfig : f.config = some c) :
    (∃ field op, limits.check f = .ok (some (.operatorNotAllowed field op))) ↔
      c.allows f.operator = false := by
  have hcheck : limits.check f = if c.allows f.operator = true
      then .ok (limits.sizeViolation? f.field f.value)
      else .ok (some (.operatorNotAllowed f.field f.operator.symbol)) := by
    simp only [check, Filter.config?, hconfig, bind, Except.bind]
    split <;> rfl
  -- No size is a violation of this kind.
  have hsize : ∀ field op,
      limits.sizeViolation? f.field f.value ≠ some (.operatorNotAllowed field op) := by
    intro field op
    unfold sizeViolation?
    split
    · split <;> simp
    · split
      · split <;> simp
      · simp
  rw [hcheck]
  by_cases hallowed : c.allows f.operator = true
  · simp [hallowed, hsize]
  · simp [hallowed]

namespace Scheme

variable {s : Scheme}

/-- **The operator of the filter that a text makes.**  Where the last text of the first parameter of
a field without bounds asks for an operator, there is one filter of that name, and it has this
operator, or `isNull` where `is` asks for absence or presence.  So if the field allows what is asked
for, it allows what the filter has, and no check rejects the operator, exactly unless absence or
presence is asked for and the field does not allow `isNull`.  Reading fails only if another field
that is always on starts with more than two bounds. -/
theorem operator_of_read {p : Params} (htext : ∀ e ∈ s.beside p, e.2.Textual) {c : Field}
    (hrange : c.kind.isRange = false) {raw : Value} {t : String}
    (hfirst : s.firstOf? c.name (s.withoutGroup p).1.entries = some (c, raw))
    (hlast : (values raw).getLast? = some (.text t)) :
    ((∀ d ∈ s.fields, d.alwaysOn = true → d.name ≠ c.name → d.StartFits) →
      ∃ r, s.read p = .ok r) ∧
    ∀ r, s.read p = .ok r → ∃ f : Filter,
      (∀ g, g ∈ r.filters ∧ g.field = c.name ↔ g = f) ∧ f.config = some c ∧
      f.operator = (if Wire.AsksForAbsence (c.asked t).1 (c.asked t).2 then .isNull
        else (c.asked t).1) ∧
      (c.allows (c.asked t).1 = true →
        (c.allows f.operator = false ↔
          Wire.AsksForAbsence (c.asked t).1 (c.asked t).2 ∧ c.allows .isNull = false) ∧
        ∀ limits : Limits,
          (∃ field op, limits.check f = .ok (some (.operatorNotAllowed field op))) ↔
            Wire.AsksForAbsence (c.asked t).1 (c.asked t).2 ∧ c.allows .isNull = false) := by
  constructor
  · intro hstart
    obtain ⟨direct, seen, after, rest, hseen, -, hafter, hread⟩ := exists_read_eq htext
    have hold : c.name ∈ after := (hafter c.name).2 (.inl (by simp [hseen, hfirst]))
    -- The field itself was seen, so only other fields start by themselves.
    obtain ⟨always, halways⟩ : ∃ always, alwaysOn s after = .ok always := by
      rw [alwaysOn, exists_mapM_eq_ok_iff]
      intro d hd
      obtain ⟨hmem, hon, hnew⟩ : d ∈ s.fields ∧ d.alwaysOn = true ∧ d.name ∉ after := by
        simpa using hd
      exact (Filter.exists_start_iff d).2 (hstart d hmem hon fun h => hnew (h ▸ hold))
    exact ⟨_, (hread _).2 ⟨always, halways, rfl⟩⟩
  · intro r hr
    -- The last text of the first parameter is what the filter is made of.
    have hmade : directFilter? c raw = some (askedFilter c (.text t)) := by
      rw [directFilter?, if_neg (by simp [hrange]), hlast, Option.map_some]
    have hop : (askedFilter c (.text t)).operator
        = if Wire.AsksForAbsence (c.asked t).1 (c.asked t).2 then .isNull else (c.asked t).1 := by
      rw [← Wire.operator_shape, ← operatorAndValue_eq_shape]
      rfl
    refine ⟨askedFilter c (.text t), fun g => ?_, rfl, hop, fun hallowed => ?_⟩
    · rw [mem_filters_iff_of_firstOf? htext hr hfirst, hmade, Option.some_inj, eq_comm]
    · have hrejected : c.allows (askedFilter c (.text t)).operator = false ↔
          Wire.AsksForAbsence (c.asked t).1 (c.asked t).2 ∧ c.allows .isNull = false := by
        rw [hop]
        split
        · next h => simp [h]
        · next h => simp [h, hallowed]
      exact ⟨hrejected, fun limits => (limits.check_operator_iff rfl).trans hrejected⟩

/-- Whether orders are paid, which starts with `is` and allows nothing else. -/
def paid : Field :=
  .ofKind .boolean "paid"

/-- Orders by whether they are paid.  It is a field whose operators do not include the one that
absence is asked for with. -/
def payments : Scheme where
  fields := [paid]

/-- The parameter of whether orders are paid. -/
def paidIs (t : String) : Params :=
  .ofList [("paid", .text t)]

/-- A word for absence makes a filter whose operator is rejected, and a yes one that is allowed. -/
theorem payments_operator_of_read :
    (∃ r, payments.read (paidIs "is. NULL ") = .ok r ∧ ∃ f ∈ r.filters, f.operator = .isNull ∧
      ∃ field op, Limits.check {} f = .ok (some (.operatorNotAllowed field op))) ∧
    ∃ r, payments.read (paidIs "TRUE") = .ok r ∧ ∃ f ∈ r.filters, f.operator = .is ∧
      ¬ ∃ field op, Limits.check {} f = .ok (some (.operatorNotAllowed field op)) := by
  have htext : ∀ t, ∀ e ∈ payments.beside (paidIs t), e.2.Textual := by
    intro t e he
    obtain rfl : e = ("paid", .text t) := List.mem_singleton.1 (List.mem_of_mem_filter he)
    exact .inl ⟨t, rfl⟩
  have hfirst : ∀ t, payments.firstOf? paid.name (payments.withoutGroup (paidIs t)).1.entries
      = some (paid, .text t) := fun _ => rfl
  have hstart : ∀ d ∈ payments.fields, d.alwaysOn = true → d.name ≠ paid.name → d.StartFits := by
    simp [payments]
  constructor
  · obtain ⟨hok, hfilter⟩ := operator_of_read (htext "is. NULL ") rfl (hfirst _) rfl
    obtain ⟨r, hr⟩ := hok hstart
    obtain ⟨f, hf, -, hop, hallowed⟩ := hfilter r hr
    have habsence : Wire.AsksForAbsence (paid.asked "is. NULL ").1 (paid.asked "is. NULL ").2 := by
      decide
    rw [if_pos habsence] at hop
    exact ⟨r, hr, f, ((hf f).2 rfl).1, hop, ((hallowed (by decide)).2 {}).2 ⟨habsence, by decide⟩⟩
  · obtain ⟨hok, hfilter⟩ := operator_of_read (htext "TRUE") rfl (hfirst _) rfl
    obtain ⟨r, hr⟩ := hok hstart
    obtain ⟨f, hf, -, hop, hallowed⟩ := hfilter r hr
    have habsence : ¬ Wire.AsksForAbsence (paid.asked "TRUE").1 (paid.asked "TRUE").2 := by decide
    rw [if_neg habsence] at hop
    exact ⟨r, hr, f, ((hf f).2 rfl).1, hop, fun h =>
      habsence (((hallowed (by decide)).2 {}).1 h).1⟩

/-- The filter of a text that asks for an allowed operator may have one that is not allowed.  The
text asks with `is`, which the field allows, and the filter has `isNull`. -/
theorem allowed_operator_is_lost :
    ¬ ∀ (c : Field) (t : String), c.kind.isRange = false → c.allows (c.asked t).1 = true →
      ∀ r, Scheme.read { fields := [c] } (.ofList [(c.key, .text t)]) = .ok r →
        ∀ f ∈ r.filters, c.allows f.operator = true ∧ ∀ (limits : Limits) (field op : String),
          limits.check f ≠ .ok (some (.operatorNotAllowed field op)) := by
  intro h
  have hread : payments.read (paidIs "is.null")
      = .ok ⟨[⟨"paid", .isNull, .bool true, some paid, "paid"⟩], .empty⟩ := rfl
  have hlost := (h paid "is.null" rfl (by decide) _ hread _ (List.mem_singleton.2 rfl)).1
  exact absurd hlost (by decide)

end Scheme

end UrlFilter
