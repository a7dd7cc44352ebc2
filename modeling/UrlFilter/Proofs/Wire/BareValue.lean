import UrlFilter.Proofs.Wire.Expression

namespace UrlFilter.Wire

open UrlFilter.Text

/-!
# Values without their operators

A value that is written alone has lost its operator.  A reader takes the operator that it starts
with, unless the text of the value itself reads as an operator and a value.

* `shape_bareValue` — a settled value that is written alone comes back from its own operator.
* `read?_text_ne` — a text is never the value that it reads as.
* `readFrom` — what a text asks for, with an operator to start with.
* `readFrom_bareValue_iff` — when a value that is written alone comes back.
-/

/-! ### The operator of a text -/

/-- A text becomes a value of the operator itself, but for a word for absence behind `is`.  This is
the only case in which shaping changes the operator. -/
theorem shape_operator (op : Operator) (s : String) :
    (shape op (.text s)).1 = op ∨
      (op = .is ∧ ∃ b, shape op (.text s) = (.isNull, .bool b)) := by
  by_cases his : op = .is
  · subst his
    cases hr : TriState.read? s.toList with
    | none => exact .inl (by rw [shape_of_read?_eq_none (.inl rfl) hr])
    | some word =>
      cases word <;>
        simp [shape, Operator.isMulti, Operator.isPattern, Value.asText?, hr]
  · refine .inl ?_
    unfold shape
    simp only [if_neg his]
    split
    · rfl
    split
    · rfl
    split
    · split <;> rfl
    · rfl

/-- The value that a text becomes is no longer text than it.  Only stars can be lost. -/
theorem length_of_shape {op op' : Operator} {s t : String}
    (h : shape op (.text s) = (op', .text t)) : t.toList.length ≤ s.toList.length := by
  by_cases hm : op.isMulti = true
  · rw [← String.ofList_toList (s := s), shape_of_isMulti hm] at h
    simp at h
  rw [Bool.not_eq_true] at hm
  by_cases hp : op.isPattern = true
  · rw [shape_of_isPattern hp] at h
    obtain ⟨-, rfl⟩ : op = op' ∧ String.ofList (dropStars s.toList) = t := by simpa using h
    rw [String.toList_ofList, dropStars, dropEndWhile_eq_rdropWhile]
    exact (List.rdropWhile_prefix _ _).length_le.trans (List.dropWhile_suffix _).length_le
  rw [Bool.not_eq_true] at hp
  by_cases ht : op = .is ∨ op = .isNull
  · cases hr : TriState.read? s.toList with
    | none =>
      rw [shape_of_read?_eq_none ht hr] at h
      obtain ⟨-, rfl⟩ : op = op' ∧ s = t := by simpa using h
      exact le_rfl
    | some word =>
      rcases ht with rfl | rfl <;> cases word <;>
        simp [shape, Operator.isMulti, Operator.isPattern, Value.asText?, hr] at h
  · rw [not_or] at ht
    rw [shape_of_plain hm hp ht.1 ht.2] at h
    obtain ⟨-, rfl⟩ : op = op' ∧ s = t := by simpa using h
    exact le_rfl

/-- **A text is never the value that it reads as:** the symbol and the point stand in front of that.
So a text that reads as an expression never comes back by itself. -/
theorem read?_text_ne (op : Operator) (s : String) : read? (.text s) ≠ some (op, .text s) := by
  intro h
  simp only [read?, readText?, splitOperator?, Value.asText?, Option.bind_eq_bind, Option.bind_some,
    Option.bind_eq_some_iff, Option.pure_def, Option.some.injEq] at h
  obtain ⟨⟨asked, rest⟩, ⟨⟨name, behind⟩, hsplit, found, -, hw⟩, he⟩ := h
  split at hw
  · obtain ⟨rfl, rfl⟩ : found = asked ∧ behind = rest := by simpa using hw
    -- The value that is read is shorter by the symbol and the point.
    have hlen := length_of_shape he
    obtain ⟨-, heq⟩ := eq_append_of_splitFirst hsplit
    rw [heq, String.toList_ofList] at hlen
    simp at hlen
    omega
  · simp at hw

/-! ### Values alone -/

/-- A list is written alone in brackets.  The brackets are those of its operator. -/
theorem bareValue_list (op : Operator) (items : List Value) :
    bareValue op (.list items) = listLiteral op items := by
  cases op <;> rfl

/-- A text is written alone as it is.  No stars are put around it. -/
theorem bareValue_text (op : Operator) (s : String) : bareValue op (.text s) = s.toList := by
  cases op <;> rfl

/-- A list has no operator in front of it.  It starts with a bracket. -/
theorem read?_listLiteral (op : Operator) (items : List Value) :
    read? (.text (String.ofList (listLiteral op items))) = none := by
  rw [listLiteral, List.cons_append]
  unfold brackets
  split <;> exact read?_cons_eq_none (by decide) (fun op => by cases op <;> decide) _

/-- **A settled value that is written alone comes back from its own operator.**  The operator must
be known from elsewhere. -/
theorem shape_bareValue {op : Operator} {v : Value} (h : Settled op v) :
    shape op (.text (String.ofList (bareValue op v))) = (op, v) := by
  -- A list is read between its brackets, a yes or no is a word, and a text is taken as it is.
  match v, h with
  | .list items, ⟨hm, texts, hitems⟩ =>
    rw [bareValue_list, shape_listLiteral hm, hitems, List.map_map]
    simp only [Function.comp_def, scalar_text, String.toList_ofList]
  | .bool b, h => rcases h with rfl | rfl <;> cases b <;> rfl
  | .text s, h => rw [bareValue_text, String.ofList_toList, shape_text_of_settled h]

/-- A value that is written alone reads as nothing, unless it is a text that reads as something.  A
list and a yes or no never do. -/
theorem read?_bareValue_eq_none_iff {op : Operator} {v : Value} (h : Settled op v) :
    read? (.text (String.ofList (bareValue op v))) = none ↔
      ∀ s, v = .text s → read? (.text s) = none := by
  match v, h with
  | .list items, _ => simp [bareValue_list, read?_listLiteral]
  | .bool b, h =>
    refine iff_of_true ?_ (by simp)
    rcases h with rfl | rfl <;> cases b <;> rfl
  | .text s, _ => simp [bareValue_text]

/-! ### Coming back -/

/-- The operator and the value that a text asks for, with an operator to start with.  The text's own
operator goes first. -/
def readFrom (start : Operator) (raw : Value) : Operator × Value :=
  (read? raw).getD (shape start raw)

/-- A value that is written alone comes back: its operator is the one to start with, or `is` leads
back to it from a word for absence; and no text reads as an operator and a value.  The operator that
a value was written with plays no other part. -/
def Regained (start op : Operator) (v : Value) : Prop :=
  (op = start ∨ start = .is ∧ op = .isNull ∧ v.isBool = true) ∧
    ∀ s, v = .text s → read? (.text s) = none

/-- **When a value that is written alone comes back.**  Nothing is assumed of the operator to start
with. -/
theorem readFrom_bareValue_iff (start : Operator) {op : Operator} {v : Value} (h : Settled op v) :
    readFrom start (.text (String.ofList (bareValue op v))) = (op, v) ↔ Regained start op v := by
  rw [Regained, ← read?_bareValue_eq_none_iff h, readFrom]
  cases hread : read? (.text (String.ofList (bareValue op v))) with
  | some asked =>
    -- Only a text reads as something, and never as itself.
    refine iff_of_false ?_ (by simp)
    rw [Option.getD_some]
    rintro rfl
    obtain ⟨s, rfl⟩ : ∃ s, v = .text s := by
      by_contra htext
      have hnone := (read?_bareValue_eq_none_iff h).2 fun s hs => absurd ⟨s, hs⟩ htext
      rw [hread] at hnone
      simp at hnone
    rw [bareValue_text, String.ofList_toList] at hread
    exact read?_text_ne op s hread
  | none =>
    rw [Option.getD_none]
    constructor
    · intro hback
      refine ⟨?_, rfl⟩
      rcases shape_operator start (String.ofList (bareValue op v)) with hop | ⟨his, b, hb⟩
      · exact .inl (by rw [← hop, hback])
      · obtain ⟨rfl, rfl⟩ : Operator.isNull = op ∧ Value.bool b = v := by
          simpa using hb.symm.trans hback
        exact .inr ⟨his, rfl, rfl⟩
    · rintro ⟨rfl | ⟨rfl, rfl, hbool⟩, -⟩
      · exact shape_bareValue h
      · cases v with
        | bool b => cases b <;> rfl
        | _ => exact absurd hbool Bool.false_ne_true

end UrlFilter.Wire
