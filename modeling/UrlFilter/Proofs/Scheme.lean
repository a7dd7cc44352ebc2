import Mathlib.Data.List.Nodup
import UrlFilter.Proofs.Text.Digit
import UrlFilter.Proofs.Wire.Group
import UrlFilter.Scheme

namespace UrlFilter

/-!
# Plain schemes

Schemes whose fields are told apart by their names alone.

* `PlainName` — a name of letters, digits and underscores.
* `separable_of_plainName` — a reader keeps conditions on plain names apart.
* `Field.ofKind` — the field that a kind and a name make.
* `Scheme.Plain` — the fields have different plain names, none of which is the grouping parameter,
  and no parameter has a name of its own.
* `Scheme.Plain.named?_eq_some_iff` — a name stands for the one field that has it.
-/

/-! ### Names -/

/-- A name of letters, digits and underscores.  The empty name is not plain, as it would not be
found in front of a point. -/
def PlainName (name : String) : Prop :=
  name ≠ "" ∧ ∀ c ∈ name.toList, c.isAlphanum = true ∨ c = '_'

instance : DecidablePred PlainName := fun name =>
  decidable_of_iff (name ≠ "" ∧ (name.toList.all fun c => c.isAlphanum || c == '_') = true)
    (by simp [PlainName])

/-- A character of a plain name is no other character.  This is how a plain name is kept apart from
the signs of the wire format. -/
theorem PlainName.ne_of_mem {name : String} (h : PlainName name) {c d : Char}
    (hc : c ∈ name.toList) (hd : ¬ (d.isAlphanum = true ∨ d = '_')) : c ≠ d := by
  rintro rfl
  exact hd (h.2 c hc)

theorem PlainName.point_not_mem {name : String} (h : PlainName name) : '.' ∉ name.toList :=
  fun hc => h.ne_of_mem hc (by decide) rfl

theorem PlainName.comma_not_mem {name : String} (h : PlainName name) : ',' ∉ name.toList :=
  fun hc => h.ne_of_mem hc (by decide) rfl

/-- A plain name holds no character with a meaning in a group.  Names are written without quotes, so
they must not need any. -/
theorem PlainName.not_needsQuoting {name : String} (h : PlainName name) :
    ∀ c ∈ name.toList, Wire.needsQuoting c = false := by
  intro c hc
  rw [Bool.eq_false_iff]
  intro hq
  simp only [Wire.needsQuoting, Bool.or_eq_true, beq_iff_eq] at hq
  -- None of the characters that need quoting is a letter, a digit or an underscore.
  rcases hq with (((((rfl | rfl) | rfl) | rfl) | rfl) | rfl) | rfl <;>
    exact h.ne_of_mem hc (by decide) rfl

/-- The code points of letters and digits lie above all blanks and below all other scripts.  Only
the letters of the Latin alphabet and its ten digits count here. -/
theorem toNat_of_isAlphanum {c : Char} (h : c.isAlphanum = true) :
    0x30 ≤ c.toNat ∧ c.toNat ≤ 0x7A := by
  have hcases : ((decide (c.val ≥ 'A'.val ∧ c.val ≤ 'Z'.val)
      || (c.val ≥ 'a'.val && c.val ≤ 'z'.val)) || (c.val ≥ '0'.val && c.val ≤ '9'.val)) = true := h
  simp only [Bool.or_eq_true, Bool.and_eq_true, decide_eq_true_eq, ge_iff_le,
    UInt32.le_iff_toNat_le, Char.toNat_val, Char.reduceToNat] at hcases
  omega

/-- A plain name is visible.  So no trimming on the way can change it. -/
theorem PlainName.graphic {name : String} (h : PlainName name) : Text.Graphic name.toList := by
  intro c hc
  rcases h.2 c hc with ha | rfl
  · have hrange := toNat_of_isAlphanum ha
    exact Text.isGraphic_iff.2 (by omega)
  · decide

/-- A plain name neither starts nor ends with a blank.  A condition starts with its name, so it has
no blank in front either. -/
theorem PlainName.trim_toList {name : String} (h : PlainName name) :
    Text.trim name.toList = name.toList :=
  Text.trim_of_graphic h.graphic

/-- **A reader keeps conditions on plain names apart,** whatever their values are, and they are
closed.  Values are quoted where they need it; the name in front is what could still split a
condition. -/
theorem separable_of_plainName {conditions : List (List Char)}
    (h : ∀ c ∈ conditions, ∃ name op v, PlainName name ∧ c = Wire.condition name op v) :
    Wire.Separable conditions ∧ ∀ c ∈ conditions, Wire.Closed c := by
  apply Wire.separable_conditions
  intro c hc
  obtain ⟨name, op, v, hname, rfl⟩ := h c hc
  obtain ⟨hclosed, hun⟩ := Wire.passes_of_not_needsQuoting hname.not_needsQuoting 0
  exact ⟨name, op, v, rfl, (Text.trim_eq_self_iff.1 hname.trim_toList).1, hun, hclosed⟩

/-! ### Fields -/

/-- The field that a kind and a name make, with no choices if it needs any. -/
def Field.ofKind (kind : FieldKind) (name : String) : Field where
  name := name
  kind := kind
  label := String.ofList (humanize name.toList)
  operators := kind.operators
  defaultOperator := kind.defaultOperator
  defaultValue := .null
  columnName := none
  parameter := none
  choices := if kind.isChoice then some [] else none
  supplier := none
  placeholder := none
  alwaysOn := false
  removable := true
  trueLabel := "Yes"
  falseLabel := "No"
  anyLabel := "Any"
  nullable := false
  choiceStyle := .pills
  inlineThreshold := 4
  clockStyle := .twelveHour
  minuteStep := .one
  default_mem := kind.defaultOperator_mem
  choices_given h := .inl (by rw [if_pos h]; rfl)

namespace Scheme

/-- The fields have different plain names, none of which is the grouping parameter, and no
parameter has a name of its own. -/
structure Plain (s : Scheme) : Prop where
  nodup : (s.fields.map (·.name)).Nodup
  name_plain : ∀ f ∈ s.fields, PlainName f.name
  name_ne : ∀ f ∈ s.fields, f.name ≠ s.groupKey
  no_key : ∀ f ∈ s.fields, f.customKey? = none

instance : DecidablePred Plain := fun s =>
  decidable_of_iff ((s.fields.map (·.name)).Nodup ∧ (∀ f ∈ s.fields, PlainName f.name) ∧
      (∀ f ∈ s.fields, f.name ≠ s.groupKey) ∧ ∀ f ∈ s.fields, f.customKey? = none)
    ⟨fun ⟨h₁, h₂, h₃, h₄⟩ => ⟨h₁, h₂, h₃, h₄⟩, fun ⟨h₁, h₂, h₃, h₄⟩ => ⟨h₁, h₂, h₃, h₄⟩⟩

variable {s : Scheme}

theorem mem_of_named? {name : String} {f : Field} (h : s.named? name = some f) :
    f ∈ s.fields ∧ f.name = name := by
  have hname := List.find?_some h
  exact ⟨List.mem_reverse.1 (List.mem_of_find?_eq_some h), by simpa using hname⟩

/-- Two fields of one name are one field.  So a filter is known by its name. -/
theorem Plain.eq_of_name_eq (hs : s.Plain) {f g : Field} (hf : f ∈ s.fields) (hg : g ∈ s.fields)
    (h : f.name = g.name) : f = g :=
  List.inj_on_of_nodup_map hs.nodup hf hg h

/-- **A name stands for the one field that has it.**  Otherwise the last field of the name hides the
others. -/
theorem Plain.named?_eq_some_iff (hs : s.Plain) {name : String} {f : Field} :
    s.named? name = some f ↔ f ∈ s.fields ∧ f.name = name := by
  refine ⟨mem_of_named?, ?_⟩
  rintro ⟨hf, rfl⟩
  cases hn : s.named? f.name with
  | none =>
    have hnone := List.find?_eq_none.1 hn f (List.mem_reverse.2 hf)
    simp at hnone
  | some g =>
    obtain ⟨hg, hname⟩ := mem_of_named? hn
    rw [hs.eq_of_name_eq hg hf hname]

theorem Plain.named?_groupKey (hs : s.Plain) : s.named? s.groupKey = none := by
  rw [Option.eq_none_iff_forall_ne_some]
  intro f h
  obtain ⟨hf, hname⟩ := mem_of_named? h
  exact hs.name_ne f hf hname

/-- Parameters are told apart by the names of fields.  The look-up by the names of parameters finds
nothing first. -/
theorem Plain.fieldOf?_eq_named? (hs : s.Plain) (key : String) : s.fieldOf? key = s.named? key := by
  have hnone : s.keyed? key = none := by
    rw [keyed?, List.find?_eq_none]
    intro f hf
    simp [hs.no_key f (List.mem_reverse.1 hf)]
  rw [fieldOf?, hnone]
  rfl

end Scheme

end UrlFilter
