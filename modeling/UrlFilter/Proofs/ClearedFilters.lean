import UrlFilter.Proofs.Condition
import UrlFilter.Proofs.RoundTrip

namespace UrlFilter

open Reading
open Condition (substringPattern)

/-!
# Cleared filters

A filter whose value is not set is not written, and it makes no condition.  What is read instead is
the value that its field starts with, if the field is always on.

* `Writing.collect_filter_given` — filters without a value are not written.
* `Part.ofFilter_filter` — what a part makes.
* `Scheme.readConditions` — the conditions of the filters that parameters make.
* `Field.StartsIdle` — a field that starts with a value that makes no condition.
* `Field.startConditions` — the conditions that fields start with.
* `Scheme.Plain.conditions_read_back` — the conditions of filters that were written and read.
-/

/-! ### Filters without a value -/

/-- Filters without a value are not written.  It makes no difference whether they are given at
all. -/
theorem Writing.collect_filter_given (filters : List Filter) (base : Params) :
    collect (filters.filter fun f => !f.value.isUnset) base = collect filters base := by
  -- By induction on the filters, whatever parameters are there before.
  induction filters generalizing base with
  | nil => rfl
  | cons f filters ih =>
    rw [List.filter_cons, collect]
    by_cases hunset : f.value.isUnset = true
    · -- What is written skips the filter, which is not in the other list at all.
      rw [if_neg (by simp [hunset]), if_pos hunset, ih]
    · rw [if_pos (by simp [hunset]), collect, if_neg hunset, if_neg hunset]
      simp only [ih]

variable {pattern : String → String}

/-- A part makes its conditions without an error.  A part has settings, and the bounds of a range
are two. -/
theorem Part.ofFilter_filter {s : Scheme} (part : Part s) :
    Condition.ofFilter pattern part.filter = .ok (part.filter.conditions pattern) := by
  cases part with
  | value v =>
    exact Filter.ofFilter_eq_conditions (Condition.ofFilter_of_ne_between pattern rfl v.operator_ne)
  | range r =>
    exact Filter.ofFilter_eq_conditions (Condition.ofFilter_of_between pattern rfl rfl rfl)

/-- A filter with a value that reading can give makes its conditions without an error.  Only its
identifier is not that of a part. -/
theorem Filter.Readable.ofFilter_eq {s : Scheme} {f : Filter} (h : f.Readable s) :
    Condition.ofFilter pattern f = .ok (f.conditions pattern) := by
  obtain ⟨part, hpart⟩ := h.exists_part
  -- The identifier has no part in the conditions.
  have hsame : Condition.ofFilter pattern f.unnamed = Condition.ofFilter pattern f := rfl
  have hmade : Condition.ofFilter pattern part.filter = .ok (part.filter.conditions pattern) :=
    part.ofFilter_filter
  rw [hpart, hsame] at hmade
  exact ofFilter_eq_conditions hmade

/-! ### Fields that start by themselves -/

/-- The field starts with a value that makes a filter, and no condition.  Such a field can be
cleared and read again without a trace. -/
def Field.StartsIdle (pattern : String → String) (c : Field) : Prop :=
  ∃ f, Filter.start c = .ok f ∧ Condition.ofFilter pattern f = .ok []

/-- The conditions of the filters that fields start with.  There is an error if one of them does not
start. -/
def Field.startConditions (pattern : String → String) (fields : List Field) :
    Except Error (List Condition) := do
  Condition.ofFilters pattern none (← fields.mapM Filter.start)

/-- Fields make no conditions by themselves exactly if each one starts idle.  Conditions do not
cancel each other. -/
theorem Field.startConditions_eq_nil_iff {fields : List Field} :
    Field.startConditions pattern fields = .ok [] ↔ ∀ c ∈ fields, c.StartsIdle pattern := by
  unfold startConditions
  constructor
  · intro hnil c hc
    obtain ⟨always, halways, hnil⟩ := exists_of_bind_eq_ok hnil
    obtain ⟨f, hf, hstart⟩ := exists_mem_of_mapM halways hc
    obtain ⟨made, hmade⟩ := Condition.exists_ofFilter_of_ofFilters hnil hf rfl
    refine ⟨f, hstart, ?_⟩
    -- A condition of one field would be a condition of all.
    rw [hmade, Except.ok.injEq, List.eq_nil_iff_forall_not_mem]
    intro d hd
    exact List.not_mem_nil ((Condition.mem_ofFilters_iff hnil).2 ⟨f, hf, rfl, made, hmade, hd⟩)
  · intro hidle
    obtain ⟨always, halways⟩ : ∃ always, fields.mapM Filter.start = .ok always :=
      exists_mapM_eq_ok_iff.2 fun c hc => (hidle c hc).imp fun _ h => h.1
    have hnone : ∀ f ∈ always, Condition.ofFilter pattern f = .ok [] := by
      intro f hf
      obtain ⟨c, hc, hstart⟩ := exists_of_mem_mapM halways hf
      obtain ⟨g, hg, hnil⟩ := hidle c hc
      obtain rfl := Except.ok.inj (hstart.symm.trans hg)
      exact hnil
    have hmade : ∀ f ∈ always, Condition.ofFilter pattern f = .ok (f.conditions pattern) :=
      fun f hf => Filter.ofFilter_eq_conditions (hnone f hf)
    rw [halways]
    refine (Condition.ofFilters_eq hmade).trans (congrArg _ ?_)
    rw [List.flatMap_eq_nil_iff]
    exact fun f hf => Filter.conditions_of_eq_ok (hnone f hf)

/-! ### Writing and reading -/

namespace Scheme

/-- The conditions of the filters that parameters make.  They are what a backend is asked. -/
def readConditions (s : Scheme) (pattern : String → String) (p : Params) :
    Except Error (List Condition) := do
  Condition.ofFilters pattern none (← s.read p).filters

/-- The fields that reading fills again: those that are always on, without a filter that has a
value.  A filter without a value does not keep its field from starting again. -/
def refilled (s : Scheme) (filters : List Filter) : List Field :=
  s.absent ((filters.filter fun f => !f.value.isUnset).map Filter.field)

variable {s : Scheme}

/-- **What is read of filters that were written,** some of which have no value: the filters with
one, in some order and but for their identifiers, and those that the refilled fields start with.  A
filter without a value leaves no trace in the parameters. -/
theorem Plain.exists_read_given (hs : s.Plain) {filters : List Filter}
    (hnd : (filters.map Filter.field).Nodup)
    (hfilters : ∀ f ∈ filters, f.Readable s ∨ f.value.isUnset = true) :
    ∃ p front, Writing.params s.groupKey filters .empty = .ok p ∧
      front.Perm ((filters.filter fun f => !f.value.isUnset).map Filter.unnamed) ∧
      s.read p = ((s.refilled filters).mapM Filter.start).map fun always =>
        ⟨front ++ always, .empty⟩ := by
  have hread : ∀ f ∈ filters.filter fun f => !f.value.isUnset, f.Readable s := by
    intro f hf
    obtain ⟨hmem, hset⟩ := List.mem_filter.1 hf
    exact (hfilters f hmem).resolve_right (by simpa using hset)
  -- What has a value can be read, and is made of parts.
  obtain ⟨parts, hparts⟩ := Filter.exists_parts hread
  have hname : parts.map Part.name
      = (filters.filter fun f => !f.value.isUnset).map Filter.field := by
    rw [← Part.map_field_filter, hparts, List.map_map]
    rfl
  have hnd' : (parts.map Part.name).Nodup := by
    rw [hname]
    exact hnd.sublist (List.filter_sublist.map _)
  obtain ⟨p, hparams, hp⟩ := hs.read_parts hnd'
  have hwrite : Writing.params s.groupKey filters .empty = .ok p := by
    rw [hparts, Writing.params, Writing.collect_map_unnamed,
      Writing.collect_filter_given] at hparams
    exact hparams
  rw [hname, ← refilled] at hp
  refine ⟨p, _, hwrite, ?_, hp⟩
  rw [← hparts]
  exact (Part.map_perm Part.filter parts).symm

/-- What stands behind some items leaves them the same only if it is nothing.  The order of the
items does not matter, and neither does where they stand. -/
theorem exists_append_perm_iff {α : Type} {made : Except Error (List α)} {front own : List α}
    (h : front.Perm own) :
    (∃ all, made.map (front ++ ·) = .ok all ∧ all.Perm own) ↔ made = .ok [] := by
  constructor
  · rintro ⟨all, heq, hperm⟩
    cases made with
    | error e => exact absurd heq (by simp [Except.map])
    | ok more =>
      obtain rfl : front ++ more = all := Except.ok.inj heq
      -- Equally many items on both sides leave none for what stands behind.
      have hlength := (hperm.trans h.symm).length_eq
      rw [List.length_append] at hlength
      rw [List.length_eq_zero_iff.1 (by omega : more.length = 0)]
  · rintro rfl
    exact ⟨front ++ [], rfl, by rwa [List.append_nil]⟩

/-- **The conditions of filters that were written and read,** some of which have no value.  They are
those that the filters make, in some order, and behind them those that the refilled fields start
with.  So the conditions stay the same exactly if each refilled field starts with a value that makes
none. -/
theorem Plain.conditions_read_back (hs : s.Plain) {filters : List Filter}
    (hnd : (filters.map Filter.field).Nodup)
    (hfilters : ∀ f ∈ filters, f.Readable s ∨ f.value.isUnset = true) :
    ∃ p own back, Writing.params s.groupKey filters .empty = .ok p ∧
      Condition.ofFilters pattern none filters = .ok own ∧ back.Perm own ∧
      s.readConditions pattern p
        = (Field.startConditions pattern (s.refilled filters)).map (back ++ ·) ∧
      ((∃ again, s.readConditions pattern p = .ok again ∧ again.Perm own) ↔
        ∀ c ∈ s.refilled filters, c.StartsIdle pattern) := by
  obtain ⟨p, front, hparams, hfront, hread⟩ := hs.exists_read_given hnd hfilters
  have hmade : ∀ f ∈ filters, Condition.ofFilter pattern f = .ok (f.conditions pattern) := by
    intro f hf
    rcases hfilters f hf with hreadable | hunset
    · exact hreadable.ofFilter_eq
    · exact Filter.ofFilter_eq_conditions
        (Filter.ofFilter_of_isEmpty (Value.isEmpty_of_isUnset hunset))
  -- What is read makes the conditions of the filters that were written, since identifiers do not
  -- matter.
  have hback : Condition.ofFilters pattern none front
      = .ok (front.flatMap (Filter.conditions pattern)) := by
    refine Condition.ofFilters_eq fun g hg => ?_
    obtain ⟨f, hf, rfl⟩ := List.mem_map.1 (hfront.mem_iff.1 hg)
    exact hmade f (List.mem_of_mem_filter hf)
  have hperm : (front.flatMap (Filter.conditions pattern)).Perm
      (filters.flatMap (Filter.conditions pattern)) := by
    rw [← Filter.flatMap_conditions_given filters]
    refine (hfront.flatMap_right _).trans (.of_eq ?_)
    rw [List.flatMap_map]
    rfl
  have hagain : s.readConditions pattern p
      = (Field.startConditions pattern (s.refilled filters)).map
        (front.flatMap (Filter.conditions pattern) ++ ·) := by
    rw [readConditions, hread, Field.startConditions]
    cases (s.refilled filters).mapM Filter.start with
    | error e => rfl
    | ok always => exact Condition.ofFilters_append hback
  refine ⟨p, _, _, hparams, Condition.ofFilters_eq hmade, hperm, hagain, ?_⟩
  rw [hagain, exists_append_perm_iff hperm, Field.startConditions_eq_nil_iff]

end Scheme

/-- The date of sending, since the beginning of a year unless other dates are asked for. -/
def Field.sent : Field :=
  { Field.ofKind .dateRange "sent" with
    alwaysOn := true, defaultValue := .tuple [.text "2024-01-01"] }

/-- Mail has a subject and a date of sending.  The date is always on. -/
def Scheme.mail : Scheme where
  fields := [.ofKind .text "subject", .sent]

/-- Mail with a subject, whose date was cleared.  A user has removed the dates from the form. -/
def Filter.ofMail : List Filter :=
  [⟨"sent", .between, .null, some .sent, "1"⟩,
    ⟨"subject", .ilike, .text "a,b", some (.ofKind .text "subject"), "2"⟩]

/-- The subject is read again, and the date starts again. -/
theorem Scheme.mail_conditions_read_back :
    ∃ p own again, Writing.params "and" Filter.ofMail .empty = .ok p ∧
      Condition.ofFilters substringPattern none Filter.ofMail = .ok own ∧
      Scheme.mail.readConditions substringPattern p = .ok again ∧
      again.Perm (⟨"sent", .gte, .text "2024-01-01"⟩ :: own) ∧
      ¬ ∀ c ∈ Scheme.mail.refilled Filter.ofMail, c.StartsIdle substringPattern := by
  have hs : Scheme.mail.Plain := by decide
  have hnd : (Filter.ofMail.map Filter.field).Nodup := by decide
  have hfilters : ∀ f ∈ Filter.ofMail, f.Readable Scheme.mail ∨ f.value.isUnset = true := by
    simp only [Filter.ofMail, List.forall_mem_cons, List.not_mem_nil, false_implies, implies_true,
      and_true]
    exact ⟨.inr rfl, .inl ⟨.ofKind .text "subject", List.mem_cons_self, rfl, rfl,
      .inl ⟨rfl, rfl, ⟨rfl, fun _ => rfl, by simp⟩, rfl⟩⟩⟩
  obtain ⟨p, own, back, hparams, hown, hback, hread, hsame⟩ :=
    hs.conditions_read_back hnd hfilters
  -- The only field that is refilled is the date.
  have hstart : Field.startConditions substringPattern (Scheme.mail.refilled Filter.ofMail)
      = .ok [⟨"sent", .gte, .text "2024-01-01"⟩] := rfl
  have hagain : Scheme.mail.readConditions substringPattern p
      = .ok (back ++ [⟨"sent", .gte, .text "2024-01-01"⟩]) := by
    rw [hread, hstart]
    rfl
  refine ⟨p, own, _, hparams, hown, hagain, ?_, ?_⟩
  · exact (List.perm_append_singleton _ _).trans (hback.cons _)
  · rw [← hsame]
    rintro ⟨again, heq, hperm⟩
    obtain rfl := Except.ok.inj (hagain.symm.trans heq)
    have hlength := (hperm.trans hback.symm).length_eq
    simp at hlength

/-- Even where every field that is always on has a filter, and values are not set or can be read,
the conditions need not stay the same. -/
theorem Scheme.mail_conditions_change :
    ¬ ∀ (s : Scheme) (filters : List Filter), s.Plain → (filters.map Filter.field).Nodup →
      (∀ c ∈ s.fields, c.alwaysOn = true → ∃ f ∈ filters, f.field = c.name) →
      (∀ f ∈ filters, f.Readable s ∨ ∃ c ∈ s.fields, f.config = some c ∧ f.field = c.name ∧
        (f.operator = .between ↔ c.kind.isRange = true) ∧ f.value.isUnset = true) →
      ∃ p own again, Writing.params s.groupKey filters .empty = .ok p ∧
        Condition.ofFilters substringPattern none filters = .ok own ∧
        s.readConditions substringPattern p = .ok again ∧ again.Perm own := by
  intro h
  have hcleared : ∀ f ∈ [(⟨"sent", .between, .null, some .sent, "1"⟩ : Filter)],
      f.Readable Scheme.mail ∨ ∃ c ∈ Scheme.mail.fields, f.config = some c ∧ f.field = c.name ∧
        (f.operator = .between ↔ c.kind.isRange = true) ∧ f.value.isUnset = true := by
    intro f hf
    obtain rfl := List.mem_singleton.1 hf
    exact .inr ⟨.sent, by simp [Scheme.mail], rfl, rfl, by decide, rfl⟩
  obtain ⟨p, own, again, hparams, hown, hagain, hperm⟩ := h Scheme.mail
    [⟨"sent", .between, .null, some .sent, "1"⟩] (by decide) (by decide) (by decide) hcleared
  -- Nothing is written, and the date starts again.
  obtain rfl : Params.empty = p := Except.ok.inj hparams
  obtain rfl : [] = own := Except.ok.inj hown
  have hread : Scheme.mail.readConditions substringPattern .empty
      = .ok [⟨"sent", .gte, .text "2024-01-01"⟩] := rfl
  obtain rfl := Except.ok.inj (hread.symm.trans hagain)
  exact absurd hperm.length_eq (by decide)

end UrlFilter
