import Mathlib.Data.List.ReduceOption
import UrlFilter.Proofs.Fallible
import UrlFilter.Reading

namespace UrlFilter.Reading

/-!
# The first parameter of each field

Of several parameters of a field only the first one is looked at.

* `fieldEntries` — the parameters of fields.
* `firstOfEach` — the first parameter of each field, and `mem_firstOfEach_iff`, which one it is.
* `directFrom_eq_map` — the filters of the parameters of fields are those of the first ones.
-/

variable {s : Scheme}

/-- The parameters of fields, each with its field.  Entries of no field are left out, and the order
stays. -/
def fieldEntries (s : Scheme) (entries : List (String × Value)) : List (Field × Value) :=
  entries.filterMap fun e => (s.fieldOf? e.1).map fun c => (c, e.2)

/-- The parameters of fields are the entries whose keys are of fields.  One field may have several
keys, and so several parameters. -/
theorem mem_fieldEntries_iff {entries : List (String × Value)} {e : Field × Value} :
    e ∈ fieldEntries s entries ↔ ∃ key, s.fieldOf? key = some e.1 ∧ (key, e.2) ∈ entries := by
  rw [fieldEntries, List.mem_filterMap]
  constructor
  · rintro ⟨d, hd, he⟩
    obtain ⟨c, hc, rfl⟩ := Option.map_eq_some_iff.1 he
    exact ⟨d.1, hc, hd⟩
  · rintro ⟨key, hfield, hmem⟩
    exact ⟨_, hmem, by rw [hfield, Option.map_some]⟩

/-- Entries whose keys are of no field hold no parameters of fields. -/
theorem fieldEntries_eq_nil {entries : List (String × Value)}
    (h : ∀ e ∈ entries, s.fieldOf? e.1 = none) : fieldEntries s entries = [] := by
  rw [fieldEntries, List.filterMap_eq_nil_iff]
  intro e he
  rw [h e he, Option.map_none]

/-- The first parameter of each field that was not seen before.  Fields are told apart by their
names. -/
def firstOfEach (seen : List String) : List (Field × Value) → List (Field × Value)
  | [] => []
  | e :: entries =>
    if e.1.name ∈ seen then firstOfEach seen entries
    else e :: firstOfEach (e.1.name :: seen) entries

/-- **The first parameter of a field** is the first one of its name, unless the name was seen. -/
theorem mem_firstOfEach_iff {seen : List String} {entries : List (Field × Value)}
    {e : Field × Value} :
    e ∈ firstOfEach seen entries
      ↔ e.1.name ∉ seen ∧ entries.find? (fun d => d.1.name == e.1.name) = some e := by
  induction entries generalizing seen with
  | nil => simp [firstOfEach]
  | cons d entries ih =>
    rw [firstOfEach]
    by_cases hname : d.1.name = e.1.name
    · -- Behind the first parameter of the name no other one counts.
      rw [List.find?_cons_of_pos (by simpa using hname), Option.some_inj, ← hname]
      by_cases hold : d.1.name ∈ seen
      · simp [hold, ih, ← hname]
      · simp [hold, ih, ← hname, eq_comm]
    · have hne : e ≠ d := fun h => hname (h ▸ rfl)
      rw [List.find?_cons_of_neg (by simpa using hname)]
      by_cases hold : d.1.name ∈ seen
      · rw [if_pos hold, ih]
      · rw [if_neg hold, List.mem_cons, or_iff_right hne, ih, List.mem_cons, not_or,
          and_iff_right (Ne.symm hname)]

theorem mem_of_mem_firstOfEach {seen : List String} {entries : List (Field × Value)}
    {e : Field × Value} (h : e ∈ firstOfEach seen entries) : e ∈ entries :=
  List.mem_of_find?_eq_some (mem_firstOfEach_iff.1 h).2

/-- No field has two first parameters.  Its name counts as seen behind the first. -/
theorem nodup_firstOfEach (seen : List String) (entries : List (Field × Value)) :
    ((firstOfEach seen entries).map fun e => e.1.name).Nodup := by
  induction entries generalizing seen with
  | nil => exact List.nodup_nil
  | cons e entries ih =>
    unfold firstOfEach
    split
    · exact ih seen
    · rw [List.map_cons, List.nodup_cons]
      refine ⟨fun hmem => ?_, ih _⟩
      obtain ⟨d, hd, hname⟩ := List.mem_map.1 hmem
      exact (mem_firstOfEach_iff.1 hd).1 (by simp [hname])

/-- Parameters of different fields that were not seen are first ones.  Nothing is left out then. -/
theorem firstOfEach_eq_self {seen : List String} {entries : List (Field × Value)}
    (hnd : (entries.map fun e => e.1.name).Nodup) (hnew : ∀ e ∈ entries, e.1.name ∉ seen) :
    firstOfEach seen entries = entries := by
  induction entries generalizing seen with
  | nil => rfl
  | cons e entries ih =>
    rw [List.map_cons, List.nodup_cons] at hnd
    rw [List.forall_mem_cons] at hnew
    -- The names that follow are new to the first one too.
    have hrest : ∀ d ∈ entries, d.1.name ∉ e.1.name :: seen := by
      intro d hd
      rw [List.mem_cons, not_or]
      exact ⟨fun h => hnd.1 (List.mem_map.2 ⟨d, hd, h⟩), hnew.2 d hd⟩
    rw [firstOfEach, if_neg hnew.1, ih hnd.2 hrest]

/-- Each field that has a parameter was seen or has a first one.  So no field that is asked for
starts by itself. -/
theorem mem_seen_or_mem_firstOfEach {seen : List String} {entries : List (Field × Value)}
    {e : Field × Value} (h : e ∈ entries) :
    e.1.name ∈ (firstOfEach seen entries).map (fun e => e.1.name) ∨ e.1.name ∈ seen := by
  by_cases hold : e.1.name ∈ seen
  · exact .inr hold
  · -- The first parameter of its name may be another one than the given.
    obtain ⟨d, hd⟩ : ∃ d, entries.find? (fun d => d.1.name == e.1.name) = some d := by
      rw [← Option.isSome_iff_exists, List.find?_isSome]
      exact ⟨e, h, by simp⟩
    have hname : d.1.name = e.1.name := by simpa using List.find?_some hd
    exact .inl (List.mem_map.2 ⟨d, mem_firstOfEach_iff.2 (by rw [hname]; exact ⟨hold, hd⟩), hname⟩)

/-- **The filters of the parameters of fields** are those of the first parameter of each field, in
order, and the fields of these count as seen. -/
theorem directFrom_eq_map (s : Scheme) (seen : List String) (entries : List (String × Value)) :
    directFrom s seen entries
      = ((firstOfEach seen (fieldEntries s entries)).mapM fun e => direct? e.1 e.2).map
          fun made => (made.reduceOption,
            ((firstOfEach seen (fieldEntries s entries)).map fun e => e.1.name).reverse
              ++ seen) := by
  -- By induction on the entries, for all names that were seen before.
  induction entries generalizing seen with
  | nil => rfl
  | cons e entries ih =>
    rw [directFrom, fieldEntries, List.filterMap_cons, ← fieldEntries]
    cases hfield : s.fieldOf? e.1 with
    | none => exact ih seen
    | some c =>
      -- A field that was seen is skipped on both sides; any other one is made first.
      by_cases hold : c.name ∈ seen
      · simp only [Option.map_some, firstOfEach, hold, if_true, List.contains_eq_mem, decide_true]
        exact ih seen
      · simp only [Option.map_some, firstOfEach, hold, if_false, List.contains_eq_mem,
          decide_false, Bool.false_eq_true, ih, List.mapM_cons]
        cases direct? c e.2 with
        | error e => rfl
        | ok made =>
          cases (firstOfEach (c.name :: seen) (fieldEntries s entries)).mapM
              (fun e => direct? e.1 e.2) with
          | error e => rfl
          | ok rest =>
            cases made <;> simp [bind, Except.bind, Except.map, pure, Except.pure]

end UrlFilter.Reading
