import Mathlib.Data.List.Nodup
import UrlFilter.Params

namespace UrlFilter.Params

/-!
# Entries of parameters

* `get?_eq_some_iff` — a key has the value of its one entry.
* `insertEntry_of_not_mem`, `filter_ne_insertEntry` — what an insertion adds, and what it keeps.
* `entries_foldl_insert` — new keys go to the end.
* `Same` — parameters with the same values, in whatever order; `same_of_perm`, `Same.perm_entries`.
-/

@[ext] theorem ext {p q : Params} (h : p.entries = q.entries) : p = q := by
  cases p
  cases q
  simpa using h

/-! ### Look-up -/

/-- Among different keys, a key has the value of its one entry.  Look-up and membership say the same
then. -/
theorem lookup_eq_some_iff_mem {entries : List (String × Value)}
    (hnd : (entries.map Prod.fst).Nodup) {key : String} {v : Value} :
    entries.lookup key = some v ↔ (key, v) ∈ entries := by
  induction entries with
  | nil => simp
  | cons e entries ih =>
    obtain ⟨k, w⟩ := e
    rw [List.map_cons, List.nodup_cons] at hnd
    rw [lookup_cons, List.mem_cons, Prod.mk.injEq]
    -- No later entry has the key of the first one.
    by_cases h : key = k
    · subst h
      have hmem : (key, v) ∉ entries := fun hm => hnd.1 (List.mem_map.2 ⟨_, hm, rfl⟩)
      simp [hmem, eq_comm]
    · rw [if_neg h, ih hnd.2]
      simp [h]

theorem get?_eq_some_iff {p : Params} {key : String} {v : Value} :
    p.get? key = some v ↔ (key, v) ∈ p.entries :=
  lookup_eq_some_iff_mem p.nodup

theorem get?_eq_none_iff {p : Params} {key : String} : p.get? key = none ↔ key ∉ p.keys := by
  rw [get?, List.lookup_eq_none_iff, keys, List.mem_map]
  constructor
  · rintro h ⟨e, he, rfl⟩
    simpa using h e he
  · intro h e he
    rw [bne_iff_ne]
    rintro rfl
    exact h ⟨e, he, rfl⟩

/-- Where no key is kept, no parameters are.  It is enough to look at the entries. -/
theorem filterKeys_eq_empty {p : Params} {keep : String → Bool}
    (h : ∀ e ∈ p.entries, keep e.1 = false) : p.filterKeys keep = empty := by
  ext1
  show p.entries.filter (fun e => keep e.1) = []
  rw [List.filter_eq_nil_iff]
  intro e he
  simp [h e he]

/-! ### Insertion -/

/-- A new key goes to the end.  The entries that are there keep their places. -/
theorem insertEntry_of_not_mem {key : String} {entries : List (String × Value)}
    (h : key ∉ entries.map Prod.fst) (v : Value) :
    insertEntry key v entries = entries ++ [(key, v)] := by
  induction entries with
  | nil => rfl
  | cons e entries ih =>
    rw [List.map_cons, List.mem_cons, not_or] at h
    rw [insertEntry, if_neg (Ne.symm h.1), ih h.2, List.cons_append]

/-- An insertion touches the entry of its key only. -/
theorem filter_ne_insertEntry (key : String) (v : Value) (entries : List (String × Value)) :
    (insertEntry key v entries).filter (fun e => e.1 != key)
      = entries.filter fun e => e.1 != key := by
  induction entries with
  | nil => simp [insertEntry]
  | cons e entries ih =>
    unfold insertEntry
    split
    · next heq => rw [List.filter_cons_of_neg (by simp), List.filter_cons_of_neg (by simp [heq])]
    · rw [List.filter_cons, List.filter_cons, ih]

/-- Several insertions touch the entries of their keys only. -/
theorem get?_foldl_insert_of_ne {entries : List (String × Value)} {key : String}
    (h : ∀ e ∈ entries, e.1 ≠ key) (base : Params) :
    (entries.foldl (fun p e => p.insert e.1 e.2) base).get? key = base.get? key := by
  induction entries generalizing base with
  | nil => rfl
  | cons e entries ih =>
    have hne : key ≠ e.1 := (h e (by simp)).symm
    rw [List.foldl_cons, ih fun d hd => h d (by simp [hd]), get?_insert, if_neg hne]

/-- New keys go to the end, in order.  This is how parameters are written into others. -/
theorem entries_foldl_insert {base : Params} {entries : List (String × Value)}
    (hnd : (entries.map Prod.fst).Nodup) (hnew : ∀ e ∈ entries, e.1 ∉ base.keys) :
    (entries.foldl (fun p e => p.insert e.1 e.2) base).entries = base.entries ++ entries := by
  induction entries generalizing base with
  | nil => simp
  | cons e entries ih =>
    rw [List.map_cons, List.nodup_cons] at hnd
    have hinsert : (base.insert e.1 e.2).entries = base.entries ++ [e] :=
      insertEntry_of_not_mem (hnew e (by simp)) e.2
    -- The keys that follow are new to the first entry too.
    have hrest : ∀ d ∈ entries, d.1 ∉ (base.insert e.1 e.2).keys := by
      intro d hd
      rw [keys, hinsert, List.map_append, List.mem_append, not_or]
      refine ⟨hnew d (by simp [hd]), ?_⟩
      have hne : d.1 ≠ e.1 := fun h => hnd.1 (List.mem_map.2 ⟨d, hd, h⟩)
      simpa using hne
    rw [List.foldl_cons, ih hnd.2 hrest, hinsert, List.append_assoc, List.singleton_append]

/-! ### Order -/

/-- The same keys with the same values, in whatever order.  A query string does not tell two such
parameters apart once it is sorted. -/
def Same (p q : Params) : Prop :=
  ∀ key, p.get? key = q.get? key

/-- Parameters whose entries differ in their order only have the same values.  A key has at most one
value in either. -/
theorem same_of_perm {p q : Params} (h : p.entries.Perm q.entries) : Same p q := by
  intro key
  apply Option.ext
  intro v
  rw [get?_eq_some_iff, get?_eq_some_iff, h.mem_iff]

/-- The entries of parameters with the same values differ in their order only.  Each entry of one is
an entry of the other, and none comes twice. -/
theorem Same.perm_entries {p q : Params} (h : Same p q) : p.entries.Perm q.entries := by
  rw [List.perm_ext_iff_of_nodup p.nodup.of_map q.nodup.of_map]
  rintro ⟨key, v⟩
  rw [← get?_eq_some_iff, ← get?_eq_some_iff, h key]

end UrlFilter.Params
