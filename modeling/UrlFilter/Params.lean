import UrlFilter.Value.Basic

namespace UrlFilter

/-!
# Parameters

* `Params` — the parameters of a URL: values by key, in the order in which the keys first came.
* `Params.insert` — gives a key a value; a key that is there already keeps its place.
* `Params.erase`, `Params.get?` — removal and look-up.
-/

/-- Values by key, in order.  No key comes twice, which the structure guarantees. -/
structure Params where
  entries : List (String × Value)
  nodup : (entries.map Prod.fst).Nodup
  deriving Repr

namespace Params

/-- The keys in order.  A reader goes through them from first to last. -/
def keys (p : Params) : List String :=
  p.entries.map Prod.fst

/-- No parameters. -/
def empty : Params :=
  ⟨[], List.nodup_nil⟩

instance : Inhabited Params := ⟨empty⟩

/-- There are no parameters. -/
def isEmpty (p : Params) : Bool :=
  p.entries.isEmpty

/-- The value of a key.  There is at most one. -/
def get? (p : Params) (key : String) : Option Value :=
  p.entries.lookup key

/-- The key has a value.  The value may be the absent one. -/
def contains (p : Params) (key : String) : Bool :=
  (p.get? key).isSome

/-! ### Insertion -/

/-- The entries with a value for a key, in its place or at the end.  All other entries stay as they
are. -/
def insertEntry (key : String) (v : Value) : List (String × Value) → List (String × Value)
  | [] => [(key, v)]
  | e :: es => if e.1 = key then (key, v) :: es else e :: insertEntry key v es

theorem keys_insertEntry (key : String) (v : Value) (es : List (String × Value)) :
    (insertEntry key v es).map Prod.fst
      = if key ∈ es.map Prod.fst then es.map Prod.fst else es.map Prod.fst ++ [key] := by
  induction es with
  | nil => simp [insertEntry]
  | cons e es ih =>
    by_cases h : e.1 = key
    · simp [insertEntry, h]
    · have h' : key ≠ e.1 := fun he => h he.symm
      simp only [insertEntry, h, if_false, List.map_cons, ih, List.mem_cons, h', false_or]
      split <;> simp

theorem nodup_insertEntry {key : String} {v : Value} {es : List (String × Value)}
    (h : (es.map Prod.fst).Nodup) : ((insertEntry key v es).map Prod.fst).Nodup := by
  rw [keys_insertEntry]
  split
  · exact h
  · next hk =>
    refine List.nodup_append.2 ⟨h, by simp, ?_⟩
    intro a ha b hb
    simp only [List.mem_singleton] at hb
    exact fun he => hk (hb ▸ he ▸ ha)

/-- The parameters with a value for a key.  This is how filters are written, one after another. -/
def insert (p : Params) (key : String) (v : Value) : Params :=
  ⟨insertEntry key v p.entries, nodup_insertEntry p.nodup⟩

theorem lookup_cons (key other : String) (v : Value) (es : List (String × Value)) :
    ((key, v) :: es).lookup other = if other = key then some v else es.lookup other := by
  rw [List.lookup_cons]
  by_cases h : other = key
  · simp [h]
  · simp [h, beq_false_of_ne h]

theorem lookup_insertEntry (key other : String) (v : Value) (es : List (String × Value)) :
    (insertEntry key v es).lookup other = if other = key then some v else es.lookup other := by
  induction es with
  | nil => rw [insertEntry, lookup_cons]
  | cons e es ih =>
    obtain ⟨k, w⟩ := e
    by_cases h : k = key
    · subst h
      simp only [insertEntry, if_true, lookup_cons]
      split <;> rfl
    · simp only [insertEntry, h, if_false, lookup_cons, ih]
      by_cases h' : other = k
      · simp [h', h]
      · simp [h']

@[simp] theorem get?_insert (p : Params) (key other : String) (v : Value) :
    (p.insert key v).get? other = if other = key then some v else p.get? other :=
  lookup_insertEntry key other v p.entries

@[simp] theorem keys_insert (p : Params) (key : String) (v : Value) :
    (p.insert key v).keys = if key ∈ p.keys then p.keys else p.keys ++ [key] :=
  keys_insertEntry key v p.entries

/-- The parameters of a list of entries, of which the last one of a key counts.  A key keeps the
place where it first came. -/
def ofList (entries : List (String × Value)) : Params :=
  entries.foldl (fun p e => p.insert e.1 e.2) empty

/-! ### Removal -/

/-- The parameters whose keys satisfy a test.  The order of what is kept does not change. -/
def filterKeys (p : Params) (keep : String → Bool) : Params :=
  ⟨p.entries.filter fun e => keep e.1, p.nodup.sublist (List.filter_sublist.map _)⟩

/-- The parameters without a key.  Nothing happens if the key is not there. -/
def erase (p : Params) (key : String) : Params :=
  p.filterKeys (· != key)

theorem lookup_filter (keep : String → Bool) (key : String) (es : List (String × Value)) :
    (es.filter fun e => keep e.1).lookup key = if keep key then es.lookup key else none := by
  induction es with
  | nil => simp
  | cons e es ih =>
    obtain ⟨k, w⟩ := e
    by_cases h : key = k
    · subst h
      by_cases hk : keep key = true
      · simp [hk]
      · simpa [hk] using ih
    · by_cases hk : keep k = true
      · simp only [List.filter_cons, hk, if_true, lookup_cons, h, if_false, ih]
      · simp only [List.filter_cons, hk, lookup_cons, h, if_false]
        exact ih

@[simp] theorem get?_filterKeys (p : Params) (keep : String → Bool) (key : String) :
    (p.filterKeys keep).get? key = if keep key then p.get? key else none :=
  lookup_filter keep key p.entries

@[simp] theorem get?_erase (p : Params) (key other : String) :
    (p.erase key).get? other = if other = key then none else p.get? other := by
  simp only [erase, get?_filterKeys]
  by_cases h : other = key <;> simp [h]

end Params

end UrlFilter
