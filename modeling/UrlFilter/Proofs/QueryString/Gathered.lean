import UrlFilter.Proofs.QueryString

namespace UrlFilter.QueryString

open UrlFilter.Text

/-!
# Repeated keys read back

What is read of a query string comes back from the query string that is written of it, unless its
first key starts with a question mark.

* `gather`, `textsOf` — the value that the texts of a key make, and the texts of a value.
* `get?_toParams` — each key has the texts of its pairs.
* `pairsOf` — the keys and values that parameters are written as.
* `Gathered` — each key has the value that texts make, as in what is read.
* `IsFirst` — the key that is written first.
* `toParams_ofParams_toParams` — when the parameters of a query string come back, and what a
  question mark changes.
* `same_toParams_ofParams_iff`, `exists_lost_key` — the same for parameters with single texts.
-/

/-! ### The texts of a key -/

/-- The value that the texts of a key make: a single one stands for itself, several make a list.  No
text makes no value, so a key without texts is not there. -/
def gather : List String → Option Value
  | [] => none
  | [text] => some (.text text)
  | texts => some (.list (texts.map .text))

/-- The texts that a value is written as.  A list has one text for each of its values and any other
value has one text. -/
def textsOf (v : Option Value) : List String :=
  v.elim [] fun v => (valuesOf v).map Value.shown

/-- The texts that keys and values give a key, in order.  The texts of other keys may stand between
them. -/
def textsAt (key : String) (pairs : List (String × String)) : List String :=
  (pairs.filter fun e => e.1 == key).map Prod.snd

@[simp] theorem textsOf_gather (texts : List String) : textsOf (gather texts) = texts := by
  have hshown : Value.shown ∘ Value.text = id := rfl
  match texts with
  | [] => rfl
  | [text] => rfl
  | text :: next :: texts =>
    show ((text :: next :: texts).map Value.text).map Value.shown = _
    rw [List.map_map, hshown, List.map_id]

/-- Different texts make different values.  One text and a list of that text differ, but a list made
here has at least two. -/
theorem gather_inj {texts texts' : List String} :
    gather texts = gather texts' ↔ texts = texts' := by
  refine ⟨fun h => ?_, congrArg gather⟩
  rw [← textsOf_gather texts, h, textsOf_gather]

/-- One more text goes behind the others.  The second text turns the first one into a list. -/
theorem collect_gather (texts : List String) (text : String) :
    some (collect (gather texts) text) = gather (texts ++ [text]) := by
  match texts with
  | [] => rfl
  | [first] => rfl
  | first :: next :: texts => simp [gather, collect]

@[simp] theorem textsAt_nil (key : String) : textsAt key [] = [] := rfl

@[simp] theorem textsAt_cons_self (key text : String) (pairs : List (String × String)) :
    textsAt key ((key, text) :: pairs) = text :: textsAt key pairs := by
  simp [textsAt]

theorem textsAt_cons_of_ne {key : String} {e : String × String} (h : e.1 ≠ key)
    (pairs : List (String × String)) : textsAt key (e :: pairs) = textsAt key pairs := by
  rw [textsAt, List.filter_cons_of_neg (by simpa using h), textsAt]

theorem textsAt_append (key : String) (front back : List (String × String)) :
    textsAt key (front ++ back) = textsAt key front ++ textsAt key back := by
  rw [textsAt, List.filter_append, List.map_append, textsAt, textsAt]

/-- A key has texts exactly if it is the key of a pair.  The text itself may be empty. -/
theorem textsAt_ne_nil_iff {key : String} {pairs : List (String × String)} :
    textsAt key pairs ≠ [] ↔ ∃ e ∈ pairs, e.1 = key := by
  rw [textsAt, Ne, List.map_eq_nil_iff, List.filter_eq_nil_iff]
  simp

/-- A pair adds its text to the texts of its key, and to those of no other. -/
theorem get?_insert_collect {p : Params} {key : String} {texts : List String}
    (h : p.get? key = gather texts) (e : String × String) :
    (p.insert e.1 (collect (p.get? e.1) e.2)).get? key = gather (texts ++ textsAt key [e]) := by
  rw [Params.get?_insert]
  -- The pair is one of the key or of another one.
  by_cases hkey : e.1 = key
  · obtain ⟨first, text⟩ := e
    subst hkey
    rw [if_pos rfl, h, collect_gather, textsAt_cons_self, textsAt_nil]
  · rw [if_neg (Ne.symm hkey), h, textsAt_cons_of_ne hkey, textsAt_nil, List.append_nil]

/-- Pairs add their texts to the texts of their keys, in order.  What the key had before stands in
front. -/
theorem get?_withPairs {p : Params} {key : String} {texts : List String}
    (h : p.get? key = gather texts) (pairs : List (String × String)) :
    (withPairs p pairs).get? key = gather (texts ++ textsAt key pairs) := by
  -- Along the pairs the key holds the texts so far, and each pair adds its own behind them.
  induction pairs generalizing p texts with
  | nil => simpa [withPairs] using h
  | cons e pairs ih =>
    show (withPairs (p.insert e.1 (collect (p.get? e.1) e.2)) pairs).get? key = _
    rw [ih (get?_insert_collect h e), List.append_assoc, ← textsAt_append, List.singleton_append]

/-- **Each key has the texts of its pairs,** in their order. -/
theorem get?_toParams (cs : List Char) (key : String) :
    (toParams cs).get? key = gather (textsAt key (readPairs cs)) := by
  have hnone : Params.empty.get? key = gather [] := rfl
  exact get?_withPairs hnone (readPairs cs)

/-! ### Writing -/

/-- A key with each of the texts of its value.  An empty list of values gives no pair, so that its
key is not written. -/
def pairsOfEntry (e : String × Value) : List (String × String) :=
  (textsOf (some e.2)).map fun text => (e.1, text)

/-- The keys and values that parameters are written as, sorted by key.  The sorting keeps the order
of the texts of one key. -/
def pairsOf (p : Params) : List (String × String) :=
  (p.entries.mergeSort fun e f => decide (e.1 ≤ f.1)).flatMap pairsOfEntry

/-- **Parameters are written as their keys and values,** whatever the values are. -/
theorem ofParams_eq_ofPairs (p : Params) : ofParams p = ofPairs (pairsOf p) := by
  have hpieces : ∀ e : String × Value,
      (pairsOfEntry e).map piece = (valuesOf e.2).map (pair e.1) := by
    intro e
    simp only [pairsOfEntry, textsOf, Option.elim_some, List.map_map]
    exact List.map_congr_left fun v _ => rfl
  simp only [ofParams, ofPairs, pairsOf, List.map_flatMap, hpieces]

theorem textsAt_pairsOfEntry (key : String) (e : String × Value) :
    textsAt key (pairsOfEntry e) = if e.1 = key then textsOf (some e.2) else [] := by
  simp only [textsAt, pairsOfEntry, List.filter_map, Function.comp_def, List.map_map]
  split
  · next h => simp [h]
  · next h => simp [h]

/-- Among entries of different keys, a key is written with the texts of its value. -/
theorem textsAt_flatMap_pairsOfEntry {entries : List (String × Value)}
    (hnd : (entries.map Prod.fst).Nodup) (key : String) :
    textsAt key (entries.flatMap pairsOfEntry) = textsOf (entries.lookup key) := by
  -- The entry of the key is the only one that contributes.
  induction entries with
  | nil => rfl
  | cons e entries ih =>
    rw [List.map_cons, List.nodup_cons] at hnd
    rw [List.flatMap_cons, textsAt_append, textsAt_pairsOfEntry, ih hnd.2, Params.lookup_cons]
    by_cases h : e.1 = key
    · -- No later entry has the key of the first one.
      have hnone : entries.lookup key = none := by
        rw [List.lookup_eq_none_iff]
        intro d hd
        rw [bne_iff_ne, ← h]
        exact fun heq => hnd.1 (List.mem_map.2 ⟨d, hd, heq.symm⟩)
      rw [if_pos h, if_pos h.symm, hnone]
      exact List.append_nil _
    · rw [if_neg h, if_neg (Ne.symm h), List.nil_append]

/-- A key is written with the texts of its value.  So nothing that is written of other keys mixes
with it. -/
theorem textsAt_pairsOf (p : Params) (key : String) :
    textsAt key (pairsOf p) = textsOf (p.get? key) := by
  have hperm := List.mergeSort_perm p.entries fun e f => decide (e.1 ≤ f.1)
  have hnd := (hperm.map Prod.fst).nodup_iff.2 p.nodup
  -- Sorting changes the order only, so a look-up finds the same value.
  have hlookup : (p.entries.mergeSort fun e f => decide (e.1 ≤ f.1)).lookup key = p.get? key := by
    ext v
    rw [Params.lookup_eq_some_iff_mem hnd, hperm.mem_iff, Params.get?_eq_some_iff]
  rw [pairsOf, textsAt_flatMap_pairsOfEntry hnd, hlookup]

/-- The keys stand in order.  Pairs of the same key stand side by side. -/
theorem pairwise_pairsOf (p : Params) : (pairsOf p).Pairwise fun e f => e.1 ≤ f.1 := by
  -- Sorting puts the entries in the order of their keys, and each entry gives pairs of one key.
  have hsorted : (p.entries.mergeSort fun e f => decide (e.1 ≤ f.1)).Pairwise
      fun e f => e.1 ≤ f.1 := by
    have htrans : ∀ e f g : String × Value, decide (e.1 ≤ f.1) = true → decide (f.1 ≤ g.1) = true →
        decide (e.1 ≤ g.1) = true := by
      intro e f g hef hfg
      rw [decide_eq_true_iff] at hef hfg ⊢
      exact String.le_trans hef hfg
    have htotal : ∀ e f : String × Value, (decide (e.1 ≤ f.1) || decide (f.1 ≤ e.1)) = true := by
      intro e f
      simpa using String.le_total e.1 f.1
    simpa using List.pairwise_mergeSort htrans htotal p.entries
  rw [pairsOf, List.pairwise_flatMap]
  constructor
  · intro e _
    rw [pairsOfEntry, List.pairwise_map]
    exact List.pairwise_of_forall fun _ _ => String.le_refl e.1
  · refine hsorted.imp fun {e f} hle x hx y hy => ?_
    obtain ⟨s, -, rfl⟩ := List.mem_map.1 hx
    obtain ⟨t, -, rfl⟩ := List.mem_map.1 hy
    exact hle

/-! ### The first key -/

/-- The key is the first one in their order.  There is at most one such key, and none if there are
no parameters. -/
def IsFirst (p : Params) (key : String) : Prop :=
  key ∈ p.keys ∧ ∀ other ∈ p.keys, key ≤ other

theorem IsFirst.eq {p : Params} {key other : String} (h : IsFirst p key) (h' : IsFirst p other) :
    key = other :=
  String.le_antisymm (h.2 other h'.1) (h'.2 key h.1)

/-- Each key has the value that texts make; no key has an empty list.  Parameters that were put
together by hand may hold other values, which are written but not read back. -/
def Gathered (p : Params) : Prop :=
  ∀ key, ∃ texts, p.get? key = gather texts

/-- What is read of a query string is gathered.  This is the only fact about reading that the
results on repeated keys need. -/
theorem gathered_toParams (cs : List Char) : Gathered (toParams cs) :=
  fun key => ⟨_, get?_toParams cs key⟩

variable {p : Params}

/-- Gathered parameters are made of texts, so they can be written.  Nothing in them is a number, so
no limit on digits applies. -/
theorem Gathered.ofParams?_eq (h : Gathered p) : ofParams? p = .ok (ofParams p) := by
  refine ofParams?_of_isWritable fun e he => ?_
  obtain ⟨texts, htexts⟩ := h e.1
  rw [Params.get?_eq_some_iff.2 he] at htexts
  match texts with
  | [] => exact absurd htexts (by simp [gather])
  | [text] =>
    rw [Option.some.inj htexts]
    exact Value.isWritable_text text
  | text :: next :: texts =>
    rw [Option.some.inj htexts, Value.isWritable_list_iff, List.forall_mem_map]
    exact fun t _ => Value.isWritable_text t

/-- The value of a key of gathered parameters is made of the texts that are written.  So reading the
pairs again gives the value back. -/
theorem Gathered.get?_eq (h : Gathered p) (key : String) :
    p.get? key = gather (textsAt key (pairsOf p)) := by
  obtain ⟨texts, htexts⟩ := h key
  rw [textsAt_pairsOf, htexts, textsOf_gather]

/-- A key is written exactly if it is there.  No key of gathered parameters has an empty list, which
would not be written. -/
theorem Gathered.mem_keys_iff (h : Gathered p) {key : String} :
    key ∈ p.keys ↔ ∃ e ∈ pairsOf p, e.1 = key := by
  have hnone : gather [] = none := rfl
  rw [← textsAt_ne_nil_iff, ← not_iff_not, ← Params.get?_eq_none_iff, h.get?_eq, not_not, ← hnone,
    gather_inj]

/-- The first pair has the first key. -/
theorem Gathered.isFirst (h : Gathered p) {e : String × String} {pairs : List (String × String)}
    (hp : pairsOf p = e :: pairs) : IsFirst p e.1 := by
  have hsorted := pairwise_pairsOf p
  rw [hp, List.pairwise_cons] at hsorted
  -- The pairs are sorted by key and hold every key, so none is before that of the first pair.
  constructor
  · exact h.mem_keys_iff.2 ⟨e, by simp [hp], rfl⟩
  · intro other hother
    obtain ⟨f, hf, rfl⟩ := h.mem_keys_iff.1 hother
    rw [hp, List.mem_cons] at hf
    rcases hf with rfl | hf
    · exact String.le_refl _
    · exact hsorted.1 f hf

/-- What is read of the query string of parameters: its first key has lost the question marks in
front of it. -/
theorem get?_toParams_ofParams {e : String × String} {pairs : List (String × String)}
    (hp : pairsOf p = e :: pairs) (key : String) :
    (toParams (ofParams p)).get? key = gather (textsAt key ((withoutMarks e.1, e.2) :: pairs)) := by
  rw [get?_toParams, ofParams_eq_ofPairs, hp, readPairs_ofPairs]

/-- **What question marks in front change:** the first text of the first key goes to the key without
them, in front of the texts that this one has already.  The key itself keeps its other texts, as
only the front of the query string is stripped. -/
theorem Gathered.of_mark (h : Gathered p) {key : String} (hfirst : IsFirst p key)
    (hmark : key.toList.head? = some '?') :
    ∃ text texts, p.get? key = gather (text :: texts) ∧
      (toParams (ofParams p)).get? key = gather texts ∧
      (toParams (ofParams p)).get? (withoutMarks key)
        = gather (text :: textsOf (p.get? (withoutMarks key))) ∧
      ∀ name, name ≠ key → name ≠ withoutMarks key →
        (toParams (ofParams p)).get? name = p.get? name := by
  have hne : withoutMarks key ≠ key := fun heq => withoutMarks_eq_self_iff.1 heq hmark
  obtain ⟨f, hf, -⟩ := h.mem_keys_iff.1 hfirst.1
  -- The first key is there, so there is a first pair, and it is of that key.
  obtain ⟨⟨first, text⟩, pairs, hp⟩ := List.exists_cons_of_ne_nil (List.ne_nil_of_mem hf)
  obtain rfl : first = key := (h.isFirst hp).eq hfirst
  have hread := get?_toParams_ofParams hp
  refine ⟨text, textsAt first pairs, ?_, ?_, ?_, fun name hname hname' => ?_⟩
  · rw [h.get?_eq, hp, textsAt_cons_self]
  · rw [hread, textsAt_cons_of_ne hne]
  · rw [hread, textsAt_cons_self, ← textsAt_pairsOf, hp, textsAt_cons_of_ne hne.symm]
  · rw [hread, textsAt_cons_of_ne hname'.symm, h.get?_eq, hp, textsAt_cons_of_ne hname.symm]

/-- **When gathered parameters come back from their query string:** exactly if their first key does
not start with a question mark.  Parameters that are empty come back as well. -/
theorem Gathered.same_iff (h : Gathered p) :
    (toParams (ofParams p)).Same p ↔ ∀ key, IsFirst p key → key.toList.head? ≠ some '?' := by
  constructor
  · intro hsame key hfirst hmark
    -- The first key has lost a text.
    obtain ⟨text, texts, hbefore, hafter, -⟩ := h.of_mark hfirst hmark
    rw [hsame key, hbefore, gather_inj] at hafter
    exact List.cons_ne_self text texts hafter
  · intro hmark key
    rw [h.get?_eq]
    cases hp : pairsOf p with
    | nil => rw [get?_toParams, ofParams_eq_ofPairs, hp, readPairs_ofPairs_nil]
    | cons e pairs =>
      have hkey : withoutMarks e.1 = e.1 := withoutMarks_eq_self_iff.2 (hmark e.1 (h.isFirst hp))
      rw [get?_toParams_ofParams hp, hkey]

/-- A query string starts with a question mark exactly if the first key does.  That key is the one
whose question marks reading takes away. -/
theorem Gathered.head?_eq_mark_iff (h : Gathered p) :
    (ofParams p).head? = some '?' ↔ ∃ key, IsFirst p key ∧ key.toList.head? = some '?' := by
  rw [ofParams_eq_ofPairs]
  cases hp : pairsOf p with
  | nil =>
    refine iff_of_false (by decide) ?_
    rintro ⟨key, hfirst, -⟩
    obtain ⟨e, he, -⟩ := h.mem_keys_iff.1 hfirst.1
    simp [hp] at he
  | cons e pairs =>
    rw [head?_ofPairs_eq_mark_iff]
    constructor
    · exact fun hmark => ⟨e.1, h.isFirst hp, hmark⟩
    · rintro ⟨key, hfirst, hmark⟩
      rwa [(h.isFirst hp).eq hfirst]

/-- **When the parameters of a query string come back** from the query string that is written of
them, as it always can be: exactly if their first key does not start with a question mark.
Otherwise the first text of this key goes to the key without its question marks, and all other keys
keep their values. -/
theorem toParams_ofParams_toParams (cs : List Char) :
    ofParams? (toParams cs) = .ok (ofParams (toParams cs)) ∧
      ((toParams (ofParams (toParams cs))).Same (toParams cs)
        ↔ ∀ key, IsFirst (toParams cs) key → key.toList.head? ≠ some '?') ∧
      ∀ key, IsFirst (toParams cs) key → key.toList.head? = some '?' →
        ∃ text texts, (toParams cs).get? key = gather (text :: texts) ∧
          (toParams (ofParams (toParams cs))).get? key = gather texts ∧
          (toParams (ofParams (toParams cs))).get? (withoutMarks key)
            = gather (text :: textsOf ((toParams cs).get? (withoutMarks key))) ∧
          ∀ name, name ≠ key → name ≠ withoutMarks key →
            (toParams (ofParams (toParams cs))).get? name = (toParams cs).get? name := by
  have hgathered := gathered_toParams cs
  exact ⟨hgathered.ofParams?_eq, hgathered.same_iff,
    fun key hfirst hmark => hgathered.of_mark hfirst hmark⟩

/-- A query string with a coded question mark in front of a repeated key.  The sign is coded there,
so it reads as part of the key; written again, it stands as it is. -/
def codedMark : List Char :=
  "b=%C3%A9&%3Fa=1&%3Fa=".toList

/-- The first text of the key comes back under the key without the question mark. -/
theorem codedMark_toParams_ofParams :
    (toParams codedMark).get? "?a" = some (.list [.text "1", .text ""]) ∧
      (toParams (ofParams (toParams codedMark))).get? "?a" = some (.text "") ∧
      (toParams (ofParams (toParams codedMark))).get? "a" = some (.text "1") ∧
      (toParams (ofParams (toParams codedMark))).get? "b" = some (.text "é") ∧
      ¬ (toParams (ofParams (toParams codedMark))).Same (toParams codedMark) := by
  have hread : (toParams codedMark).entries
      = [("b", .text "é"), ("?a", .list [.text "1", .text ""])] := by rfl
  have hfirst : IsFirst (toParams codedMark) "?a" := by
    rw [IsFirst, Params.keys, hread]
    decide
  obtain ⟨-, hsame, hlost⟩ := toParams_ofParams_toParams codedMark
  obtain ⟨text, texts, hbefore, hafter, hother, hrest⟩ := hlost "?a" hfirst rfl
  obtain ⟨rfl, rfl⟩ : "1" = text ∧ [""] = texts := by
    have htexts := congrArg textsOf hbefore
    rw [textsOf_gather] at htexts
    exact List.cons_eq_cons.1 htexts
  refine ⟨rfl, hafter, hother.trans rfl, (hrest "b" (by decide) (by decide)).trans rfl, ?_⟩
  exact fun h => hsame.1 h "?a" hfirst rfl

/-! ### Single texts -/

/-- Parameters with single texts are gathered.  This is the form of the parameters that filters are
written as. -/
theorem gathered_of_text (h : ∀ e ∈ p.entries, ∃ t, e.2 = .text t) : Gathered p := by
  intro key
  cases hv : p.get? key with
  | none => exact ⟨[], rfl⟩
  | some v =>
    obtain ⟨t, rfl⟩ : ∃ t, v = .text t := h (key, v) (Params.get?_eq_some_iff.1 hv)
    exact ⟨[t], rfl⟩

/-- Parameters with single texts come back exactly if their query string does not start with a
question mark.  Here the condition is one on the text, which can be looked at without sorting the
keys. -/
theorem same_toParams_ofParams_iff (h : ∀ e ∈ p.entries, ∃ t, e.2 = .text t) :
    (toParams (ofParams p)).Same p ↔ (ofParams p).head? ≠ some '?' := by
  have hgathered := gathered_of_text h
  rw [hgathered.same_iff, Ne, hgathered.head?_eq_mark_iff]
  simp only [not_exists, not_and, ne_eq]

/-- Without a question mark in front, the parameters of a query string are those it was written for,
in some order.  The order is that of the keys. -/
theorem perm_entries_toParams_ofParams (h : ∀ e ∈ p.entries, ∃ t, e.2 = .text t)
    (hmark : (ofParams p).head? ≠ some '?') :
    (toParams (ofParams p)).entries.Perm p.entries :=
  ((same_toParams_ofParams_iff h).2 hmark).perm_entries

/-- With question marks in front, the first key is lost, and only its value can come back under a
key that was not there. -/
theorem exists_lost_key (h : ∀ e ∈ p.entries, ∃ t, e.2 = .text t)
    (hmark : (ofParams p).head? = some '?') :
    ∃ key t, key.toList.head? = some '?' ∧ p.get? key = some (.text t) ∧
      (toParams (ofParams p)).get? key = none ∧
      ∀ name v, p.get? name = none → (toParams (ofParams p)).get? name = some v → v = .text t := by
  have hgathered := gathered_of_text h
  obtain ⟨key, hfirst, hhead⟩ := hgathered.head?_eq_mark_iff.1 hmark
  obtain ⟨text, texts, hbefore, hafter, hother, hrest⟩ := hgathered.of_mark hfirst hhead
  obtain ⟨t, ht⟩ : ∃ t, p.get? key = some (.text t) := by
    obtain ⟨e, he, rfl⟩ := List.mem_map.1 hfirst.1
    obtain ⟨t, ht⟩ := h e he
    exact ⟨t, by rw [Params.get?_eq_some_iff, ← ht]; exact he⟩
  -- The value of the key is a single text, so nothing of it is left.
  obtain ⟨rfl, rfl⟩ : t = text ∧ [] = texts := by
    have hsingle : gather [t] = gather (text :: texts) := ht.symm.trans hbefore
    exact List.cons_eq_cons.1 (gather_inj.1 hsingle)
  refine ⟨key, t, hhead, ht, hafter, fun name v hname hv => ?_⟩
  -- A new name can only be the key without its question marks; all others are as they were.
  by_cases hkey : name = withoutMarks key
  · rw [hkey, hother, ← hkey, hname] at hv
    exact (Option.some.inj hv).symm
  · have hne : name ≠ key := by
      rintro rfl
      rw [ht] at hname
      exact absurd hname (by simp)
    rw [hrest name hne hkey, hname] at hv
    exact absurd hv (by simp)

end UrlFilter.QueryString
