import Mathlib.Data.List.Pairwise
import UrlFilter.Proofs.Backend.RawGroup
import UrlFilter.Proofs.QueryString.Gathered
import UrlFilter.Proofs.Reading

namespace UrlFilter

open QueryString

/-!
# Repeated keys of a query string

Parameters without fields narrow by the last value of each key, so that of the pairs of a query
string with one key all but the last one are lost.

* `QueryString.lastPairs` — the last pair of each key.
* `QueryString.lastPairs_perm` — these are the pairs behind which no pair has the same key.
* `Backend.rawConditions_toParams` — the conditions of a query string are those of the last pairs.
* `Backend.applyRaw_toParams` — when each pair narrows a query.
-/

namespace QueryString

/-! ### The last pair of each key -/

/-- The last pair of each key, in the order in which the keys first come.  There is one for each key
that comes at all. -/
def lastPairs (pairs : List (String × String)) : List (String × String) :=
  (pairs.map Prod.fst).eraseDups.filterMap fun key => (pairs.filter fun e => e.1 == key).getLast?

/-- A pair is the last one of some key exactly if it is the last one of its own. -/
theorem mem_lastPairs_iff {pairs : List (String × String)} {e : String × String} :
    e ∈ lastPairs pairs ↔ (pairs.filter fun f => f.1 == e.1).getLast? = some e := by
  rw [lastPairs, List.mem_filterMap]
  constructor
  · rintro ⟨key, -, hlast⟩
    obtain rfl : e.1 = key := by simpa using List.of_mem_filter (List.mem_of_getLast? hlast)
    exact hlast
  · intro hlast
    have hmem : e ∈ pairs := List.mem_of_mem_filter (List.mem_of_getLast? hlast)
    exact ⟨e.1, List.mem_eraseDups.2 (List.mem_map.2 ⟨e, hmem, rfl⟩), hlast⟩

/-- No key has two last pairs.  So they fit into parameters. -/
theorem nodup_lastPairs (pairs : List (String × String)) :
    ((lastPairs pairs).map Prod.fst).Nodup := by
  have hkeys := Reading.nodup_eraseDups (pairs.map Prod.fst)
  rw [← List.map_id (List.eraseDups _)] at hkeys
  -- The key of what is made for a key is that key.
  refine hkeys.sublist (Reading.map_filterMap_sublist (fun key e hlast => ?_) _)
  simpa using List.of_mem_filter (List.mem_of_getLast? hlast)

/-- The pairs behind which no pair has the same key, in order.  These are the pairs that are not
lost. -/
def unrepeated (pairs : List (String × String)) : List (String × String) :=
  pairs.pwFilter fun e f => e.1 ≠ f.1

/-- They are some of the pairs, in the same order. -/
theorem unrepeated_sublist (pairs : List (String × String)) : (unrepeated pairs).Sublist pairs :=
  List.pwFilter_sublist pairs

/-- No pair comes twice among them, as no key does. -/
theorem nodup_unrepeated (pairs : List (String × String)) : (unrepeated pairs).Nodup := by
  have hpairwise := List.pairwise_pwFilter (R := fun e f : String × String => e.1 ≠ f.1) pairs
  exact hpairwise.imp fun hne heq => hne (congrArg Prod.fst heq)

/-- A pair has another key than all pairs behind it if it has another one than the last of each. -/
theorem forall_mem_unrepeated_ne {pairs : List (String × String)} {e : String × String} :
    (∀ f ∈ unrepeated pairs, e.1 ≠ f.1) ↔ ∀ f ∈ pairs, e.1 ≠ f.1 := by
  refine List.forall_mem_pwFilter (fun {x y z} hne => ?_) e pairs
  by_contra h
  rw [not_or, not_not, not_not] at h
  exact hne (h.1.trans h.2)

/-- A pair whose key does not come again is one of them. -/
theorem unrepeated_cons_of_new {pairs : List (String × String)} {e : String × String}
    (h : ∀ f ∈ pairs, e.1 ≠ f.1) : unrepeated (e :: pairs) = e :: unrepeated pairs :=
  List.pwFilter_cons_of_pos (forall_mem_unrepeated_ne.2 h)

/-- A pair whose key comes again is none of them. -/
theorem unrepeated_cons_of_mem {pairs : List (String × String)} {e f : String × String}
    (hf : f ∈ pairs) (h : e.1 = f.1) : unrepeated (e :: pairs) = unrepeated pairs :=
  List.pwFilter_cons_of_neg (forall_mem_unrepeated_ne.not.2 fun hnew => hnew f hf h)

/-- A pair is one of them exactly if it is the last one with its key. -/
theorem mem_unrepeated_iff {pairs : List (String × String)} {e : String × String} :
    e ∈ unrepeated pairs ↔ (pairs.filter fun f => f.1 == e.1).getLast? = some e := by
  -- By induction on the pairs: a first pair counts only if its key does not come again.
  induction pairs with
  | nil => simp [unrepeated]
  | cons d pairs ih =>
    by_cases hnew : ∀ f ∈ pairs, d.1 ≠ f.1
    · rw [unrepeated_cons_of_new hnew, List.mem_cons, ih]
      by_cases hkey : d.1 = e.1
      · -- No later pair has the key, so the first one is the last one.
        have hnil : (pairs.filter fun f => f.1 == e.1) = [] := by
          rw [List.filter_eq_nil_iff]
          intro f hf
          rw [← hkey, beq_iff_eq]
          exact (hnew f hf).symm
        rw [List.filter_cons_of_pos (by simp [hkey]), hnil]
        simp [eq_comm]
      · have hne : e ≠ d := fun h => hkey (h ▸ rfl)
        rw [List.filter_cons_of_neg (by simp [hkey]), or_iff_right hne]
    · push Not at hnew
      obtain ⟨f, hf, hsame⟩ := hnew
      rw [unrepeated_cons_of_mem hf hsame, ih]
      by_cases hkey : d.1 = e.1
      · obtain ⟨last, hlast⟩ : ∃ last, (pairs.filter fun f => f.1 == e.1).getLast? = some last := by
          have hmem : f ∈ pairs.filter fun f => f.1 == e.1 :=
            List.mem_filter.2 ⟨hf, by simp [← hsame, hkey]⟩
          exact ⟨_, List.getLast?_eq_some_getLast (List.ne_nil_of_mem hmem)⟩
        rw [List.filter_cons_of_pos (by simp [hkey]), List.getLast?_cons, hlast, Option.getD_some]
      · rw [List.filter_cons_of_neg (by simp [hkey])]

/-- **The last pairs** are those behind which no pair has the same key.  They come in another order
if a key that came early is repeated late. -/
theorem lastPairs_perm (pairs : List (String × String)) :
    (lastPairs pairs).Perm (unrepeated pairs) := by
  rw [List.perm_ext_iff_of_nodup (nodup_lastPairs pairs).of_map (nodup_unrepeated pairs)]
  exact fun e => mem_lastPairs_iff.trans mem_unrepeated_iff.symm

section Made

variable {β : Type} {g : String × String → Option β} {pairs : List (String × String)}

/-- What is made of the pairs behind which no pair has the same key is what is made of all pairs
exactly if nothing is made of the others.  If something is made of one of the others, there are more
in all. -/
theorem filterMap_unrepeated_eq_iff :
    (unrepeated pairs).filterMap g = pairs.filterMap g
      ↔ pairs.Pairwise fun e f => e.1 = f.1 → g e = none := by
  induction pairs with
  | nil => simp [unrepeated]
  | cons e pairs ih =>
    rw [List.pairwise_cons]
    by_cases hnew : ∀ f ∈ pairs, e.1 ≠ f.1
    · have hfirst : ∀ f ∈ pairs, e.1 = f.1 → g e = none := fun f hf h => absurd h (hnew f hf)
      rw [unrepeated_cons_of_new hnew, List.filterMap_cons, List.filterMap_cons, ← ih,
        and_iff_right hfirst]
      cases g e <;> simp
    · push Not at hnew
      obtain ⟨f, hf, hsame⟩ := hnew
      rw [unrepeated_cons_of_mem hf hsame, List.filterMap_cons, ← ih]
      cases hmade : g e with
      | none => simp
      | some c =>
        -- What is made of the first pair is one more than can be made of the later ones.
        have hlen := ((unrepeated_sublist pairs).filterMap g).length_le
        constructor
        · intro h
          have hlength := congrArg List.length h
          rw [List.length_cons] at hlength
          omega
        · rintro ⟨hnone, -⟩
          exact absurd (hnone f hf hsame) (by simp)

/-- **What is made of the last pairs** is what is made of all pairs exactly if nothing is made of a
pair behind which another one has the same key. -/
theorem filterMap_lastPairs_perm_iff :
    ((lastPairs pairs).filterMap g).Perm (pairs.filterMap g)
      ↔ pairs.Pairwise fun e f => e.1 = f.1 → g e = none := by
  have hlast := (lastPairs_perm pairs).filterMap g
  rw [← filterMap_unrepeated_eq_iff]
  constructor
  · intro h
    exact ((unrepeated_sublist pairs).filterMap g).eq_of_length (hlast.symm.trans h).length_eq
  · exact fun h => hlast.trans (.of_eq h)

end Made

end QueryString

namespace Backend

/-- The last value of a key.  It is the one that a parameter without fields asks for. -/
def lastValue? (p : Params) (key : String) : Option Value :=
  (p.get? key).bind fun v => (rawValues v).getLast?

/-- The last value that texts make is the last text.  One text is a value, and several are a list of
values. -/
theorem getLast?_rawValues_gather (texts : List String) :
    ((gather texts).bind fun v => (rawValues v).getLast?) = texts.getLast?.map .text := by
  match texts with
  | [] => rfl
  | [text] => rfl
  | text :: next :: texts =>
    show ((text :: next :: texts).map Value.text).getLast? = _
    rw [List.getLast?_map]

/-- The last value of a key is the text of its last pair.  All earlier ones are in the list and are
not looked at. -/
theorem lastValue?_toParams (cs : List Char) (key : String) :
    lastValue? (toParams cs) key
      = ((readPairs cs).filter fun e => e.1 == key).getLast?.map fun e => .text e.2 := by
  rw [lastValue?, get?_toParams, getLast?_rawValues_gather, textsAt, List.getLast?_map,
    Option.map_map]
  rfl

/-- The entries of parameters beside the grouping parameter ask for the last value of each key.  The
entries of the keys stand in their order. -/
theorem flatMap_rawEntries {groupKey : String} {p : Params} (h : groupKey ∉ p.keys) :
    p.entries.flatMap (rawEntries groupKey)
      = p.keys.filterMap fun key => (lastValue? p key).map fun v => (key, v) := by
  rw [Params.keys, List.filterMap_map, List.filterMap_eq_flatMap_toList]
  refine List.flatMap_congr fun e he => ?_
  have hne : e.1 ≠ groupKey := fun heq => h (List.mem_map.2 ⟨e, he, heq⟩)
  -- Each key has one entry, and what is looked up is its value.
  have hget : p.get? e.1 = some e.2 := Params.get?_eq_some_iff.2 he
  rw [rawEntries, if_neg hne, Function.comp_apply, lastValue?, hget, Option.bind_some]
  cases (rawValues e.2).getLast? <;> rfl

/-- The condition that a pair of a query string asks for.  It is what the pair would narrow by if it
stood alone. -/
def pairCondition? (pattern : String → String) (supports : Operator → Bool)
    (e : String × String) : Option Condition :=
  rawCondition? pattern supports e.1 (.text e.2)

/-- **The conditions of a query string** are those of the last pair of each key. -/
theorem rawConditions_toParams (pattern : String → String) (supports : Operator → Bool)
    {groupKey : String} {cs : List Char}
    (h : ∀ e ∈ readPairs cs, e.1 ≠ groupKey) :
    rawConditions pattern supports groupKey none (toParams cs)
      = (lastPairs (readPairs cs)).filterMap (pairCondition? pattern supports) := by
  have hgroup : groupKey ∉ (toParams cs).keys := by
    rw [keys_toParams, List.mem_eraseDups, List.mem_map]
    rintro ⟨e, he, heq⟩
    exact h e he heq
  have hallowed : ∀ column, Condition.allowed none column = true := fun _ => rfl
  rw [rawConditions, flatMap_rawEntries hgroup, keys_toParams, lastPairs, List.filterMap_filterMap,
    List.filterMap_filterMap]
  refine List.filterMap_congr fun key _ => ?_
  -- Each key has the text of its last pair as its last value.
  rw [lastValue?_toParams]
  cases hlast : ((readPairs cs).filter fun e => e.1 == key).getLast? with
  | none => rfl
  | some e =>
    obtain rfl : e.1 = key := by simpa using List.of_mem_filter (List.mem_of_getLast? hlast)
    simp [hallowed, pairCondition?]

/-- A pair asks for a condition exactly if it names a supported operator, with a value that narrows
something and that the operator can be asked with. -/
theorem pairCondition?_eq_some_iff {pattern : String → String} {supports : Operator → Bool}
    {e : String × String} {c : Condition} :
    pairCondition? pattern supports e = some c ↔ ∃ op v, Wire.read? (.text e.2) = some (op, v) ∧
      supports op = true ∧ v.isEmpty = false ∧ (op = .is → v.isBool = true) ∧
      c = ⟨e.1, op, Condition.operand pattern op v⟩ := by
  have hpredicate : ∀ op v, Condition.hasPredicate op v = true ↔ (op = .is → v.isBool = true) := by
    intro op v
    rw [Condition.hasPredicate, Bool.or_eq_true, bne_iff_ne, ne_eq, imp_iff_not_or]
  simp only [← hpredicate]
  constructor
  · exact exists_read_of_rawCondition?
  · rintro ⟨op, v, hread, hsupports, hset, hasked, rfl⟩
    simp [pairCondition?, rawCondition?, hread, hsupports, hset, hasked]

/-- **A query string narrows a query by the last pair of each key.**  So each pair that asks for a
condition narrows the query exactly if no other pair with the same key comes behind it. -/
theorem applyRaw_toParams {Query : Type} (b : Backend Query) (q : Query) {groupKey : String}
    {cs : List Char} (h : ∀ e ∈ readPairs cs, e.1 ≠ groupKey) :
    b.applyRaw q none none groupKey (toParams cs)
        = ((lastPairs (readPairs cs)).filterMap (pairCondition? b.pattern b.supports)).foldlM
            b.narrow q ∧
      (∀ e c, pairCondition? b.pattern b.supports e = some c ↔ ∃ op v,
        Wire.read? (.text e.2) = some (op, v) ∧ b.supports op = true ∧ v.isEmpty = false ∧
          (op = .is → v.isBool = true) ∧ c = ⟨e.1, op, Condition.operand b.pattern op v⟩) ∧
      (((lastPairs (readPairs cs)).filterMap (pairCondition? b.pattern b.supports)).Perm
          ((readPairs cs).filterMap (pairCondition? b.pattern b.supports)) ↔
        (readPairs cs).Pairwise fun e f =>
          e.1 = f.1 → pairCondition? b.pattern b.supports e = none) := by
  refine ⟨?_, fun _ _ => pairCondition?_eq_some_iff, filterMap_lastPairs_perm_iff⟩
  rw [applyRaw_eq_foldlM, rawConditions_toParams b.pattern b.supports h]

/-- A query string with two bounds of one column.  Between the two there is a pair that asks for
nothing. -/
def twoBounds : List Char :=
  "created=gte.A&page=2&created=lte.B".toList

/-- The lower bound is lost. -/
theorem twoBounds_applyRaw :
    (∀ e ∈ readPairs twoBounds, e.1 ≠ "and") ∧
      (substringRecorder Operator.wire).applyRaw [] none none "and" (toParams twoBounds)
        = .ok [⟨"created", .lte, .text "B"⟩] ∧
      (readPairs twoBounds).filterMap (pairCondition? Condition.substringPattern
        (substringRecorder Operator.wire).supports)
        = [⟨"created", .gte, .text "A"⟩, ⟨"created", .lte, .text "B"⟩] := by
  have hpairs : readPairs twoBounds = [("created", "gte.A"), ("page", "2"), ("created", "lte.B")] :=
    rfl
  have hgroup : ∀ e ∈ readPairs twoBounds, e.1 ≠ "and" := by
    rw [hpairs]
    decide
  obtain ⟨hnarrowed, -, -⟩ := applyRaw_toParams (substringRecorder Operator.wire) [] hgroup
  refine ⟨hgroup, hnarrowed.trans ?_, ?_⟩
  · rw [hpairs]
    rfl
  · rw [hpairs]
    rfl

end Backend

end UrlFilter
