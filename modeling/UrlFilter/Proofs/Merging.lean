import UrlFilter.Proofs.Wire.Cuts
import UrlFilter.Proofs.Wire.Parentheses

namespace UrlFilter

open Reading Text

/-!
# Writing into a group

New conditions go behind those that the grouping parameter holds already.  A single text keeps its
conditions; where the parameter is repeated, they are lost.

* `Wire.splitConditions_append_eq_iff` — when conditions with new ones behind them are read back.
* `Writing.direct`, `Writing.merged` — the two parts of writing: parameters of their own, and the
  group.
* `Writing.carried` — the conditions that writing keeps.
* `Writing.grouped_params` — what writing keeps of the parameters that are there.
-/

namespace Wire

/-! ### Conditions behind others -/

/-- The last piece of a text, and the closed pieces in front of it.  Only the last one may leave a
quote or a bracket open. -/
theorem exists_piecesFrom_concat (cs : List Char) :
    ∃ pieces last, piecesFrom (.plain 0) cs = pieces ++ [last] ∧
      commaJoin (pieces ++ [last]) = cs ∧ (∀ p ∈ pieces, Unbroken (.plain 0) p) ∧
      ∀ p ∈ pieces, Closed p := by
  obtain ⟨hjoin, hun, hclosed⟩ := piecesFrom_spec cs
  obtain ⟨pieces, last, hp⟩ :=
    (List.eq_nil_or_concat _).resolve_left (piecesFrom_ne_nil (.plain 0) cs)
  rw [List.concat_eq_append] at hp
  rw [hp] at hjoin hun hclosed
  rw [List.dropLast_concat] at hclosed
  exact ⟨pieces, last, hp, hjoin, fun p hp => hun p (List.mem_append_left _ hp), hclosed⟩

/-- The conditions of a closed text are closed.  No quote and no bracket reaches from one of them
into another. -/
theorem closed_of_mem_splitConditions {cs : List Char} (h : Closed cs) :
    ∀ c ∈ splitConditions cs, Closed c := by
  obtain ⟨pieces, last, hp, hjoin, -, hclosed⟩ := exists_piecesFrom_concat cs
  have hlast : Closed last := by
    by_cases hnil : pieces = []
    · rw [hnil, List.nil_append, commaJoin_singleton] at hjoin
      rwa [hjoin]
    · -- The reader is at top level behind the other pieces, so it reads the last one from there.
      rw [← hjoin, commaJoin_append hnil (by simp), commaJoin_singleton, Closed,
        GroupState.after_append, closed_commaJoin hclosed] at h
      exact h
  -- A condition is a piece without its blanks, and blanks open nothing.
  intro c hc
  rw [splitConditions, hp] at hc
  obtain ⟨p, hmem, rfl⟩ := List.mem_map.1 (List.mem_of_mem_filter hc)
  rw [closed_trim_iff]
  rcases List.mem_append.1 hmem with hmem | hmem
  · exact hclosed p hmem
  · rwa [List.mem_singleton.1 hmem]

/-- The text ends with a character that is neither a blank nor a comma.  Every written condition
does. -/
def EndsVisibly (cs : List Char) : Prop :=
  ∃ d, cs.getLast? = some d ∧ isBlank d = false ∧ d ≠ ','

theorem EndsVisibly.ne_nil {cs : List Char} (h : EndsVisibly cs) : cs ≠ [] := by
  rintro rfl
  obtain ⟨d, hd, -⟩ := h
  simp at hd

/-- Where a text ends visibly, its last piece does.  A visible end is no comma, so that the last
piece is not empty. -/
theorem EndsVisibly.of_commaJoin_concat {pieces : List (List Char)} {last : List Char}
    (h : EndsVisibly (commaJoin (pieces ++ [last]))) : EndsVisibly last := by
  obtain ⟨d, hd, hblank, hcomma⟩ := h
  have hne : last ≠ [] := by
    rintro rfl
    by_cases hnil : pieces = []
    · simp [hnil] at hd
    · -- The text ends with the comma in front of the empty piece.
      rw [commaJoin_append hnil (by simp), commaJoin_singleton, List.getLast?_concat] at hd
      exact hcomma (Option.some.inj hd).symm
  rw [getLast?_commaJoin_concat pieces hne] at hd
  exact ⟨d, hd, hblank, hcomma⟩

/-- Trimming takes blanks from the front of a text that ends visibly, and leaves something.  Nothing
is taken from its end. -/
theorem EndsVisibly.exists_blanks_append_trim {cs : List Char} (h : EndsVisibly cs) :
    trim cs ≠ [] ∧ ∃ blanks, (∀ c ∈ blanks, isBlank c = true) ∧ cs = blanks ++ trim cs := by
  obtain ⟨d, hd, hblank, -⟩ := h
  have htrim : trim cs = cs.dropWhile isBlank := by
    refine trim_eq_dropWhile fun c hc => ?_
    obtain rfl : d = c := by simpa [hd] using hc
    exact hblank
  rw [htrim]
  refine ⟨fun hnil => ?_, cs.takeWhile isBlank, fun c hc => List.mem_takeWhile_imp hc,
    List.takeWhile_append_dropWhile.symm⟩
  have hall := List.dropWhile_eq_nil_iff.1 hnil d (List.mem_of_getLast? hd)
  rw [hblank] at hall
  exact Bool.false_ne_true hall

/-- **A last condition that is found again** was cut off at the comma in front of it, so what stands
in front of the comma gives the other conditions.  It could otherwise not stand alone. -/
theorem splitConditions_of_append_comma {front last : List Char} {conditions : List (List Char)}
    (hlast : EndsVisibly last)
    (h : splitConditions (front ++ ',' :: last) = conditions ++ [last]) :
    splitConditions front = conditions := by
  obtain ⟨pieces, piece, hp, hjoin, hun, hclosed⟩ := exists_piecesFrom_concat (front ++ ',' :: last)
  have hwhole : EndsVisibly (commaJoin (pieces ++ [piece])) := by
    rw [hjoin, EndsVisibly, List.getLast?_append_of_ne_nil _ (by simp),
      List.getLast?_cons_of_ne_nil hlast.ne_nil]
    exact hlast
  obtain ⟨hkept, blanks, hblanks, hpiece⟩ :=
    hwhole.of_commaJoin_concat.exists_blanks_append_trim
  -- The last piece is not blank, so without its blanks it is the last condition.
  rw [splitConditions, hp, List.map_append, List.filter_append, List.map_singleton,
    List.filter_cons_of_pos (by simpa using hkept), List.filter_nil] at h
  obtain ⟨hothers, htrim⟩ := List.append_inj' h rfl
  rw [List.singleton_inj.1 htrim] at hpiece
  -- What stands in front of the last condition and its blanks is the front with its comma.
  have hcut : ∀ before, before ++ blanks ++ last = front ++ ',' :: last →
      before = front ++ [','] := by
    intro before hbefore
    rw [List.append_cons front, List.append_cancel_right_eq] at hbefore
    rcases List.eq_nil_or_concat blanks with rfl | ⟨blanks, c, rfl⟩
    · rwa [List.append_nil] at hbefore
    · -- A blank in front of the last condition would be the comma.
      rw [List.concat_eq_append, ← List.append_assoc] at hbefore
      have hc := hblanks c (by simp)
      rw [List.singleton_inj.1 (List.append_inj' hbefore rfl).2] at hc
      exact absurd hc (by decide)
  have hfront : pieces ≠ [] ∧ commaJoin pieces = front := by
    by_cases hnil : pieces = []
    · rw [hnil, List.nil_append, commaJoin_singleton, hpiece] at hjoin
      exact absurd (hcut [] hjoin) (by simp)
    · rw [commaJoin_append hnil (by simp), commaJoin_singleton, hpiece] at hjoin
      refine ⟨hnil, ?_⟩
      have hcomma := hcut (commaJoin pieces ++ [',']) (by simpa using hjoin)
      exact List.append_cancel_right hcomma
  obtain ⟨hnil, rfl⟩ := hfront
  rw [splitConditions, piecesFrom_commaJoin hnil hun
    fun p hp => hclosed p (List.dropLast_subset _ hp), hothers]

/-- Conditions that are found again behind others leave the others as they are.  Whether they are
kept apart from each other has been settled by finding them. -/
theorem splitConditions_of_append {front back conditions : List (List Char)}
    (hback : ∀ c ∈ back, EndsVisibly c)
    (h : splitConditions (commaJoin (front ++ back)) = conditions ++ back) :
    splitConditions (commaJoin front) = conditions := by
  -- The conditions behind the others are taken away from the end, one after another.
  induction back using List.reverseRecOn with
  | nil => simpa using h
  | append_singleton back last ih =>
    have hlast : EndsVisibly last := hback last (by simp)
    refine ih (fun c hc => hback c (by simp [hc])) ?_
    rw [← List.append_assoc, ← List.append_assoc] at h
    by_cases hnil : front ++ back = []
    · -- A single condition that is found again has nothing in front of it.
      obtain ⟨rfl, rfl⟩ := List.append_eq_nil_iff.1 hnil
      simp only [List.append_nil, List.nil_append] at h ⊢
      have hsep := separable_splitConditions (commaJoin [last])
      rw [h] at hsep
      rw [splitConditions_commaJoin (hsep.sublist (List.sublist_append_right _ _))] at h
      rw [List.self_eq_append_left.1 h]
      rfl
    · rw [commaJoin_append hnil (by simp), commaJoin_singleton] at h
      exact splitConditions_of_append_comma hlast h

/-- **Conditions with new ones behind them are read back** exactly if they are the conditions that
were there and a reader keeps them and the new ones apart. -/
theorem splitConditions_append_eq_iff {front back conditions : List (List Char)}
    (hfront : Separable front) (hback : ∀ c ∈ back, EndsVisibly c) :
    splitConditions (commaJoin (front ++ back)) = conditions ++ back
      ↔ front = conditions ∧ Separable (conditions ++ back) := by
  constructor
  · intro h
    have hsep := separable_splitConditions (commaJoin (front ++ back))
    rw [h] at hsep
    refine ⟨?_, hsep⟩
    rw [← splitConditions_commaJoin hfront]
    exact splitConditions_of_append hback h
  · rintro ⟨rfl, hsep⟩
    exact splitConditions_commaJoin hsep

end Wire

namespace Writing

/-! ### The two parts of writing -/

/-- The parameters with those that filters set by themselves.  A later filter overrules an earlier
one with the same key. -/
def direct (filters : List Filter) (base : Params) : Params :=
  ((filters.filter setsParameter).map entry).foldl (fun p e => p.insert e.1 e.2) base

/-- The parameters with new conditions in the grouping parameter, if there are any.  Those that are
there come first. -/
def merged (groupKey : String) (p : Params) (added : List (List Char)) : Params :=
  if added = [] then p else p.insert groupKey (group (present (p.get? groupKey) ++ added))

/-- **Writing** sets the parameters of filters first, and then the grouping parameter.  The group is
read after the parameters have been set, since one of them may have its key. -/
theorem params_eq {filters : List Filter} (hwritable : Writable filters) (groupKey : String)
    (base : Params) :
    params groupKey filters base
      = ((filters.filter joinsGroup).mapM fun f => rangeConditions f.field f.value).map fun own =>
        merged groupKey (direct filters base) own.flatten := by
  rw [params, collect_eq hwritable]
  cases (filters.filter joinsGroup).mapM fun f => rangeConditions f.field f.value with
  | error e => rfl
  | ok own =>
    simp only [Except.map, bind, Except.bind, List.isEmpty_iff, merged, direct]
    split <;> rfl

theorem get?_direct_of_ne {filters : List Filter} {key : String}
    (h : ∀ f ∈ filters, setsParameter f = true → (entry f).1 ≠ key) (base : Params) :
    (direct filters base).get? key = base.get? key := by
  refine Params.get?_foldl_insert_of_ne (fun e he => ?_) base
  obtain ⟨f, hf, rfl⟩ := List.mem_map.1 he
  obtain ⟨hf, hsets⟩ := List.mem_filter.1 hf
  exact h f hf hsets

theorem get?_merged_of_ne {groupKey key : String} (h : key ≠ groupKey) (p : Params)
    (added : List (List Char)) : (merged groupKey p added).get? key = p.get? key := by
  unfold merged
  split
  · rfl
  · rw [Params.get?_insert, if_neg h]

/-- The conditions that a range adds are those of its field, and end visibly.  The name of the field
may be anything. -/
theorem of_mem_flatten {filters : List Filter} {own : List (List (List Char))}
    (h : (filters.filter joinsGroup).mapM (fun f => rangeConditions f.field f.value) = .ok own)
    {c : List Char} (hc : c ∈ own.flatten) :
    (∃ f ∈ filters, joinsGroup f = true ∧ ∃ op v, c = Wire.condition f.field op v) ∧
      Wire.EndsVisibly c := by
  obtain ⟨conditions, hconditions, hc⟩ := List.mem_flatten.1 hc
  obtain ⟨f, hf, hrange⟩ := exists_of_mem_mapM h hconditions
  obtain ⟨hf, hjoins⟩ := List.mem_filter.1 hf
  obtain ⟨op, v, rfl⟩ := exists_of_mem_rangeConditions hrange hc
  -- A written condition ends with a quote, a bracket or a character of its own.
  obtain ⟨d, hd, hblank, hcomma, -⟩ := Wire.exists_getLast?_condition f.field op v
  exact ⟨⟨f, hf, hjoins, op, v, rfl⟩, d, hd, hblank, hcomma⟩

/-! ### Conditions that are carried over -/

variable {s : Scheme}

/-- The value is a group of conditions that close their quotes and brackets.  This is what a writer
leaves there. -/
def Balanced (v : Value) : Prop :=
  ∃ conditions, (∀ c ∈ conditions, Wire.Closed c) ∧ v = group conditions

/-- The conditions of the grouping parameter that are carried over when others are added: all of
them if none is added, and otherwise those of a single text.  The others are lost when the parameter
is written again. -/
def carried (s : Scheme) (p : Params) (added : List (List Char)) : List (List Char) :=
  if added = [] then s.grouped p else present (p.get? s.groupKey)

/-- The conditions of balanced groups are closed.  Each value of a repeated parameter is cut by
itself. -/
theorem closed_of_mem_grouped {p : Params}
    (h : ∀ v, p.get? s.groupKey = some v → ∀ w ∈ values v, Balanced w) :
    ∀ c ∈ s.grouped p, Wire.Closed c := by
  intro c hc
  unfold Scheme.grouped at hc
  split at hc
  · next v hv =>
    obtain ⟨w, hw, hc⟩ := List.mem_flatMap.1 hc
    obtain ⟨conditions, hclosed, rfl⟩ := h v hv w hw
    have hshown : (group conditions).shown.toList = '(' :: Wire.commaJoin conditions ++ [')'] :=
      String.toList_ofList
    rw [hshown, unwrapGroup_enclosed] at hc
    exact Wire.closed_of_mem_splitConditions (Wire.closed_commaJoin hclosed) c hc
  · simp at hc

theorem separable_present (v : Option Value) : Wire.Separable (present v) := by
  unfold present
  split
  · exact Wire.separable_splitConditions _
  · exact ⟨by simp, by simp, by simp, by simp⟩

/-- **The conditions of a merged group** are those that were there and the new ones exactly if those
that were there are carried over and a reader keeps the new ones apart.  The conditions that were
there are closed, so that they keep out of the new ones. -/
theorem grouped_merged_iff {p : Params} {before added : List (List Char)}
    (hbefore : ∀ c ∈ before, Wire.Closed c) (hadded : ∀ c ∈ added, Wire.EndsVisibly c) :
    s.grouped (merged s.groupKey p added) = before ++ added
      ↔ carried s p added = before ∧ Wire.Separable added := by
  by_cases hnil : added = []
  · subst hnil
    have hsep : Wire.Separable [] := ⟨by simp, by simp, by simp, by simp⟩
    rw [merged, if_pos rfl, carried, if_pos rfl, List.append_nil, and_iff_left hsep]
  -- With new conditions there is one text, and it is read as a whole.
  have hgroup : s.grouped (merged s.groupKey p added)
      = Wire.splitConditions (Wire.commaJoin (present (p.get? s.groupKey) ++ added)) := by
    rw [merged, if_neg hnil, Scheme.grouped, Params.get?_insert, if_pos rfl]
    exact conditions_group _
  have hcarried := separable_present (p.get? s.groupKey)
  rw [hgroup, carried, if_neg hnil, Wire.splitConditions_append_eq_iff hcarried hadded]
  refine and_congr_right fun hsame => ⟨fun hsep => hsep.sublist (List.sublist_append_right _ _), ?_⟩
  exact (hsame ▸ hcarried).append hbefore

/-- A single text is carried over, and of other parameters nothing.  A repeated parameter without
conditions has nothing to lose. -/
theorem carried_eq_grouped_iff {p base : Params} (h : p.get? s.groupKey = base.get? s.groupKey)
    (hbase : ∀ v, base.get? s.groupKey = some v → v.Textual) (added : List (List Char)) :
    carried s p added = s.grouped base
      ↔ added = [] ∨ s.grouped base = [] ∨ ∃ t, base.get? s.groupKey = some (.text t) := by
  have hgrouped : s.grouped p = s.grouped base := by
    rw [Scheme.grouped, Scheme.grouped, h]
  rw [carried, h, hgrouped]
  by_cases hnil : added = []
  · simp [hnil]
  rw [if_neg hnil, or_iff_right hnil]
  cases hv : base.get? s.groupKey with
  | none => simp [present, Scheme.grouped, hv]
  | some v =>
    rcases hbase v hv with ⟨t, rfl⟩ | ⟨texts, rfl⟩
    · have hsame : present (some (.text t)) = s.grouped base := by
        rw [Scheme.grouped, hv]
        exact (List.flatMap_singleton _ _).symm
      rw [hsame]
      exact iff_of_true rfl (.inr ⟨t, rfl⟩)
    · -- A list is no text, so nothing of it is carried over.
      have hnone : present (some (.list (texts.map .text))) = [] := rfl
      have hlist : ¬ ∃ t, some (Value.list (texts.map .text)) = some (.text t) := by simp
      rw [hnone, or_iff_left hlist, eq_comm]

/-! ### Writing as a whole -/

/-- Writing gives parameters exactly if each value that sets one can be written, and each range has
two bounds, which can be written.  A filter without a value is not written and sets no condition. -/
theorem exists_params_eq_ok_iff {groupKey : String} {filters : List Filter} {base : Params} :
    (∃ q, params groupKey filters base = .ok q)
      ↔ (∀ f ∈ filters, setsParameter f = true → f.value.isWritable = true) ∧
        ∀ f ∈ filters, joinsGroup f = true →
          ∃ made, rangeConditions f.field f.value = .ok made := by
  by_cases hwritable : ∀ f ∈ filters, setsParameter f = true → f.value.isWritable = true
  swap
  · -- A value that is too long fails by itself, whatever the ranges are.
    exact iff_of_false (fun ⟨q, hq⟩ => hwritable (writable_of_params hq)) fun h => hwritable h.1
  have hmapM : (∃ own, (filters.filter joinsGroup).mapM (fun f => rangeConditions f.field f.value)
      = .ok own) ↔ ∀ f ∈ filters.filter joinsGroup, ∃ made,
        rangeConditions f.field f.value = .ok made := exists_mapM_eq_ok_iff
  simp only [List.mem_filter, and_imp] at hmapM
  rw [and_iff_right hwritable, ← hmapM, params_eq hwritable]
  cases (filters.filter joinsGroup).mapM fun f => rangeConditions f.field f.value <;>
    simp [Except.map]

/-- **What writing keeps of the parameters that are there.**  Writing succeeds if each range has two
bounds and no value has an integer that is too long to be written.  The parameters of which no
filter writes keep their values.  The conditions of the group are those that were there and those of
the ranges exactly if those that were there are carried over and a reader keeps those of the ranges
apart.  Fields with plain names are kept apart; what is carried over is a single text: a repeated
grouping parameter is replaced by the conditions of the ranges, and its own are lost. -/
theorem grouped_params {filters : List Filter} {base : Params}
    (hbase : ∀ v, base.get? s.groupKey = some v → v.Textual ∧ ∀ w ∈ values v, Balanced w) :
    ((∃ q, params s.groupKey filters base = .ok q)
        ↔ (∀ f ∈ filters, setsParameter f = true → f.value.isWritable = true) ∧
          ∀ f ∈ filters, joinsGroup f = true →
            ∃ made, rangeConditions f.field f.value = .ok made) ∧
      ∀ q, params s.groupKey filters base = .ok q →
        ∃ own, (filters.filter joinsGroup).mapM (fun f => rangeConditions f.field f.value)
            = .ok own ∧
          (∀ key ≠ s.groupKey, (∀ f ∈ filters, setsParameter f = true → (entry f).1 ≠ key) →
            q.get? key = base.get? key) ∧
          (s.grouped q = s.grouped base ++ own.flatten
            ↔ carried s (direct filters base) own.flatten = s.grouped base ∧
              Wire.Separable own.flatten) ∧
          ((∀ f ∈ filters, joinsGroup f = true → PlainName f.field) →
            (∀ f ∈ filters, setsParameter f = true → (entry f).1 ≠ s.groupKey) →
            (s.grouped q = s.grouped base ++ own.flatten
                ↔ own.flatten = [] ∨ s.grouped base = []
                  ∨ ∃ t, base.get? s.groupKey = some (.text t)) ∧
              ∀ texts, base.get? s.groupKey = some (.list texts) → own.flatten ≠ [] →
                q.get? s.groupKey = some (group own.flatten)) := by
  have htextual := fun v hv => (hbase v hv).1
  have hclosed := closed_of_mem_grouped fun v hv => (hbase v hv).2
  refine ⟨exists_params_eq_ok_iff, fun q hq => ?_⟩
  rw [params_eq (writable_of_params hq)] at hq
  cases hown : (filters.filter joinsGroup).mapM fun f => rangeConditions f.field f.value with
  | error e =>
    rw [hown] at hq
    exact absurd hq (by simp [Except.map])
  | ok own =>
    rw [hown] at hq
    obtain rfl : merged s.groupKey (direct filters base) own.flatten = q := Except.ok.inj hq
    -- The conditions that were there are closed, and the new ones end visibly.
    have hread : s.grouped (merged s.groupKey (direct filters base) own.flatten)
        = s.grouped base ++ own.flatten
        ↔ carried s (direct filters base) own.flatten = s.grouped base ∧
          Wire.Separable own.flatten :=
      grouped_merged_iff hclosed fun c hc => (of_mem_flatten hown hc).2
    refine ⟨own, rfl, fun key hkey hset => ?_, hread, fun hplain hset => ⟨?_, ?_⟩⟩
    · rw [get?_merged_of_ne hkey, get?_direct_of_ne hset]
    · have hsep : Wire.Separable own.flatten := by
        refine (separable_of_plainName fun c hc => ?_).1
        obtain ⟨⟨f, hf, hjoins, op, v, rfl⟩, -⟩ := of_mem_flatten hown hc
        exact ⟨f.field, op, v, hplain f hf hjoins, rfl⟩
      rw [hread, and_iff_left hsep]
      exact carried_eq_grouped_iff (get?_direct_of_ne hset base) htextual own.flatten
    · intro texts hlist hadded
      rw [merged, if_neg hadded, get?_direct_of_ne hset, hlist, Params.get?_insert, if_pos rfl]
      rfl

/-- A group of two lists in two parameters of one key, and a limit.  It is read as one group with
all three conditions. -/
def repeatedGroup : Params where
  entries := [("and", .list [.text "(status.in.(a,b))", .text "(amount.gte.5,code.in.(x))"]),
    ("limit", .text "10")]
  nodup := by decide

/-- A range without an upper bound, and a title.  The title sets a parameter of its own. -/
def boundAndTitle : List Filter :=
  [⟨"made", .between, .range (.text "1") .null, none, "made"⟩,
    ⟨"title", .eq, .text "a,b", none, "title"⟩]

/-- The bound takes the place of the conditions that were there; the limit stays. -/
theorem repeatedGroup_grouped_params :
    (∀ v, repeatedGroup.get? "and" = some v → v.Textual ∧ ∀ w ∈ values v, Balanced w) ∧
      Scheme.grouped ⟨[], "and"⟩ repeatedGroup
        = ["status.in.(a,b)".toList, "amount.gte.5".toList, "code.in.(x)".toList] ∧
      ∃ q, params "and" boundAndTitle repeatedGroup = .ok q ∧
        q.get? "limit" = some (.text "10") ∧
        q.get? "and" = some (group ["made.gte.1".toList]) ∧
        Scheme.grouped ⟨[], "and"⟩ q
          ≠ Scheme.grouped ⟨[], "and"⟩ repeatedGroup ++ ["made.gte.1".toList] := by
  have hbase : ∀ v, repeatedGroup.get? "and" = some v → v.Textual ∧ ∀ w ∈ values v, Balanced w := by
    intro v hv
    obtain rfl := Option.some.inj hv
    refine ⟨.inr ⟨["(status.in.(a,b))", "(amount.gte.5,code.in.(x))"], rfl⟩, fun w hw => ?_⟩
    rcases List.mem_pair.1 hw with rfl | rfl
    · refine ⟨["status.in.(a,b)".toList], fun c hc => ?_, rfl⟩
      obtain rfl := List.mem_singleton.1 hc
      rfl
    · refine ⟨["amount.gte.5".toList, "code.in.(x)".toList], fun c hc => ?_, rfl⟩
      rcases List.mem_pair.1 hc with rfl | rfl <;> rfl
  obtain ⟨hsome, hall⟩ := @grouped_params ⟨[], "and"⟩ boundAndTitle repeatedGroup hbase
  have hbounds : ∀ f ∈ boundAndTitle, joinsGroup f = true →
      ∃ made, rangeConditions f.field f.value = .ok made := by
    intro f hf hjoins
    rcases List.mem_pair.1 hf with rfl | rfl
    · exact ⟨_, rfl⟩
    · exact absurd hjoins (by decide)
  have hwritable : ∀ f ∈ boundAndTitle, setsParameter f = true → f.value.isWritable = true := by
    intro f hf _
    rcases List.mem_pair.1 hf with rfl | rfl <;> rfl
  obtain ⟨q, hq⟩ := hsome.2 ⟨hwritable, hbounds⟩
  obtain ⟨own, hown, hkeep, -, hplain⟩ := hall q hq
  obtain rfl : [["made.gte.1".toList]] = own := Except.ok.inj hown
  obtain ⟨hread, hlost⟩ := hplain (by decide) (by decide)
  refine ⟨hbase, rfl, q, hq, hkeep "limit" (by decide) (by decide), hlost _ rfl (by decide), ?_⟩
  intro hsame
  -- None of the three ways to keep the conditions is open here.
  rcases hread.1 hsame with hnone | hnone | ⟨t, htext⟩
  · exact absurd hnone (by decide)
  · exact absurd hnone (by decide)
  · exact Value.noConfusion (Option.some.inj htext)

end Writing

end UrlFilter
