import UrlFilter.Proofs.RoundTrip
import UrlFilter.Proofs.Wire.BareValue

namespace UrlFilter

open Reading

/-!
# Parameters with names of their own

A field may have a parameter with a name of its own, which holds a value alone.

* `Reading.directFrom_spec` — which filters the parameters of fields make, whatever the scheme is.
* `Scheme.exists_text_of_mem_read` — a filter of a field that is asked for comes from a text.
* `Scheme.read_single` — what is read of one parameter.
* `Scheme.customKey_reads_back` — when a filter comes back from the parameter of its field.
-/

namespace Reading

variable {s : Scheme}

/-- Each filter of the parameters of fields is made by one of them, and the fields of all of them
count as seen.  No other filters are made, and no other fields are seen. -/
theorem directFrom_spec {entries : List (String × Value)} {seen after : List String}
    {filters : List Filter} (h : directFrom s seen entries = .ok (filters, after)) :
    (∀ f ∈ filters, ∃ e ∈ entries, ∃ c, s.fieldOf? e.1 = some c ∧ direct? c e.2 = .ok (some f)) ∧
      (∀ name ∈ seen, name ∈ after) ∧
      ∀ e ∈ entries, ∀ c, s.fieldOf? e.1 = some c → c.name ∈ after := by
  rw [directFrom_eq_map] at h
  -- Either some parameter cannot be made a filter, or each first parameter of a field has been.
  cases hmade : (firstOfEach seen (fieldEntries s entries)).mapM fun e => direct? e.1 e.2 with
  | error e => simp [hmade, Except.map] at h
  | ok made =>
    rw [hmade] at h
    obtain ⟨rfl, rfl⟩ := Prod.mk.inj (Except.ok.inj h)
    refine ⟨fun f hf => ?_, fun name hname => List.mem_append_right _ hname, fun e he c hc => ?_⟩
    · obtain ⟨e, he, hf⟩ := exists_of_mem_mapM hmade (List.reduceOption_mem_iff.1 hf)
      obtain ⟨key, hfield, hentry⟩ := mem_fieldEntries_iff.1 (mem_of_mem_firstOfEach he)
      exact ⟨_, hentry, e.1, hfield, hf⟩
    · have hmem : (c, e.2) ∈ fieldEntries s entries := mem_fieldEntries_iff.2 ⟨e.1, hc, he⟩
      rw [List.mem_append, List.mem_reverse]
      exact mem_seen_or_mem_firstOfEach hmem

/-- A filter that the texts of a parameter make, of a field with single values, comes from one of
the texts.  It is the last of them. -/
theorem exists_text_of_directFilter? {c d : Field} {raw : Value} (hraw : raw.Textual) {f : Filter}
    (h : directFilter? d raw = some f) (hconfig : f.config = some c)
    (hsingle : c.kind.isRange = false) : ∃ t, f = askedFilter c (.text t) := by
  unfold directFilter? at h
  split at h
  · next hrange =>
    obtain rfl := Option.some.inj ((of_rangeFilter? h).2.symm.trans hconfig)
    exact absurd hrange (by simp [hsingle])
  · obtain ⟨ts, hts⟩ := values_of_textual hraw
    rw [hts, List.getLast?_map] at h
    obtain ⟨v, hv, rfl⟩ := Option.map_eq_some_iff.1 h
    obtain ⟨t, -, rfl⟩ := Option.map_eq_some_iff.1 hv
    obtain rfl : d = c := Option.some.inj hconfig
    exact ⟨t, rfl⟩

/-- A text that no range is asked with makes the operator and the value that are read of it.  The
operator that the field starts with is used only where the text names none. -/
theorem operatorAndValue_text {c : Field} (h : c.defaultOperator ≠ .between) (t : String) :
    operatorAndValue c (.text t) = Wire.readFrom c.defaultOperator (.text t) := by
  unfold operatorAndValue Wire.readFrom
  cases Wire.read? (.text t) with
  | some asked => rfl
  | none => simp [Value.asText?, h]

end Reading

namespace Scheme

variable {s : Scheme} {c : Field}

/-- **A filter of a field with single values that is asked for comes from a text,** whatever the
scheme is: neither a group nor the value to start with makes it. -/
theorem exists_text_of_mem_read (hsingle : c.kind.isRange = false) {p : Params}
    (htext : ∀ e ∈ s.beside p, e.2.Textual) (hasked : ∃ e ∈ s.beside p, s.fieldOf? e.1 = some c)
    {r : Reading} (hread : s.read p = .ok r) {f : Filter} (hf : f ∈ r.filters)
    (hconfig : f.config = some c) : ∃ t, f = askedFilter c (.text t) := by
  obtain ⟨direct, seen, hdirect⟩ := exists_directFrom (s := s) (textual_withoutGroup htext) []
  obtain ⟨hmade, -, hseen⟩ := directFrom_spec hdirect
  rw [read_eq_bind, hdirect] at hread
  cases halways : alwaysOn s (seen ++ (groupedFilters s (s.grouped p)).map Filter.field) with
  | error e => simp [halways, Except.bind, Except.map] at hread
  | ok always =>
    simp only [halways, Except.bind, Except.map] at hread
    obtain rfl := Except.ok.inj hread
    rw [List.append_assoc, List.mem_append, List.mem_append] at hf
    rcases hf with hf | hf | hf
    · obtain ⟨e, he, d, -, hd⟩ := hmade f hf
      have hetext := textual_withoutGroup htext e he
      rw [direct?_of_textual d hetext] at hd
      exact exists_text_of_directFilter? hetext (Except.ok.inj hd) hconfig hsingle
    · -- The filters of a group are of ranges.
      obtain ⟨d, bounds, -, hrange, hfilter, -⟩ :=
        exists_of_mem_groupedFilters (List.mem_of_mem_filter hf)
      obtain rfl := Option.some.inj ((of_rangeFilter? hfilter).2.symm.trans hconfig)
      exact absurd hrange (by simp [hsingle])
    · -- A field that is asked for is seen, so that it does not start by itself.
      obtain ⟨d, hd, hstart⟩ := exists_of_mem_mapM halways hf
      obtain rfl := Option.some.inj ((Filter.of_start hstart).2.symm.trans hconfig)
      obtain ⟨e, he, hfield⟩ := hasked
      have hmem : d.name ∈ seen :=
        hseen e (by rw [(withoutGroup_eq s p).1]; exact List.mem_append_left _ he) d hfield
      have hnew := (List.mem_filter.1 hd).2
      simp [hmem] at hnew

/-- **What is read of one parameter** of a field with single values: the filter that its text asks
for, and those of the other fields that are always on.  Nothing remains, and no group is looked
at. -/
theorem read_single {key : String} (hfield : s.fieldOf? key = some c) (hne : key ≠ s.groupKey)
    (hsingle : c.kind.isRange = false) (t : String) :
    s.read (.ofList [(key, .text t)])
      = ((s.absent [c.name]).mapM Filter.start).map fun always =>
          ⟨askedFilter c (.text t) :: always, .empty⟩ := by
  have hentries : (Params.ofList [(key, .text t)]).entries = [(key, .text t)] := rfl
  have hget : (Params.ofList [(key, .text t)]).get? s.groupKey = none := by
    rw [Params.get?_eq_none_iff, Params.keys, hentries]
    simpa using hne.symm
  have hgroup : s.withoutGroup (.ofList [(key, .text t)]) = (.ofList [(key, .text t)], []) := by
    rw [withoutGroup, hget]
  have hasked : direct? c (.text t) = .ok (some (askedFilter c (.text t))) := by
    rw [direct?_of_textual c (.inl ⟨t, rfl⟩), directFilter?, if_neg (by simp [hsingle])]
    rfl
  have hdirect : directFrom s [] [(key, .text t)] = .ok ([askedFilter c (.text t)], [c.name]) := by
    simp [directFrom, hfield, hasked, bind, Except.bind, pure, Except.pure]
  have hrest : (Params.ofList [(key, .text t)]).filterKeys (fun k => (s.fieldOf? k).isNone)
      = .empty := by
    refine Params.ext ?_
    simp [Params.filterKeys, hentries, hfield, Params.empty]
  have hgrouped : s.grouped (.ofList [(key, .text t)]) = [] := by rw [grouped, hget]
  simp only [read_eq_bind, hgroup, hgrouped, hentries, hdirect, hrest, Except.bind]
  rfl

/-- **A filter that was read of a field with a parameter of its own name** is written as its value
alone, and one filter of the field is read back.  It is the same one exactly if its operator is the
one that the field starts with, or `isNull` behind `is`, and its value is no text that reads as an
operator and a value. -/
theorem customKey_reads_back {key : String} (hkeyed : s.keyed? key = some c)
    (hne : key ≠ s.groupKey) (hsingle : c.kind.isRange = false)
    (hoperators : .between ∉ c.operators) {p : Params} (htext : ∀ e ∈ s.beside p, e.2.Textual)
    (hasked : ∃ e ∈ s.beside p, s.fieldOf? e.1 = some c) {r : Reading} (hread : s.read p = .ok r)
    {f : Filter} (hf : f ∈ r.filters) (hconfig : f.config = some c)
    (hset : f.value.isUnset = false) :
    ∃ q g, Writing.params s.groupKey [f] .empty = .ok q ∧
      q.entries = [(key, .text (String.ofList (Wire.bareValue f.operator f.value)))] ∧
      s.read q = ((s.absent [c.name]).mapM Filter.start).map (fun always =>
        ⟨g :: always, .empty⟩) ∧
      g.config = some c ∧
      (g.content = f.content ↔ Wire.Regained c.defaultOperator f.operator f.value) := by
  have hkey : c.customKey? = some key := by simpa using List.find?_some hkeyed
  have hfield : s.fieldOf? key = some c := by
    rw [fieldOf?, hkeyed]
    rfl
  have hstart : c.defaultOperator ≠ .between := fun h => hoperators (h ▸ c.default_mem)
  obtain ⟨t, rfl⟩ := exists_text_of_mem_read hsingle htext hasked hread hf hconfig
  obtain ⟨hwire, hsettled⟩ : (operatorAndValue c (.text t)).1.onWire = true ∧
      Wire.Settled (operatorAndValue c (.text t)).1 (operatorAndValue c (.text t)).2 := by
    rcases operatorAndValue_cases c t with h | ⟨h, -⟩
    · exact h
    · exact absurd h hstart
  -- No text asks for a range.
  have hop : (operatorAndValue c (.text t)).1 ≠ .between := by
    intro h
    rw [h] at hwire
    exact absurd hwire (by decide)
  generalize hasked : operatorAndValue c (.text t) = asked at hsettled hop
  obtain ⟨op, v⟩ := asked
  have hfilter : askedFilter c (.text t) = ⟨c.name, op, v, some c, c.name⟩ := by
    rw [askedFilter, hasked]
  rw [hfilter] at hset ⊢
  have hwritten : Writing.params s.groupKey [⟨c.name, op, v, some c, c.name⟩] .empty
      = .ok (.ofList [(key, .text (String.ofList (Wire.bareValue op v)))]) := by
    -- What reading gives can be written.
    have hentry : Writing.parameter? ⟨c.name, op, v, some c, c.name⟩
        = .ok (key, .text (String.ofList (Wire.bareValue op v))) := by
      rw [Writing.parameter?, if_pos hsettled.isWritable]
      simp [Writing.entry, hkey]
    simp only [Writing.params, Writing.collect, hentry, if_neg hop, hset, Bool.false_eq_true,
      if_false]
    rfl
  -- The text has no operator in front of it, so it is read from the one that the field starts with.
  refine ⟨_, _, hwritten, rfl, read_single hfield hne hsingle _, rfl, ?_⟩
  rw [← Wire.readFrom_bareValue_iff c.defaultOperator hsettled, ← operatorAndValue_text hstart]
  simp [Filter.content, askedFilter, Prod.ext_iff]

/-- The title of an article, which has the parameter `search`.  It is searched for without regard to
case. -/
def title : Field :=
  { Field.ofKind .text "title" with parameter := some "search" }

/-- Articles have a title. -/
def articles : Scheme where
  fields := [title]

/-- The parameter of a title.  Its value may name an operator, although the writer never gives
one. -/
def titleIs (t : String) : Params :=
  .ofList [("search", .text t)]

/-- A pattern comes back without its operator, since that is the one that titles start with. -/
theorem title_reads_back :
    ∃ q g, Writing.params "and" [askedFilter title (.text "ilike.*a.b*")] .empty = .ok q ∧
      q.entries = [("search", .text "a.b")] ∧
      articles.read q = .ok ⟨[g], .empty⟩ ∧
      g.content = ("title", .ilike, .text "a.b") := by
  have hasked : askedFilter title (.text "ilike.*a.b*")
      = ⟨"title", .ilike, .text "a.b", some title, "title"⟩ := rfl
  obtain ⟨q, g, hwrite, hentries, hread, -, hback⟩ :=
    customKey_reads_back (s := articles) (c := title) rfl (show "search" ≠ "and" by decide) rfl
      (by decide) (p := titleIs "ilike.*a.b*")
      (fun e he => .inl ⟨"ilike.*a.b*", congrArg Prod.snd (List.mem_singleton.1 he)⟩)
      ⟨_, List.mem_singleton.2 rfl, rfl⟩ rfl (f := askedFilter title (.text "ilike.*a.b*"))
      (List.mem_singleton.2 rfl) rfl rfl
  refine ⟨q, g, hwrite, hentries, hread, hback.2 ⟨.inl rfl, fun t ht => ?_⟩⟩
  obtain rfl : "a.b" = t := Value.text.inj (by rw [hasked] at ht; exact ht)
  rfl

/-- A filter that was read need not come back from a parameter with a name of its own.  The operator
of the filter is not the one that titles start with. -/
theorem title_does_not_read_back :
    ¬ ∀ (s : Scheme) (c : Field) (key : String) (p q : Params) (r r' : Reading) (f : Filter),
      s.fields = [c] → c.customKey? = some key → key ≠ s.groupKey → key ≠ c.name →
      c.kind.isRange = false → .between ∉ c.operators → (∃ t, p = .ofList [(key, .text t)]) →
      s.read p = .ok r → f ∈ r.filters → f.value.isUnset = false →
      Writing.params s.groupKey [f] .empty = .ok q → s.read q = .ok r' →
      r'.filters.map Filter.content = [f.content] := by
  intro h
  have hback := h articles title "search" (titleIs "neq.abc") (titleIs "abc")
    ⟨[askedFilter title (.text "neq.abc")], .empty⟩ ⟨[askedFilter title (.text "abc")], .empty⟩
    (askedFilter title (.text "neq.abc")) rfl rfl (by decide) (by decide) rfl (by decide)
    ⟨_, rfl⟩ rfl (List.mem_singleton.2 rfl) rfl rfl rfl
  have hop : Operator.ilike = .neq := congrArg (·.2.1) (List.singleton_injective hback)
  exact absurd hop (by decide)

end Scheme

end UrlFilter
