import UrlFilter.Proofs.Text.Trimming
import UrlFilter.Wire.ListLiteral

namespace UrlFilter.Wire

open UrlFilter.Text

/-!
# Reading back lists

An item reads back as it was written, whatever characters it holds.

* `ReadsAs`, `readsAs_quoteText` — the reader of items takes a written item in as a whole.
* `splitItems_commaJoin` — the items of a written list are the items that were written.
* `unquoteItem_quoteText` — an item reads back outside of a list too.
* `readList?_enclosed` — a list in the brackets of its operator reads back.
-/

/-! ### Pieces with commas between them -/

/-- No pieces make the empty text. -/
@[simp] theorem commaJoin_nil : commaJoin [] = [] := rfl

/-- A single piece has no comma around it. -/
@[simp] theorem commaJoin_singleton (piece : List Char) : commaJoin [piece] = piece :=
  List.intercalate_singleton

/-- A comma stands between a piece and the next one. -/
theorem commaJoin_cons_cons (piece next : List Char) (rest : List (List Char)) :
    commaJoin (piece :: next :: rest) = piece ++ ',' :: commaJoin (next :: rest) := by
  rw [commaJoin, List.intercalate_cons_cons, List.append_assoc, List.singleton_append]
  rfl

/-- A first piece, and the comma behind it if there are more. -/
theorem commaJoin_cons_of_ne_nil (piece : List Char) {rest : List (List Char)} (h : rest ≠ []) :
    commaJoin (piece :: rest) = piece ++ ',' :: commaJoin rest := by
  obtain ⟨next, rest, rfl⟩ := List.exists_cons_of_ne_nil h
  exact commaJoin_cons_cons piece next rest

/-- Between two runs of pieces stands one comma. -/
theorem commaJoin_append {front back : List (List Char)} (hf : front ≠ []) (hb : back ≠ []) :
    commaJoin (front ++ back) = commaJoin front ++ ',' :: commaJoin back := by
  induction front with
  | nil => exact absurd rfl hf
  | cons piece front ih =>
    cases front with
    | nil => rw [List.singleton_append, commaJoin_cons_of_ne_nil piece hb, commaJoin_singleton]
    | cons next front =>
      rw [List.cons_append, List.cons_append, commaJoin_cons_cons, ← List.cons_append,
        ih (by simp), commaJoin_cons_cons, List.append_assoc, List.cons_append]

/-- Pieces with commas between them start like the first one. -/
theorem head?_commaJoin_cons {piece : List Char} (h : piece ≠ []) (rest : List (List Char)) :
    (commaJoin (piece :: rest)).head? = piece.head? := by
  cases rest with
  | nil => rw [commaJoin_singleton]
  | cons next rest => rw [commaJoin_cons_cons, List.head?_append_of_ne_nil _ h]

/-- Pieces with commas between them end like the last one. -/
theorem getLast?_commaJoin_concat (front : List (List Char)) {last : List Char} (h : last ≠ []) :
    (commaJoin (front ++ [last])).getLast? = last.getLast? := by
  by_cases hfront : front = []
  · rw [hfront, List.nil_append, commaJoin_singleton]
  · rw [commaJoin_append hfront (by simp), commaJoin_singleton,
      List.getLast?_append_of_ne_nil _ (by simp), List.getLast?_cons_of_ne_nil h]

/-- Pieces without blanks around them make a text without blanks around it.  Only the front of the
first piece and the end of the last one count. -/
theorem trim_commaJoin {pieces : List (List Char)} (hne : ∀ p ∈ pieces, p ≠ [])
    (ht : ∀ p ∈ pieces, trim p = p) : trim (commaJoin pieces) = commaJoin pieces := by
  refine trim_eq_self_iff.2 ⟨?_, ?_⟩
  · cases pieces with
    | nil => simp
    | cons piece rest =>
      rw [head?_commaJoin_cons (hne piece (by simp))]
      exact (trim_eq_self_iff.1 (ht piece (by simp))).1
  · rcases List.eq_nil_or_concat pieces with rfl | ⟨front, last, rfl⟩
    · simp
    · rw [List.concat_eq_append] at hne ht ⊢
      rw [getLast?_commaJoin_concat front (hne last (by simp))]
      exact (trim_eq_self_iff.1 (ht last (by simp))).2

/-- Pieces that are not empty make no empty text. -/
theorem commaJoin_eq_nil_iff {pieces : List (List Char)} (h : ∀ p ∈ pieces, p ≠ []) :
    commaJoin pieces = [] ↔ pieces = [] := by
  cases pieces with
  | nil => simp
  | cons piece pieces =>
    have hne : piece ≠ [] := h piece (by simp)
    cases pieces with
    | nil => simpa using hne
    | cons next pieces => simp [commaJoin_cons_cons]

/-! ### What a written item looks like -/

/-- A blank has no meaning.  The reader of items takes it in like any other character. -/
theorem not_needsQuoting_of_isBlank {c : Char} (h : isBlank c = true) :
    needsQuoting c = false := by
  rw [Bool.eq_false_iff]
  intro hq
  simp only [needsQuoting, Bool.or_eq_true, beq_iff_eq] at hq
  rcases hq with (((((rfl | rfl) | rfl) | rfl) | rfl) | rfl) | rfl <;> exact absurd h (by decide)

/-- A text that stands in a list without quotes has no character with a meaning there. -/
theorem quoteText_cases (cs : List Char) :
    quoteText cs = enquote cs ∨
      (quoteText cs = cs ∧ cs ≠ [] ∧ trim cs = cs ∧ ∀ c ∈ cs, needsQuoting c = false) := by
  by_cases h : (cs.isEmpty || cs != trim cs || cs.any needsQuoting) = true
  · exact .inl (by rw [quoteText, if_pos h])
  · refine .inr ⟨by rw [quoteText, if_neg h], ?_⟩
    simp only [Bool.or_eq_true, List.isEmpty_iff, bne_iff_ne, List.any_eq_true, not_or,
      not_exists, not_and, Bool.not_eq_true, ne_eq, not_not] at h
    exact ⟨h.1.1, h.1.2.symm, h.2⟩

/-- A written item is never empty: the empty text is written as two quotes. -/
theorem quoteText_ne_nil (cs : List Char) : quoteText cs ≠ [] := by
  rcases quoteText_cases cs with h | ⟨h, hne, -⟩
  · rw [h]
    exact List.cons_ne_nil _ _
  · rwa [h]

/-- A written item has no blanks around it.  A text that starts or ends with a blank is written in
quotes. -/
theorem trim_quoteText (cs : List Char) : trim (quoteText cs) = quoteText cs := by
  rcases quoteText_cases cs with h | ⟨h, -, ht, -⟩
  · rw [h]
    exact trim_cons_concat (by decide) (by decide) _
  · rw [h, ht]

/-! ### Reading one item -/

/-- Between quotes, the reader takes in what the backslashes protect, up to the closing quote.  The
backslashes themselves are dropped. -/
theorem itemsFrom_escape (item : ItemDraft) (cs rest : List Char) :
    itemsFrom .quoted item (escape cs ++ '"' :: rest)
      = itemsFrom .plain ⟨cs.reverse ++ item.reversed, item.quoted⟩ rest := by
  induction cs generalizing item with
  | nil => simp [escape, itemsFrom]
  | cons c cs ih =>
    have hpush : item.push c = ⟨c :: item.reversed, item.quoted⟩ := rfl
    rw [escape, List.flatMap_cons, ← escape, List.append_assoc]
    -- A protected character takes two steps of the reader, any other one takes one.
    by_cases h : c = '\\' ∨ c = '"'
    · rw [if_pos h, List.cons_append, List.singleton_append, itemsFrom, if_pos rfl, itemsFrom, ih,
        hpush, List.reverse_cons, List.append_assoc, List.singleton_append]
    · rw [not_or] at h
      rw [if_neg (by simp [h]), List.singleton_append, itemsFrom, if_neg h.1, if_neg h.2, ih,
        hpush, List.reverse_cons, List.append_assoc, List.singleton_append]

/-- Outside of quotes, the reader takes in characters that have no meaning.  The draft keeps its
characters in reverse, so that each of them is added at the front. -/
theorem itemsFrom_plain_append (item : ItemDraft) {cs : List Char}
    (h : ∀ c ∈ cs, needsQuoting c = false) (rest : List Char) :
    itemsFrom .plain item (cs ++ rest)
      = itemsFrom .plain ⟨cs.reverse ++ item.reversed, item.quoted⟩ rest := by
  induction cs generalizing item with
  | nil => rfl
  | cons c cs ih =>
    have hc : c ≠ '"' ∧ c ≠ ',' := by
      have hc := h c (by simp)
      constructor <;> rintro rfl <;> exact absurd hc (by decide)
    have hpush : item.push c = ⟨c :: item.reversed, item.quoted⟩ := rfl
    rw [List.cons_append, itemsFrom, if_neg hc.1, if_neg hc.2, ih _ fun d hd => h d (by simp [hd]),
      hpush, List.reverse_cons, List.append_assoc, List.singleton_append]

/-- The reader takes a text in as one item: what stands behind the text is read with a draft whose
finished form is the item. -/
def ReadsAs (written item : List Char) : Prop :=
  ∃ draft : ItemDraft, draft.finish = item ∧
    ∀ rest, itemsFrom .plain .empty (written ++ rest) = itemsFrom .plain draft rest

section Blanks

variable {before after : List Char} (hbefore : ∀ c ∈ before, isBlank c = true)
  (hafter : ∀ c ∈ after, isBlank c = true)

include hbefore hafter

/-- Blanks around quotes: those before the opening one are dropped, and those behind the closing one
become part of the item. -/
theorem readsAs_enquote (cs : List Char) :
    ReadsAs (before ++ enquote cs ++ after) (cs ++ after) := by
  refine ⟨⟨after.reverse ++ cs.reverse, true⟩, by simp [ItemDraft.finish], fun rest => ?_⟩
  have hshape : before ++ enquote cs ++ after ++ rest
      = before ++ '"' :: (escape cs ++ '"' :: (after ++ rest)) := by
    simp [enquote]
  rw [hshape, itemsFrom_plain_append _ fun c hc => not_needsQuoting_of_isBlank (hbefore c hc),
    itemsFrom, if_pos rfl, itemsFrom_escape, List.append_nil,
    itemsFrom_plain_append _ fun c hc => not_needsQuoting_of_isBlank (hafter c hc)]

/-- Blanks around a text without quotes are dropped. -/
theorem readsAs_plain {cs : List Char} (hne : cs ≠ []) (ht : trim cs = cs)
    (hplain : ∀ c ∈ cs, needsQuoting c = false) : ReadsAs (before ++ cs ++ after) cs := by
  have hfinish : (ItemDraft.mk (before ++ cs ++ after).reverse false).finish = cs := by
    rw [ItemDraft.finish, if_neg (by simp), List.reverse_reverse]
    exact trim_between hbefore ht hne hafter
  refine ⟨_, hfinish, fun rest => ?_⟩
  have hall : ∀ c ∈ before ++ cs ++ after, needsQuoting c = false := by
    simp only [List.forall_mem_append]
    exact ⟨⟨fun c hc => not_needsQuoting_of_isBlank (hbefore c hc), hplain⟩,
      fun c hc => not_needsQuoting_of_isBlank (hafter c hc)⟩
  rw [itemsFrom_plain_append _ hall, ItemDraft.empty, List.append_nil]

end Blanks

/-- **The reader takes a written item in as a whole.**  It is written in one of two forms, and there
are no blanks around either. -/
theorem readsAs_quoteText (cs : List Char) : ReadsAs (quoteText cs) cs := by
  have hnone : ∀ c ∈ ([] : List Char), isBlank c = true := fun c hc => absurd hc List.not_mem_nil
  rcases quoteText_cases cs with h | ⟨h, hne, ht, hplain⟩
  · rw [h]
    simpa using readsAs_enquote hnone hnone cs
  · rw [h]
    simpa using readsAs_plain hnone hnone hne ht hplain

/-! ### Reading lists -/

section Lists

variable {α : Type} {written item : α → List Char} {xs : List α}

/-- Texts that are taken in as items, with commas between them, are read as these items.  The comma
behind an item finishes its draft, and the next one starts with an empty draft. -/
theorem itemsFrom_commaJoin (h : ∀ x ∈ xs, ReadsAs (written x) (item x)) (hne : xs ≠ []) :
    itemsFrom .plain .empty (commaJoin (xs.map written)) = xs.map item := by
  induction xs with
  | nil => exact absurd rfl hne
  | cons first xs ih =>
    rw [List.forall_mem_cons] at h
    obtain ⟨draft, hfinish, hread⟩ := h.1
    -- The last item ends with the text, any other one with a comma.
    cases xs with
    | nil =>
      have hend := hread []
      rw [List.append_nil] at hend
      rw [List.map_singleton, commaJoin_singleton, hend, itemsFrom, hfinish, List.map_singleton]
    | cons second xs =>
      rw [List.map_cons, List.map_cons, commaJoin_cons_cons, hread, itemsFrom, if_neg (by decide),
        if_pos rfl, hfinish, ← List.map_cons, ih h.2 (by simp)]
      rfl

/-- Texts that are taken in as items and are not blank are split into these items. -/
theorem splitItems_map (h : ∀ x ∈ xs, ReadsAs (written x) (item x))
    (hblank : ∀ x ∈ xs, trim (written x) ≠ []) :
    splitItems (commaJoin (xs.map written)) = xs.map item := by
  cases xs with
  | nil => rfl
  | cons first xs =>
    have hfirst : written first ⊆ commaJoin ((first :: xs).map written) := by
      intro c hc
      cases xs with
      | nil => simpa using hc
      | cons second xs =>
        rw [List.map_cons, List.map_cons, commaJoin_cons_cons]
        exact List.mem_append_left _ hc
    -- The reader takes a blank text for no items, but no text of an item is blank.
    have hsome : ¬ (trim (commaJoin ((first :: xs).map written))).isEmpty = true := by
      rw [List.isEmpty_iff, trim_eq_nil_iff]
      exact fun hall => hblank first (by simp) (trim_eq_nil_iff.2 fun c hc => hall c (hfirst hc))
    rw [splitItems, if_neg hsome]
    exact itemsFrom_commaJoin h (by simp)

end Lists

/-- **The items of a written list are the items that were written.**  The empty list is among them:
it is written as the empty text. -/
theorem splitItems_commaJoin (items : List (List Char)) :
    splitItems (commaJoin (items.map quoteText)) = items := by
  have hread : splitItems (commaJoin (items.map quoteText)) = items.map id := by
    refine splitItems_map (fun cs _ => readsAs_quoteText cs) fun cs _ => ?_
    rw [trim_quoteText]
    exact quoteText_ne_nil cs
  rwa [List.map_id] at hread

/-! ### Reading items outside of a list -/

/-- Blanks around quotes do not count outside of a list.  It is read as a list of one item. -/
theorem unquoteItem_of_trim {cs text : List Char} (h : trim cs = enquote text) :
    unquoteItem cs = text := by
  have hone : splitItems (commaJoin ([text].map enquote)) = [text].map id := by
    have hnone : ∀ c ∈ ([] : List Char), isBlank c = true := fun c hc => absurd hc List.not_mem_nil
    refine splitItems_map (fun cs _ => ?_) fun cs hcs => ?_
    · simpa using readsAs_enquote hnone hnone cs
    · rw [List.mem_singleton.1 hcs, ← h, trim_trim, h]
      exact List.cons_ne_nil _ _
  rw [List.map_singleton, commaJoin_singleton] at hone
  unfold unquoteItem
  simp only [h]
  rw [if_pos ⟨by simp [enquote], rfl, by rw [enquote, List.getLast?_concat]⟩, hone]
  rfl

/-- **An item reads back outside of a list too.** -/
theorem unquoteItem_quoteText (cs : List Char) : unquoteItem (quoteText cs) = cs := by
  rcases quoteText_cases cs with h | ⟨h, hne, ht, hplain⟩
  · exact unquoteItem_of_trim ((trim_quoteText cs).trans h)
  · -- No quote opens a text that needs none.
    have hhead : cs.head? ≠ some '"' := by
      intro hq
      have := hplain '"' (List.mem_of_head? hq)
      exact absurd this (by decide)
    rw [h, unquoteItem, ht, if_neg (by simp [hhead])]

/-! ### Reading lists in brackets -/

/-- Neither bracket of an operator is a blank. -/
theorem not_isBlank_brackets (op : Operator) :
    isBlank (brackets op).1 = false ∧ isBlank (brackets op).2 = false := by
  cases op <;> decide

/-- What stands in the brackets of an operator is split into items.  The brackets are not blanks, so
trimming the text leaves them in place. -/
theorem readList?_brackets (op : Operator) (inner : List Char) :
    readList? op ((brackets op).1 :: inner ++ [(brackets op).2]) = some (splitItems inner) := by
  obtain ⟨hopen, hclose⟩ := not_isBlank_brackets op
  have hlast : ((brackets op).1 :: inner ++ [(brackets op).2]).getLast? = some (brackets op).2 :=
    List.getLast?_concat
  unfold readList?
  simp only [trim_cons_concat hopen hclose]
  rw [if_pos ⟨rfl, hlast, by simp⟩, List.cons_append, List.drop_succ_cons, List.drop_zero,
    List.dropLast_concat]

/-- **A list in the brackets of its operator reads back.** -/
theorem readList?_enclosed (op : Operator) (items : List (List Char)) :
    readList? op ((brackets op).1 :: commaJoin (items.map quoteText) ++ [(brackets op).2])
      = some items := by
  rw [readList?_brackets, splitItems_commaJoin]

end UrlFilter.Wire
