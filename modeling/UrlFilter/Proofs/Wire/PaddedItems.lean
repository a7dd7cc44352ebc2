import UrlFilter.Proofs.Wire.ListLiteral

namespace UrlFilter.Wire

open UrlFilter.Text

/-!
# Items with blanks around them

A list that is written by hand has blanks around its items.  Around an item without quotes they are
dropped, and so are those in front of an opening quote; but those behind a closing quote become part
of the item.

* `PaddedItem` — a text as an item of a list, and the blanks around it.
* `PaddedItem.read` — what is read of it in a list.
* `PaddedItem.readsAs_written` — the reader of items takes it in as this.
* `readList_padded` — what is read of a list of such items, and when these are the texts themselves.
-/

/-- A text that is written as an item of a list, and the blanks around it there. -/
structure PaddedItem where
  before : List Char
  text : String
  after : List Char
  before_blank : ∀ c ∈ before, isBlank c = true
  after_blank : ∀ c ∈ after, isBlank c = true

namespace PaddedItem

/-- The item as it stands in a list. -/
def written (i : PaddedItem) : List Char :=
  i.before ++ quoteItem (.text i.text) ++ i.after

/-- The item is written in quotes. -/
def Quoted (i : PaddedItem) : Prop :=
  quoteItem (.text i.text) = enquote i.text.toList

instance : DecidablePred Quoted := fun i =>
  inferInstanceAs (Decidable (quoteItem (.text i.text) = enquote i.text.toList))

/-- What is read of the item in a list: behind a closing quote, blanks count. -/
def read (i : PaddedItem) : List Char :=
  if i.Quoted then i.text.toList ++ i.after else i.text.toList

/-- An item that is not written in quotes is written as it is. -/
theorem quoteItem_of_not_quoted {i : PaddedItem} (h : ¬ i.Quoted) :
    quoteItem (.text i.text) = i.text.toList ∧ i.text.toList ≠ [] ∧
      trim i.text.toList = i.text.toList ∧ ∀ c ∈ i.text.toList, needsQuoting c = false :=
  (quoteText_cases i.text.toList).resolve_left h

/-- Without the blanks around it, an item is as it is written. -/
theorem trim_written (i : PaddedItem) : trim i.written = quoteItem (.text i.text) :=
  trim_between i.before_blank (trim_quoteText _) (quoteText_ne_nil _) i.after_blank

/-- **The reader takes an item in with the blanks behind its quotes.** -/
theorem readsAs_written (i : PaddedItem) : ReadsAs i.written i.read := by
  by_cases hquoted : i.Quoted
  · rw [written, read, if_pos hquoted, hquoted]
    exact readsAs_enquote i.before_blank i.after_blank _
  · obtain ⟨hwritten, hne, htrim, hplain⟩ := quoteItem_of_not_quoted hquoted
    rw [written, read, if_neg hquoted, hwritten]
    exact readsAs_plain i.before_blank i.after_blank hne htrim hplain

/-- The text itself is read where no blank stands behind quotes.  Without quotes the blanks are
always dropped. -/
theorem read_eq_text_iff (i : PaddedItem) : i.read = i.text.toList ↔ (i.Quoted → i.after = []) := by
  rw [read]
  split
  · next hquoted => simp [hquoted]
  · next hplain => simp [hplain]

end PaddedItem

/-- **Items with blanks around them.**  For every operator, a list is read of any items with any
blanks around them.  It has as many items, and each is the text that was written, with the blanks
behind its closing quote if it has quotes.  So the list of the texts is read exactly if no blank
stands behind a closing quote; yet outside of a list the same item is read without them. -/
theorem readList_padded (op : Operator) (items : List PaddedItem) :
    readList op ((brackets op).1 :: commaJoin (items.map PaddedItem.written) ++ [(brackets op).2])
        = items.map PaddedItem.read ∧
      (readList op
            ((brackets op).1 :: commaJoin (items.map PaddedItem.written) ++ [(brackets op).2])
          = items.map (·.text.toList) ↔ ∀ i ∈ items, i.Quoted → i.after = []) ∧
      ∀ i ∈ items, i.Quoted → unquoteItem i.written = i.text.toList := by
  have hread : readList op
      ((brackets op).1 :: commaJoin (items.map PaddedItem.written) ++ [(brackets op).2])
        = items.map PaddedItem.read := by
    have hsplit := splitItems_map (fun (i : PaddedItem) (_ : i ∈ items) => i.readsAs_written)
      fun i _ => by
        rw [i.trim_written]
        exact quoteText_ne_nil _
    rw [readList, readList?_brackets, hsplit, Option.getD_some]
  refine ⟨hread, ?_, fun i _ hquoted => unquoteItem_of_trim (i.trim_written.trans hquoted)⟩
  rw [hread, List.map_inj_left]
  exact forall₂_congr fun i _ => i.read_eq_text_iff

/-- A blank between a quote and a comma becomes part of the item, one behind a plain item does
not. -/
example : readList .among "(\"a,b\" ,c )".toList = ["a,b ".toList, ['c']] := by decide

end UrlFilter.Wire
