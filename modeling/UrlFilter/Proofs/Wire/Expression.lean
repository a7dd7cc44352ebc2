import UrlFilter.Proofs.Fallible
import UrlFilter.Proofs.Number.Numeral
import UrlFilter.Proofs.Wire.ListLiteral
import UrlFilter.Wire.Expression

namespace UrlFilter.Wire

open UrlFilter.Text

/-!
# Reading back operators and values

What an operator and a value are written as reads back as the operator and the value.

* `written` — the parameter that an operator and a value make.
* `Settled` — the values that reading gives an operator.
* `settled_of_read?` — whatever is read is settled.
* `read?_written_of_settled` — a settled value reads back as it is.
* `written?` — writes the parameter, unless an integer has too many digits.
* `written_reads_back` — what each kind of value reads back as, for every operator.
-/

/-- The parameter that an operator and a value make.  It is a text, whatever the value is. -/
def written (op : Operator) (v : Value) : Value :=
  .text (String.ofList (expression op v))

@[simp] theorem scalar_text (s : String) : scalar (.text s) = s.toList := rfl

/-! ### Stars -/

theorem dropStars_cons_star (cs : List Char) : dropStars ('*' :: cs) = dropStars cs := by
  rw [dropStars, List.dropWhile_cons_of_pos (by rfl)]
  rfl

theorem dropStars_concat_star (cs : List Char) : dropStars (cs ++ ['*']) = dropStars cs := by
  rw [dropStars, List.dropWhile_append]
  by_cases h : (cs.dropWhile isStar).isEmpty = true
  · rw [if_pos h, dropStars, List.isEmpty_iff.1 h]
    rfl
  · rw [if_neg h, dropEndWhile_concat, if_pos (by rfl), dropStars]

/-- Stars that are put around a text are dropped again.  So one star on either side is all that is
ever added. -/
theorem dropStars_wrapWildcards (cs : List Char) : dropStars (wrapWildcards cs) = dropStars cs := by
  -- The star in front is dropped again, if it was put there.
  have hopened : dropStars (if cs.head? = some '*' then cs else '*' :: cs) = dropStars cs := by
    split
    · rfl
    · exact dropStars_cons_star cs
  unfold wrapWildcards
  generalize (if cs.head? = some '*' then cs else '*' :: cs) = opened at hopened ⊢
  -- Either star may be there already; none is added then.
  by_cases hlast : opened.getLast? = some '*'
  · rw [if_pos hlast, hopened]
  · rw [if_neg hlast, dropStars_concat_star, hopened]

/-! ### The operator in front of the point -/

/-- No operator has a point in its symbol.  So the first point stands behind the operator. -/
theorem point_not_mem_symbol (op : Operator) : '.' ∉ op.symbol.toList := by
  cases op <;> decide

/-- No operator has a comma in its symbol.  So it can stand in a group without quotes. -/
theorem comma_not_mem_symbol (op : Operator) : ',' ∉ op.symbol.toList := by
  cases op <;> decide

/-- The symbol of an operator in front of a point names it, and the text behind the point is its
value.  Points in the value do not matter. -/
theorem read?_symbol_append {op : Operator} (h : op.onWire = true) (cs : List Char) :
    read? (.text (String.ofList (op.symbol.toList ++ '.' :: cs)))
      = some (shape op (.text (String.ofList cs))) := by
  have hsplit : splitOperator? (op.symbol.toList ++ '.' :: cs) = some (op, cs) := by
    simp [splitOperator?, splitFirst_append (point_not_mem_symbol op), h]
  simp [read?, Value.asText?, readText?, hsplit]

/-- A text reads as nothing if no symbol starts like it.  This is how lists and groups are told from
expressions. -/
theorem read?_cons_eq_none {c : Char} (hpoint : c ≠ '.')
    (h : ∀ op : Operator, op.symbol.toList.head? ≠ some c) (cs : List Char) :
    read? (.text (String.ofList (c :: cs))) = none := by
  rw [Option.eq_none_iff_forall_ne_some]
  rintro ⟨op, v⟩ hread
  simp only [read?, readText?, splitOperator?, Value.asText?, Option.bind_eq_bind, Option.bind_some,
    Option.bind_eq_some_iff, String.toList_ofList] at hread
  obtain ⟨-, ⟨⟨name, rest⟩, hsplit, asked, hasked, -⟩, -⟩ := hread
  rw [splitFirst, if_neg hpoint, Option.map_eq_some_iff] at hsplit
  obtain ⟨⟨before, after⟩, -, heq⟩ := hsplit
  obtain ⟨rfl, -⟩ := Prod.mk.inj heq
  have hsymbol : asked.symbol.toList = c :: before := by
    rw [Operator.symbol_of_ofSymbol? hasked, String.toList_ofList]
  exact h asked (by rw [hsymbol]; rfl)

/-- An operator whose value is a list has its own symbol and the list in brackets.  This is so of
all operators, also of those that take no lists. -/
theorem expression_list (op : Operator) (items : List Value) :
    expression op (.list items) = op.symbol.toList ++ '.' :: listLiteral op items := by
  cases op <;> rfl

/-- The text of a case-insensitive search is written between stars, any other text as it is.  Such a
search is for a part of the text. -/
theorem expression_text (op : Operator) (s : String) :
    expression op (.text s)
      = op.symbol.toList ++ '.' :: if op = .ilike then wrapWildcards s.toList else s.toList := by
  cases op <;> rfl

/-- A value that is no collection is written as its symbol and its text, but for the stars around
the text of a case-insensitive search and the words for absence and presence.  Only these two
operators change what is written. -/
theorem written_eq_or (op : Operator) {v : Value} (hv : v.isCollection = false) :
    written op v = .text (String.ofList (op.symbol.toList ++ '.' :: scalar v)) ∨
      (op = .ilike ∧ written op v
        = .text (String.ofList (op.symbol.toList ++ '.' :: wrapWildcards (scalar v)))) ∨
      (op = .isNull ∧ ∃ b, v = .bool b) := by
  have hbody : body op v = scalar v := by
    cases v <;> first | rfl | exact absurd hv.symm Bool.false_ne_true
  have hencode : (encode op v).1.symbol.toList ++ '.' :: (encode op v).2
      = expression op v := rfl
  rw [written, ← hencode]
  unfold encode
  split
  · exact .inr (.inl ⟨rfl, rfl⟩)
  · exact .inr (.inl ⟨rfl, rfl⟩)
  · exact .inr (.inr ⟨rfl, _, rfl⟩)
  · rw [hbody]
    exact .inl rfl

/-! ### The value behind the point -/

/-- A text as the value of an operator whose value is a list.  A text without brackets is a list of
one item, or of the items between its commas. -/
theorem shape_of_isMulti {op : Operator} (h : op.isMulti = true) (cs : List Char) :
    shape op (.text (String.ofList cs))
      = (op, .list ((readList op cs).map fun x => .text (String.ofList x))) := by
  simp only [shape, if_pos h, Value.asText?, Option.getD_some, String.toList_ofList, readList]
  cases readList? op cs <;> rfl

/-- A list in brackets becomes the texts of its items.  Quotes are taken off again, and what they
protect is kept. -/
theorem shape_listLiteral {op : Operator} (h : op.isMulti = true) (items : List Value) :
    shape op (.text (String.ofList (listLiteral op items)))
      = (op, .list (items.map fun x => .text (String.ofList (scalar x)))) := by
  have hread : readList op (listLiteral op items) = items.map scalar := by
    have hq : items.map quoteItem = (items.map scalar).map quoteText := by
      rw [List.map_map]
      rfl
    rw [readList, listLiteral, hq, readList?_enclosed, Option.getD_some]
  rw [shape_of_isMulti h, hread, List.map_map]
  rfl

/-- A text as the value of a pattern search.  Stars inside the text stay. -/
theorem shape_of_isPattern {op : Operator} (h : op.isPattern = true) (s : String) :
    shape op (.text s) = (op, .text (String.ofList (dropStars s.toList))) := by
  have hm : op.isMulti = false := by
    cases op <;> first | rfl | exact absurd h (by decide)
  rw [shape, if_neg (by simp [hm]), if_pos h]
  rfl

/-- A text stays as it is behind an operator that takes any text.  Its value is not looked at. -/
theorem shape_of_plain {op : Operator} (hm : op.isMulti = false) (hp : op.isPattern = false)
    (his : op ≠ .is) (hnull : op ≠ .isNull) (v : Value) : shape op v = (op, v) := by
  simp [shape, hm, hp, his, hnull]

/-- A text that is no word for a yes or no stays as it is.  This is so of a misspelt word, too. -/
theorem shape_of_read?_eq_none {op : Operator} (h : op = .is ∨ op = .isNull) {s : String}
    (hs : TriState.read? s.toList = none) : shape op (.text s) = (op, .text s) := by
  rcases h with rfl | rfl <;> simp [shape, Operator.isMulti, Operator.isPattern, Value.asText?, hs]

/-! ### What reading gives -/

/-- The values that reading gives an operator: a list of texts, a yes or no, or a text, which for a
pattern search has no stars at its ends and for `is` and `isNull` is no word for a yes or no.  So a
settled value says what was asked for in only one way. -/
def Settled (op : Operator) : Value → Prop
  | .list items => op.isMulti = true ∧ ∃ texts : List (List Char),
      items = texts.map fun x => .text (String.ofList x)
  | .bool _ => op = .is ∨ op = .isNull
  | .text s => op.isMulti = false ∧ (op.isPattern = true → dropStars s.toList = s.toList) ∧
      (op = .is ∨ op = .isNull → TriState.read? s.toList = none)
  | _ => False

/-- Settled values are made of texts and of yes and no, so they can be written.  Nothing that comes
out of a URL is an integer here. -/
theorem Settled.isWritable {op : Operator} {v : Value} (h : Settled op v) :
    v.isWritable = true := by
  match v, h with
  | .list _, ⟨_, texts, rfl⟩ =>
    rw [Value.isWritable_list_iff, List.forall_mem_map]
    exact fun x _ => Value.isWritable_text _
  | .bool b, _ => exact Value.isWritable_bool b
  | .text s, _ => exact Value.isWritable_text s

/-- A settled text stays as it is.  It has been shaped before. -/
theorem shape_text_of_settled {op : Operator} {s : String} (h : Settled op (.text s)) :
    shape op (.text s) = (op, .text s) := by
  obtain ⟨hm, hstars, hword⟩ := h
  by_cases hp : op.isPattern = true
  · rw [shape_of_isPattern hp, hstars hp, String.ofList_toList]
  rw [Bool.not_eq_true] at hp
  by_cases ht : op = .is ∨ op = .isNull
  · exact shape_of_read?_eq_none ht (hword ht)
  · rw [not_or] at ht
    exact shape_of_plain hm hp ht.1 ht.2 _

/-- **A text becomes a settled value,** of an operator that may stand in a URL if the given one may.
Every text can be shaped, so nothing fails. -/
theorem settled_shape {op : Operator} (hw : op.onWire = true) (s : String) :
    (shape op (.text s)).1.onWire = true ∧
      Settled (shape op (.text s)).1 (shape op (.text s)).2 := by
  -- One case for each way of shaping: lists, patterns, words, and texts as they are.
  by_cases hm : op.isMulti = true
  · have hs := shape_of_isMulti hm s.toList
    rw [String.ofList_toList] at hs
    rw [hs]
    exact ⟨hw, hm, _, rfl⟩
  rw [Bool.not_eq_true] at hm
  by_cases hp : op.isPattern = true
  · rw [shape_of_isPattern hp]
    refine ⟨hw, hm, fun _ => ?_, ?_⟩
    · rw [String.toList_ofList]
      exact dropBoth_dropBoth isStar s.toList
    · rintro (rfl | rfl) <;> exact absurd hp (by decide)
  rw [Bool.not_eq_true] at hp
  -- A word for absence turns `is` into `isNull`, whose value is a yes or no.
  by_cases ht : op = .is ∨ op = .isNull
  · cases hr : TriState.read? s.toList with
    | none =>
      rw [shape_of_read?_eq_none ht hr]
      exact ⟨hw, hm, fun h => absurd h (by simp [hp]), fun _ => hr⟩
    | some word =>
      obtain rfl | rfl := ht <;> cases word <;>
        simp [shape, Operator.isMulti, Operator.isPattern, Operator.onWire, Value.asText?, hr,
          Settled]
  · rw [not_or] at ht
    rw [shape_of_plain hm hp ht.1 ht.2]
    exact ⟨hw, hm, fun h => absurd h (by simp [hp]), fun h => absurd h (by simp [ht])⟩

/-- What a parameter reads as comes from the text behind the symbol of an operator.  The operator
that is asked for may change on the way. -/
theorem exists_shape_of_read? {raw : Value} {op : Operator} {v : Value}
    (h : read? raw = some (op, v)) :
    ∃ (asked : Operator) (s : String), asked.onWire = true ∧ (op, v) = shape asked (.text s) := by
  simp only [read?, readText?, splitOperator?, Option.bind_eq_bind, Option.bind_eq_some_iff,
    Option.pure_def, Option.some.injEq] at h
  obtain ⟨text, -, ⟨asked, rest⟩, ⟨⟨name, behind⟩, -, found, -, hw⟩, he⟩ := h
  split at hw
  · next hwire =>
    obtain ⟨rfl, rfl⟩ : found = asked ∧ behind = rest := by simpa using hw
    exact ⟨found, _, hwire, he.symm⟩
  · exact absurd hw (by simp)

/-- **Whatever is read is settled.**  It is the only fact about reading that the results on writing
need. -/
theorem settled_of_read? {raw : Value} {op : Operator} {v : Value}
    (h : read? raw = some (op, v)) : op.onWire = true ∧ Settled op v := by
  obtain ⟨asked, s, hw, he⟩ := exists_shape_of_read? h
  have hs := settled_shape hw s
  rw [← he] at hs
  exact hs

/-! ### Reading back -/

/-- A list reads back as the texts of its items.  The types of the items are lost. -/
theorem read?_written_list {op : Operator} (h : op.isMulti = true) (items : List Value) :
    read? (written op (.list items))
      = some (op, .list (items.map fun x => .text (String.ofList (scalar x)))) := by
  have hw : op.onWire = true := by
    cases op <;> first | rfl | exact absurd h (by decide)
  rw [written, expression_list, read?_symbol_append hw, shape_listLiteral h]

/-- The text of a pattern search reads back without the stars at its ends.  A text of stars alone
becomes the empty text. -/
theorem read?_written_pattern {op : Operator} (h : op.isPattern = true) (s : String) :
    read? (written op (.text s)) = some (op, stripWildcards (.text s)) := by
  have hw : op.onWire = true := by
    cases op <;> first | rfl | exact absurd h (by decide)
  rw [written, expression_text, read?_symbol_append hw, shape_of_isPattern h, String.toList_ofList]
  by_cases hi : op = .ilike
  · rw [if_pos hi, dropStars_wrapWildcards]
    rfl
  · rw [if_neg hi]
    rfl

/-- A yes or no reads back, also where it is written as a word for absence or presence.  The words
are those that reading knows. -/
theorem read?_written_bool {op : Operator} (h : op = .is ∨ op = .isNull) (b : Bool) :
    read? (written op (.bool b)) = some (op, .bool b) := by
  rcases h with rfl | rfl <;> cases b <;> rfl

/-- A text that its operator leaves as it is reads back.  Such a text may look like another
expression. -/
theorem read?_written_text {op : Operator} (hw : op.onWire = true) (hi : op ≠ .ilike) {s : String}
    (hs : shape op (.text s) = (op, .text s)) :
    read? (written op (.text s)) = some (op, .text s) := by
  rw [written, expression_text, if_neg hi, read?_symbol_append hw, String.ofList_toList, hs]

/-- **A settled value reads back as it is.**  So reading and writing are inverse on what has been
read. -/
theorem read?_written_of_settled {op : Operator} (hw : op.onWire = true) {v : Value}
    (h : Settled op v) : read? (written op v) = some (op, v) := by
  -- A settled value is a list of texts, a yes or no, or a text.
  match v, h with
  | .list _, ⟨hm, texts, rfl⟩ =>
    rw [read?_written_list hm, List.map_map]
    simp only [Function.comp_def, scalar_text, String.toList_ofList]
  | .bool b, h => exact read?_written_bool h b
  | .text s, h =>
    by_cases hp : op.isPattern = true
    · rw [read?_written_pattern hp, stripWildcards, Value.asText?]
      simp [h.2.1 hp]
    -- Of the operators that take texts only `ilike` changes them, and it is a pattern search.
    have hi : op ≠ .ilike := by
      rintro rfl
      exact hp rfl
    exact read?_written_text hw hi (shape_text_of_settled h)

/-! ### Values that cannot be written -/

/-- Writes the parameter of an operator and a value.  There is none where an integer in the value
has too many digits. -/
def written? (op : Operator) (v : Value) : Except Fault Value :=
  (expression? op v).map fun cs => .text (String.ofList cs)

theorem written?_of_isWritable {v : Value} (h : v.isWritable = true) (op : Operator) :
    written? op v = .ok (written op v) := by
  rw [written?, expression?, ifWritable, if_pos h]
  rfl

theorem written?_of_not_isWritable {v : Value} (h : ¬ v.isWritable = true) (op : Operator) :
    written? op v = .error .tooManyDigits := by
  rw [written?, expression?, ifWritable, if_neg h]
  rfl

/-- The texts of the items of a list, unless one of them is too long.  The error does not say which
item it is. -/
theorem mapM_scalar?_eq (items : List Value) :
    items.mapM scalar?
      = if (Value.list items).isWritable = true then .ok (items.map scalar)
        else .error .tooManyDigits := by
  by_cases h : (Value.list items).isWritable = true
  · rw [if_pos h, mapM_eq_ok_iff, List.map_map]
    exact List.map_congr_left fun v hv => if_pos (Value.isWritable_list_iff.1 h v hv)
  · rw [if_neg h]
    -- Some item fails, and there is no other error than this one.
    cases hresult : items.mapM scalar? with
    | ok texts =>
      refine absurd (Value.isWritable_list_iff.2 fun v hv => ?_) h
      obtain ⟨text, -, htext⟩ := exists_mem_of_mapM hresult hv
      by_contra hlong
      rw [scalar?, ifWritable, if_neg hlong] at htext
      exact absurd htext (by simp)
    | error fault =>
      obtain ⟨v, -, herror⟩ := exists_of_mapM_error hresult
      rw [scalar?, ifWritable] at herror
      split at herror
      · exact absurd herror (by simp)
      · exact congrArg _ (Except.error.inj herror).symm

/-- **Reading a written list gives the texts of its items:** both sides fail together, with the
integer that is too long.  So nothing is written of such a list, and nothing is read. -/
theorem map_read?_written?_list {op : Operator} (h : op.isMulti = true) (items : List Value) :
    (written? op (.list items)).map read?
      = (items.mapM scalar?).map fun texts =>
        some (op, .list (texts.map fun text => .text (String.ofList text))) := by
  rw [mapM_scalar?_eq]
  -- Either all items have texts, or neither side gets past the one that has none.
  by_cases hlist : (Value.list items).isWritable = true
  · rw [written?_of_isWritable hlist, if_pos hlist]
    show Except.ok (read? (written op (.list items))) = _
    rw [read?_written_list h]
    simp only [Except.map, List.map_map]
    rfl
  · rw [written?_of_not_isWritable hlist, if_neg hlist]
    rfl

/-! ### Reading undoes writing -/

/-- **Reading undoes writing, for every operator.**  A list reads back as the texts of its items, a
pattern without the stars at its ends, a yes or no and any other text as they are; and what has been
read once is written and read without a change.

Only a list can fail to be written.  It is written exactly if none of its items holds an integer
with too many digits; otherwise there are no texts of the items to be read back either. -/
theorem written_reads_back :
    (∀ (op : Operator) (items : List Value), op.isMulti = true →
      (written? op (.list items)).map read?
          = (items.mapM scalar?).map (fun texts =>
            some (op, .list (texts.map fun text => .text (String.ofList text)))) ∧
        ((∃ p, written? op (.list items) = .ok p) ↔ ∀ v ∈ items, v.isWritable = true)) ∧
    (∀ (op : Operator) (s : String), op.isPattern = true →
      (written? op (.text s)).map read? = .ok (some (op, stripWildcards (.text s)))) ∧
    (∀ (op : Operator) (b : Bool), op = .is ∨ op = .isNull →
      (written? op (.bool b)).map read? = .ok (some (op, .bool b))) ∧
    (∀ (op : Operator) (s : String), op.onWire = true → op.isMulti = false →
      op.isPattern = false → op ≠ .is → op ≠ .isNull →
      (written? op (.text s)).map read? = .ok (some (op, .text s))) ∧
    (∀ (raw : Value) (op : Operator) (v : Value), read? raw = some (op, v) →
      (written? op v).map read? = .ok (some (op, v))) := by
  -- What can be written reads back as its text does.
  have hread : ∀ {op : Operator} {v : Value} {result : Option (Operator × Value)},
      v.isWritable = true → read? (written op v) = result →
      (written? op v).map read? = .ok result := by
    rintro op v _ hv rfl
    rw [written?_of_isWritable hv]
    rfl
  refine ⟨fun op items h => ⟨map_read?_written?_list h items, ?_⟩,
    fun op s h => hread rfl (read?_written_pattern h s),
    fun op b h => hread rfl (read?_written_bool h b), ?_, ?_⟩
  · rw [← Value.isWritable_list_iff]
    constructor
    · rintro ⟨p, hp⟩
      by_contra hlist
      rw [written?_of_not_isWritable hlist] at hp
      exact absurd hp (by simp)
    · exact fun hlist => ⟨_, written?_of_isWritable hlist op⟩
  · intro op s hw hm hp his hnull
    refine hread rfl (read?_written_text hw ?_ (shape_of_plain hm hp his hnull _))
    rintro rfl
    exact absurd hp (by decide)
  · intro raw op v h
    obtain ⟨hw, hs⟩ := settled_of_read? h
    exact hread hs.isWritable (read?_written_of_settled hw hs)

/-- A list with an item of each kind, the least integer that is too long, a pattern with stars
inside and outside, a word for presence, a text that looks like an operator and its value, and a
word with blanks around it. -/
theorem written_reads_back_instances :
    (written? .notAmong (.list [.text "a,\"b\\", .text " ", .text "", .null, .int (-30)])).map read?
      = .ok (some (.notAmong,
          .list [.text "a,\"b\\", .text " ", .text "", .text "null", .text "-30"])) ∧
    (¬ ∃ p, written? .among (.list [.text "1", .int (10 ^ Number.maxIntegerDigits)]) = .ok p) ∧
    (written? .ilike (.text "**a*b*")).map read? = .ok (some (.ilike, .text "a*b")) ∧
    (written? .isNull (.bool false)).map read? = .ok (some (.isNull, .bool false)) ∧
    (written? .phraseSearch (.text "is.null")).map read?
      = .ok (some (.phraseSearch, .text "is.null")) ∧
    (written? .isNull (.bool true)).map read? = .ok (some (.isNull, .bool true)) := by
  refine ⟨(written_reads_back.1 .notAmong _ rfl).1, ?_, written_reads_back.2.1 .ilike _ rfl,
    written_reads_back.2.2.1 .isNull _ (.inr rfl),
    written_reads_back.2.2.2.1 .phraseSearch _ rfl rfl rfl (by decide) (by decide),
    written_reads_back.2.2.2.2 (.text "is. Null ") .isNull _ rfl⟩
  rw [(written_reads_back.1 .among _ rfl).2]
  intro hall
  have hlong := hall (.int (10 ^ Number.maxIntegerDigits))
    (List.mem_cons_of_mem _ List.mem_cons_self)
  rw [Value.isWritable, Number.Integer.isWritable_pow] at hlong
  exact absurd hlong Bool.false_ne_true

end UrlFilter.Wire
