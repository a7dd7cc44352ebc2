import UrlFilter.Proofs.Params
import UrlFilter.Proofs.Text.Trimming
import UrlFilter.Proofs.Text.Utf8
import UrlFilter.QueryString

namespace UrlFilter.QueryString

open UrlFilter.Text

/-!
# Query strings read back

Percent coding loses nothing, and what it writes holds none of the characters at which a query
string is split.  Keys and values come back from their query string, but for the question marks in
front of it.

* `decodeText_encodeText` — a coded text reads back, whatever characters it holds.
* `ofPairs` — the query string of keys and values.
* `readPairs_ofPairs` — it reads back as the keys and values, without the question marks in front.
* `keys_toParams` — the keys of a query string in order.
-/

/-! ### Digits of octets -/

/-- A digit of base sixteen reads back, and it is no character that splits a query string. -/
theorem upperHexDigit_spec {n : Nat} (h : n < 16) :
    hexDigit? (upperHexDigit n) = some n ∧ upperHexDigit n ≠ '&' ∧ upperHexDigit n ≠ '=' ∧
      upperHexDigit n ≠ '+' := by
  -- There are sixteen digits, and each is checked.
  have hall : ∀ k : Fin 16, hexDigit? (upperHexDigit k) = some k.val ∧ upperHexDigit k ≠ '&' ∧
      upperHexDigit k ≠ '=' ∧ upperHexDigit k ≠ '+' := by decide
  exact hall ⟨n, h⟩

/-- The two digits behind a percent sign read back as the octet.  What follows the two digits does
not matter, so coded octets can be read one after the other. -/
theorem codedOctets_encodeOctet_append {octet : Nat} (h : octet < 256) (cs : List Char) :
    codedOctets (encodeOctet octet ++ cs) = octet :: codedOctets cs := by
  have hhigh := (upperHexDigit_spec (show octet / 16 < 16 by omega)).1
  have hlow := (upperHexDigit_spec (show octet % 16 < 16 by omega)).1
  -- The two digits are the quotient and the remainder, which make up the octet again.
  have hvalue : 16 * (octet / 16) + octet % 16 = octet := by omega
  show codedOctets ('%' :: upperHexDigit (octet / 16) :: upperHexDigit (octet % 16) :: cs) = _
  rw [codedOctets, hhigh, hlow]
  simp only [hvalue]

theorem codedOctets_flatMap_encodeOctet_append {octets : List Nat} (h : ∀ o ∈ octets, o < 256)
    (cs : List Char) :
    codedOctets (octets.flatMap encodeOctet ++ cs) = octets ++ codedOctets cs := by
  -- Each octet is read from in front of the others.
  induction octets with
  | nil => rfl
  | cons octet octets ih =>
    rw [List.flatMap_cons, List.append_assoc, codedOctets_encodeOctet_append (h octet (by simp)),
      ih fun o ho => h o (by simp [ho]), List.cons_append]

/-! ### Characters -/

/-- A character other than the percent sign stands for its own octets.  This holds of a plus sign as
well, which is turned into a blank before the octets are read. -/
theorem codedOctets_cons_of_ne {c : Char} (h : c ≠ '%') (cs : List Char) :
    codedOctets (c :: cs) = octetsOfChar c ++ codedOctets cs := by
  rw [codedOctets]
  rintro h' l' cs' rfl
  exact absurd rfl h

/-- A character that stands for itself neither codes nor splits anything.  The four signs that do
are always coded. -/
theorem ne_of_isPlain {c : Char} (h : isPlain c = true) :
    c ≠ '%' ∧ c ≠ '&' ∧ c ≠ '=' ∧ c ≠ '+' := by
  refine ⟨?_, ?_, ?_, ?_⟩ <;>
    · rintro rfl
      exact absurd h (by decide)

/-- **A coded character reads back as its octets.**  A plain character stands for itself and any
other one for its octets in base sixteen. -/
theorem codedOctets_encodeChar_append (c : Char) (cs : List Char) :
    codedOctets (encodeChar c ++ cs) = octetsOfChar c ++ codedOctets cs := by
  unfold encodeChar
  split
  · next h => exact codedOctets_cons_of_ne (ne_of_isPlain h).1 cs
  · exact codedOctets_flatMap_encodeOctet_append (fun o ho => lt_of_mem_octetsOfChar ho) cs

/-- A coded character holds none of the characters at which a query string is split.  So a query
string can be split before its pieces are decoded. -/
theorem of_mem_encodeChar {c d : Char} (h : d ∈ encodeChar c) : d ≠ '&' ∧ d ≠ '=' ∧ d ≠ '+' := by
  unfold encodeChar at h
  split at h
  · next hplain =>
    obtain rfl := List.mem_singleton.1 h
    exact (ne_of_isPlain hplain).2
  · obtain ⟨octet, ho, hd⟩ := List.mem_flatMap.1 h
    have hlt := lt_of_mem_octetsOfChar ho
    simp only [encodeOctet, List.mem_cons, List.not_mem_nil, or_false] at hd
    -- The character is the percent sign or one of the two digits behind it.
    rcases hd with rfl | rfl | rfl
    · decide
    · exact (upperHexDigit_spec (by omega)).2
    · exact (upperHexDigit_spec (by omega)).2

/-- A coded character starts with a question mark only if it is one.  The question mark is one of
the characters that are written as they are. -/
theorem exists_encodeChar_eq_cons (c : Char) :
    ∃ d ds, encodeChar c = d :: ds ∧ (d = '?' ↔ c = '?') := by
  unfold encodeChar
  split
  · exact ⟨c, [], rfl, Iff.rfl⟩
  · next hplain =>
    have hne : c ≠ '?' := by
      rintro rfl
      exact hplain (by decide)
    -- Any other character starts with the percent sign of its first octet.
    obtain ⟨octet, octets, ho⟩ : ∃ octet octets, octetsOfChar c = octet :: octets := by
      simp only [octetsOfChar]
      split
      · exact ⟨_, _, rfl⟩
      split
      · exact ⟨_, _, rfl⟩
      split <;> exact ⟨_, _, rfl⟩
    refine ⟨'%', _, by rw [ho]; rfl, ?_⟩
    simp [hne]

/-! ### Texts -/

theorem encodeText_cons (c : Char) (cs : List Char) :
    encodeText (c :: cs) = encodeChar c ++ encodeText cs :=
  List.flatMap_cons

theorem of_mem_encodeText {cs : List Char} {d : Char} (h : d ∈ encodeText cs) :
    d ≠ '&' ∧ d ≠ '=' ∧ d ≠ '+' := by
  obtain ⟨c, -, hd⟩ := List.mem_flatMap.1 h
  exact of_mem_encodeChar hd

theorem codedOctets_encodeText (cs : List Char) : codedOctets (encodeText cs) = octetsOf cs := by
  induction cs with
  | nil => rfl
  | cons c cs ih =>
    rw [encodeText_cons, codedOctets_encodeChar_append, ih]
    rfl

/-- **A coded text reads back,** whatever characters it holds.  No hypothesis on the characters is
needed: each of them has its octets, and these read back together. -/
theorem decodeText_encodeText (cs : List Char) : decodeText (encodeText cs) = cs := by
  -- A plus sign is never written as it is, so none is taken for a blank.
  have hplus : plusToBlank (encodeText cs) = encodeText cs := by
    unfold plusToBlank
    conv_rhs => rw [← List.map_id (encodeText cs)]
    apply List.map_congr_left
    intro d hd
    rw [if_neg (of_mem_encodeText hd).2.2, id]
  rw [decodeText, hplus, codedOctets_encodeText, ofOctets_octetsOf]

/-- The question marks in front of a coded text are those in front of the text.  The equals sign
behind the key ends them, even if the key holds nothing else. -/
theorem dropWhile_encodeText_append (cs rest : List Char) :
    (encodeText cs ++ '=' :: rest).dropWhile (· == '?')
      = encodeText (cs.dropWhile (· == '?')) ++ '=' :: rest := by
  induction cs with
  | nil => rfl
  | cons c cs ih =>
    -- A question mark stands for itself, and no other character starts with one.
    by_cases hc : c = '?'
    · subst hc
      have hmark : encodeChar '?' = ['?'] := by decide
      rw [encodeText_cons, hmark, List.append_assoc, List.singleton_append,
        List.dropWhile_cons_of_pos (by rfl), ih, List.dropWhile_cons_of_pos (by rfl)]
    · obtain ⟨d, ds, he, hd⟩ := exists_encodeChar_eq_cons c
      rw [List.dropWhile_cons_of_neg (by simpa using hc), encodeText_cons, he, List.cons_append,
        List.cons_append, List.dropWhile_cons_of_neg (by simpa using hd.not.2 hc)]

/-! ### Keys and values -/

/-- A key and its value, with an equals sign between them.  The equals sign stands there even if the
value is empty. -/
def piece (e : String × String) : List Char :=
  encodeText e.1.toList ++ '=' :: encodeText e.2.toList

/-- The query string of keys and values.  No sign stands in front, so it starts with its first
key. -/
def ofPairs (pairs : List (String × String)) : List Char :=
  ['&'].intercalate (pairs.map piece)

/-- A text without the question marks in front of it.  Reading takes away all of them, not only the
one that marks a query string. -/
def withoutMarks (s : String) : String :=
  String.ofList (s.toList.dropWhile (· == '?'))

theorem readPair_piece (e : String × String) : readPair (piece e) = e := by
  have hkey : '=' ∉ encodeText e.1.toList := fun h => (of_mem_encodeText h).2.1 rfl
  rw [readPair, piece, splitFirst_append hkey]
  simp [decodeText_encodeText]

/-- The question marks in front of a query string belong to its first key.  The other keys may start
with question marks and keep them. -/
theorem dropWhile_ofPairs (e : String × String) (pairs : List (String × String)) :
    (ofPairs (e :: pairs)).dropWhile (· == '?') = ofPairs ((withoutMarks e.1, e.2) :: pairs) := by
  have hpiece : piece (withoutMarks e.1, e.2)
      = encodeText (e.1.toList.dropWhile (· == '?')) ++ '=' :: encodeText e.2.toList := by
    rw [piece, withoutMarks, String.toList_ofList]
  unfold ofPairs
  cases pairs with
  | nil =>
    simp only [List.map_cons, List.map_nil, List.intercalate_singleton]
    rw [piece, dropWhile_encodeText_append, hpiece]
  | cons f pairs =>
    simp only [List.map_cons, List.intercalate_cons_cons, hpiece]
    simp only [piece, List.append_assoc, List.cons_append, dropWhile_encodeText_append]

/-- **Keys and values read back from their query string,** but for the question marks in front.
Keys may repeat and may be empty, and so may values. -/
theorem readPairs_ofPairs (e : String × String) (pairs : List (String × String)) :
    readPairs (ofPairs (e :: pairs)) = (withoutMarks e.1, e.2) :: pairs := by
  have hamp : ∀ p ∈ ((withoutMarks e.1, e.2) :: pairs).map piece, '&' ∉ p := by
    intro p hp hmem
    obtain ⟨f, -, rfl⟩ := List.mem_map.1 hp
    rw [piece, List.mem_append, List.mem_cons] at hmem
    rcases hmem with hmem | heq | hmem
    · exact (of_mem_encodeText hmem).1 rfl
    · exact absurd heq (by decide)
    · exact (of_mem_encodeText hmem).1 rfl
  -- No piece holds an ampersand or is empty, so the pieces are those that were joined.
  have hcut : cut (· == '&') (ofPairs ((withoutMarks e.1, e.2) :: pairs))
      = ((withoutMarks e.1, e.2) :: pairs).map piece := by
    refine cut_intercalate (by rfl) (by simp) fun p hp c hc => ?_
    rw [beq_eq_false_iff_ne]
    rintro rfl
    exact hamp p hp hc
  have hkeep : (((withoutMarks e.1, e.2) :: pairs).map piece).filter (fun p => !p.isEmpty)
      = ((withoutMarks e.1, e.2) :: pairs).map piece := by
    rw [List.filter_eq_self]
    intro p hp
    obtain ⟨f, -, rfl⟩ := List.mem_map.1 hp
    simp [piece]
  have hread : readPair ∘ piece = id := funext readPair_piece
  simp only [readPairs, dropWhile_ofPairs, hcut, hkeep, List.map_map, hread, List.map_id]

theorem readPairs_ofPairs_nil : readPairs (ofPairs []) = [] := by
  decide

/-- A query string starts with a question mark exactly if its first key does.  A first key that is
empty makes it start with the equals sign. -/
theorem head?_ofPairs_eq_mark_iff (e : String × String) (pairs : List (String × String)) :
    (ofPairs (e :: pairs)).head? = some '?' ↔ e.1.toList.head? = some '?' := by
  obtain ⟨rest, hrest⟩ : ∃ rest, ofPairs (e :: pairs) = encodeText e.1.toList ++ '=' :: rest := by
    unfold ofPairs
    cases pairs with
    | nil => exact ⟨_, by rw [List.map_cons, List.map_nil, List.intercalate_singleton, piece]⟩
    | cons f pairs =>
      exact ⟨_, by rw [List.map_cons, List.map_cons, List.intercalate_cons_cons, piece,
        List.append_assoc, List.append_assoc, List.cons_append]⟩
  rw [hrest]
  cases hkey : e.1.toList with
  | nil => simp [encodeText]
  | cons c cs =>
    obtain ⟨d, ds, he, hd⟩ := exists_encodeChar_eq_cons c
    simp [encodeText_cons, he, hd]

/-- A text that starts with a question mark is another one without it.  So the texts that lose
something are those that reading confuses with another key. -/
theorem withoutMarks_eq_self_iff {key : String} :
    withoutMarks key = key ↔ key.toList.head? ≠ some '?' := by
  rw [withoutMarks, ← String.toList_inj, String.toList_ofList]
  cases key.toList with
  | nil => simp
  | cons c cs =>
    by_cases hc : c = '?'
    · subst hc
      -- What is left is shorter, hence another text.
      have hlen := List.length_dropWhile_le (· == '?') cs
      have hne : cs.dropWhile (· == '?') ≠ '?' :: cs := by
        intro h
        have hlength := congrArg List.length h
        rw [List.length_cons] at hlength
        omega
      simp [hne]
    · simp [hc]

/-! ### Parameters -/

/-- Parameters whose values can be written have a query string.  The only value without a text is an
integer with too many digits, alone or inside another value. -/
theorem ofParams?_of_isWritable {p : Params} (h : ∀ e ∈ p.entries, e.2.isWritable = true) :
    ofParams? p = .ok (ofParams p) := by
  rw [ofParams?, Value.entriesWritable_eq_all, if_pos (List.all_eq_true.2 h)]

/-- The parameters with more keys and values, where the values of a repeated key make a list.  A key
keeps the place of its first value. -/
def withPairs (p : Params) (pairs : List (String × String)) : Params :=
  pairs.foldl (fun p e => p.insert e.1 (collect (p.get? e.1) e.2)) p

/-- The keys are those that were there and behind them the new ones, in the order of their first
pairs. -/
theorem keys_withPairs (p : Params) (pairs : List (String × String)) :
    (withPairs p pairs).keys
      = p.keys ++ ((pairs.map Prod.fst).filter fun key => !p.keys.contains key).eraseDups := by
  induction pairs generalizing p with
  | nil => simp [withPairs]
  | cons e pairs ih =>
    show (withPairs (p.insert e.1 (collect (p.get? e.1) e.2)) pairs).keys = _
    rw [ih, Params.keys_insert, List.map_cons]
    -- A key that is there already keeps its place; a new one goes behind the others and hides its
    -- later pairs.
    by_cases hmem : e.1 ∈ p.keys
    · rw [if_pos hmem, List.filter_cons_of_neg (by simp [hmem])]
    · have hfilter : ((pairs.map Prod.fst).filter fun key => !(p.keys ++ [e.1]).contains key)
          = ((pairs.map Prod.fst).filter fun key => !p.keys.contains key).filter
            fun key => !key == e.1 := by
        rw [List.filter_filter]
        apply List.filter_congr
        intro key _
        rw [Bool.eq_iff_iff]
        simp [and_comm]
      rw [if_neg hmem, List.filter_cons_of_pos (by simp [hmem]), List.eraseDups_cons, hfilter,
        List.append_assoc, List.singleton_append]

/-- The keys of a query string, in the order of their first pairs.  Each key stands once, however
often it is repeated. -/
theorem keys_toParams (cs : List Char) :
    (toParams cs).keys = ((readPairs cs).map Prod.fst).eraseDups := by
  show (withPairs .empty (readPairs cs)).keys = _
  rw [keys_withPairs]
  simp [Params.empty, Params.keys]

end UrlFilter.QueryString
