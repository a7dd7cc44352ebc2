import UrlFilter.Params
import UrlFilter.Text.Utf8
import UrlFilter.Value.Equality
import UrlFilter.Value.Shown

namespace UrlFilter.QueryString

open UrlFilter.Text

/-!
# Query strings

The part of a URL behind the question mark: keys and values, joined by `=` and separated by `&`.

* `encodeText`, `decodeText` — percent coding of the octets of a text.
* `ofParams` — the text of parameters, sorted by key, where a list repeats its key; `ofParams?`
  writes it.
* `toParams` — reads parameters; a repeated key collects its values in a list.
* `pathTo?` — a path with parameters.
-/

/-! ### Percent coding -/

/-- A character that stands for itself: letters, digits and the punctuation that neither separates
parameters nor is part of the coding.  The comma, the brackets and the quotes of lists and
conditions are among them, which keeps URLs legible. -/
def isPlain (c : Char) : Bool :=
  c.isAlphanum || "_.-~()\x7b\x7d[],.*:;!$'@/?\"\\|".toList.contains c

/-- An upper-case digit of base sixteen.  Lower-case digits are read as well. -/
def upperHexDigit (n : Nat) : Char :=
  n.digitChar.toUpper

/-- A percent sign and the two digits of an octet.  A reader turns this back into the one octet. -/
def encodeOctet (octet : Nat) : List Char :=
  ['%', upperHexDigit (octet / 16), upperHexDigit (octet % 16)]

/-- A character as it stands in a query string.  A blank is an octet like any other here. -/
def encodeChar (c : Char) : List Char :=
  if isPlain c then [c] else (octetsOfChar c).flatMap encodeOctet

/-- A text as it stands in a query string.  The text of an empty text is empty. -/
def encodeText (cs : List Char) : List Char :=
  cs.flatMap encodeChar

/-- The octets of a text in which a percent sign and two digits of base sixteen stand for one octet.
A percent sign without two such digits behind it stands for itself. -/
def codedOctets : List Char → List Nat
  | [] => []
  | '%' :: h :: l :: cs =>
    match hexDigit? h, hexDigit? l with
    | some high, some low => (16 * high + low) :: codedOctets cs
    | _, _ => octetsOfChar '%' ++ codedOctets (h :: l :: cs)
  | c :: cs => octetsOfChar c ++ codedOctets cs

/-- A text with a blank for each plus sign.  This comes before percent coding is undone, so that a
plus sign that was encoded stays one. -/
def plusToBlank (cs : List Char) : List Char :=
  cs.map fun c => if c = '+' then ' ' else c

/-- The text that a part of a query string stands for.  Octets that are no text become replacement
characters, so that decoding never fails. -/
def decodeText (cs : List Char) : List Char :=
  ofOctets (codedOctets (plusToBlank cs))

/-! ### Writing -/

/-- The values that a key is written with: the items of a list, or else the value itself.  An empty
list is not written at all. -/
def valuesOf (v : Value) : List Value :=
  v.sequence?.getD [v]

/-- A key and a value.  The two are encoded apart from each other, so that the sign between them is
the first of its kind. -/
def pair (key : String) (v : Value) : List Char :=
  encodeText key.toList ++ '=' :: encodeText v.shown.toList

/-- The query string of parameters, sorted by key.  Where a key has a list, its values keep their
order. -/
def ofParams (p : Params) : List Char :=
  let sorted := p.entries.mergeSort fun e f => decide (e.1 ≤ f.1)
  ['&'].intercalate (sorted.flatMap fun e => (valuesOf e.2).map (pair e.1))

/-- Writes the query string of parameters, unless an integer among their values has too many
digits. -/
def ofParams? (p : Params) : Except Fault (List Char) :=
  if Value.entriesWritable p.entries then .ok (ofParams p) else .error .tooManyDigits

/-- A path and the query string of parameters, if there are any. -/
def pathTo? (base : String) (p : Params) : Except Fault String := do
  let query ← ofParams? p
  return if query.isEmpty then base else base ++ String.ofList ('?' :: query)

/-! ### Reading -/

/-- The key and the value of a piece between two separators; a piece without `=` is a key with an
empty value.  Any further signs belong to the value. -/
def readPair (piece : List Char) : String × String :=
  let (key, value) := (splitFirst '=' piece).getD (piece, [])
  (String.ofList (decodeText key), String.ofList (decodeText value))

/-- The keys and values of a query string in order; question marks in front of it and empty pieces
do not count.  Any other question mark is part of a key or of a value. -/
def readPairs (cs : List Char) : List (String × String) :=
  let pieces := cut (· == '&') (cs.dropWhile (· == '?'))
  (pieces.filter fun piece => !piece.isEmpty).map readPair

/-- A value with one more: two values make a list.  A third value goes to the end of the list. -/
def collect (old : Option Value) (text : String) : Value :=
  match old with
  | none => .text text
  | some (.list items) => .list (items ++ [.text text])
  | some v => .list [v, .text text]

/-- The parameters of a query string.  All values are texts or lists of texts, and a key with an
empty value is kept. -/
def toParams (cs : List Char) : Params :=
  (readPairs cs).foldl (fun p e => p.insert e.1 (collect (p.get? e.1) e.2)) .empty

end UrlFilter.QueryString
