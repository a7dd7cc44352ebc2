import UrlFilter.Text.CaseTable

namespace UrlFilter.Text

/-!
# Letter case

* `simpleLower` — the lower-case letter of one letter.
* `lower` — a text in lower case, where a sigma at the end of a word takes its final form.
* `upperLetter`, `titleLetter` — the upper-case and title-case forms of one letter.
* `sameLetter` — the equality of letters in a search that ignores case.
-/

/-- The letter `c` moved by the first run that holds it.  Runs do not overlap. -/
def CaseRun.shift? (runs : List CaseRun) (c : Char) : Option Char :=
  (runs.find? (·.contains c.toNat)).map fun r => Char.ofNat ((c.toNat : Int) + r.offset).toNat

/-- The letters that a table of expansions gives for `c`.  Few letters have more than one. -/
def expansion? (table : List (Nat × List Nat)) (c : Char) : Option (List Char) :=
  (table.lookup c.toNat).map fun letters => letters.map Char.ofNat

/-- The code point of `c` lies in one of the ranges.  Both ends of a range belong to it. -/
def inRanges (ranges : List (Nat × Nat)) (c : Char) : Bool :=
  ranges.any fun r => r.1 ≤ c.toNat && c.toNat ≤ r.2

/-! ### Lower case -/

/-- The lower-case form of `c` as one letter.  A letter without case is its own. -/
def simpleLower (c : Char) : Char :=
  if c.toNat < 128 then c.toLower
  else if c = 'İ' then 'i'
  else (CaseRun.shift? lowerRuns c).getD c

/-- The lower-case form of a letter outside of any word.  Only one letter has a lower-case form of
two. -/
def lowerLetter (c : Char) : List Char :=
  if c = 'İ' then ['i', '\u0307'] else [simpleLower c]

/-- The first character that is not skipped is a letter with case.  It decides which form a sigma
takes. -/
def startsCased : List Char → Bool
  | [] => false
  | c :: cs => if inRanges ignorableRanges c then startsCased cs else inRanges casedRanges c

/-- Lower case of the text after `before`, which is given with its last character first.  A sigma
takes its final form where a letter stands before it and none after it.  What stands before is
needed for this one letter only. -/
def lowerAfter (before : List Char) : List Char → List Char
  | [] => []
  | c :: cs =>
    if c = 'Σ' then
      (if startsCased before && !startsCased cs then 'ς' else 'σ') :: lowerAfter (c :: before) cs
    else lowerLetter c ++ lowerAfter (c :: before) cs

/-- A text in lower case.  This is how two texts are made comparable in a search for words. -/
def lower (cs : List Char) : List Char :=
  lowerAfter [] cs

/-- `lower` on strings. -/
def lowered (s : String) : String :=
  String.ofList (lower s.toList)

/-! ### Upper and title case -/

/-- The upper-case form of a letter, which may be several letters.  An expansion comes before a
letter of its own. -/
def upperLetter (c : Char) : List Char :=
  if c.toNat < 128 then [c.toUpper]
  else (expansion? upperExpansions c).getD [(CaseRun.shift? upperRuns c).getD c]

/-- The form of a letter at the start of a title, which may be several letters.  For most letters it
is the upper-case form. -/
def titleLetter (c : Char) : List Char :=
  match expansion? titleExpansions c with
  | some letters => letters
  | none =>
    match CaseRun.shift? titleRuns c with
    | some letter => [letter]
    | none => upperLetter c

/-- The first letter in upper case, the rest as it is.  An empty text has no first letter. -/
def upperFirst : List Char → List Char
  | [] => []
  | c :: cs => upperLetter c ++ cs

/-- The first letter in title case and the rest in lower case.  A sigma at the end takes its final
form here, too. -/
def capitalized : List Char → List Char
  | [] => []
  | c :: cs => titleLetter c ++ lowerAfter [c] cs

/-! ### Searches that ignore case -/

/-- The letter that stands for all letters equal to `c` in a search that ignores case.  It is the
first of its class, if it has one. -/
def searchKey (c : Char) : Nat :=
  let n := (simpleLower c).toNat
  ((alikeClasses.find? (·.contains n)).bind (·.head?)).getD n

/-- Two letters are one letter in a search that ignores case.  This is coarser than the equality of
lower-case forms. -/
def sameLetter (c d : Char) : Bool :=
  searchKey c == searchKey d

@[simp] theorem sameLetter_refl (c : Char) : sameLetter c c = true := by simp [sameLetter]

end UrlFilter.Text
