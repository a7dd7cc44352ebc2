import UrlFilter.Number.Binary

namespace UrlFilter.Text

open UrlFilter.Number

/-!
# Similar names

Suggestions for a misspelled name: the known names that have the most in common with it.

* `longestMatch` — the longest stretch that two texts share.
* `matchCount` — how many characters lie in stretches that the texts share in the same order.
* `similarity` — twice that count, relative to the length of both texts.
* `closest?` — at most three names, the most similar first.
-/

/-- A stretch that two texts share: where it starts in either text, and how long it is.  A stretch
of length zero says that nothing is shared. -/
structure SharedStretch where
  first : Nat
  second : Nat
  length : Nat
  deriving DecidableEq, Repr

/-- How far a shared stretch that ends at a character reaches back, for each character of the second
text, from the same table for the character before.  A character that `skip` holds of starts no
stretch.  So the whole table never has to be kept. -/
def reachRow (skip : Char → Bool) (c : Char) (second : List Char) (before : List Nat) : List Nat :=
  List.zipWith (fun d n => if c = d && !skip d then n + 1 else 0) second (0 :: before)

/-- The longer of the best stretch so far and those that end at character `i`; on a tie the earlier
one.  `j` is the place in the second text that the row has come to. -/
def longerOf (i : Nat) : Nat → SharedStretch → List Nat → SharedStretch
  | _, best, [] => best
  | j, best, n :: ns =>
    longerOf i (j + 1) (if best.length < n then ⟨i + 1 - n, j + 1 - n, n⟩ else best) ns

/-- The longest shared stretch of characters that are not skipped, the earliest of these.  `i` is
the place in the first text. -/
def longestUnskipped (skip : Char → Bool) (second : List Char) :
    Nat → SharedStretch → List Nat → List Char → SharedStretch
  | _, best, _, [] => best
  | i, best, before, c :: cs =>
    let row := reachRow skip c second before
    longestUnskipped skip second (i + 1) (longerOf i 0 best row) row cs

/-- The number of characters that two texts share at their start.  The shorter text bounds it. -/
def commonLength : List Char → List Char → Nat
  | c :: cs, d :: ds => if c = d then commonLength cs ds + 1 else 0
  | _, _ => 0

/-- A shared stretch made longer at both ends as far as the texts agree.  Characters that are
skipped may be taken in here, as they start no stretch but can be part of one. -/
def SharedStretch.extend (a b : List Char) (s : SharedStretch) : SharedStretch :=
  let left := commonLength (a.take s.first).reverse (b.take s.second).reverse
  let right := commonLength (a.drop (s.first + s.length)) (b.drop (s.second + s.length))
  ⟨s.first - left, s.second - left, s.length + left + right⟩

/-- The longest stretch that two texts share.  There may be others of the same length. -/
def longestMatch (skip : Char → Bool) (a b : List Char) : SharedStretch :=
  (longestUnskipped skip b 0 ⟨0, 0, 0⟩ (List.replicate b.length 0) a).extend a b

/-- How many characters lie in shared stretches: the longest one, and those on either side of it.
Both sides are shorter than the text, so that the search ends. -/
def matchCount (skip : Char → Bool) (a b : List Char) : Nat :=
  let s := longestMatch skip a b
  if _h : 0 < s.length ∧ s.first < a.length then
    s.length + matchCount skip (a.take s.first) (b.take s.second)
      + matchCount skip (a.drop (s.first + s.length)) (b.drop (s.second + s.length))
  else 0
termination_by a.length
decreasing_by
  · change 0 < (longestMatch skip a b).length ∧ (longestMatch skip a b).first < a.length at _h
    simp only [List.length_take]
    omega
  · change 0 < (longestMatch skip a b).length ∧ (longestMatch skip a b).first < a.length at _h
    simp only [List.length_drop]
    omega

/-- The characters of a long name that occur too often in it to tell anything.  Names of fields are
hardly ever so long. -/
def tooCommon (name : List Char) (c : Char) : Bool :=
  200 ≤ name.length && name.length / 100 + 1 < name.count c

/-- Twice the number of shared characters, relative to the length of both texts.  It lies between
zero and one. -/
def similarity (candidate name : List Char) : Binary :=
  let total := candidate.length + name.length
  if total = 0 then .ofRatio false 1 1
  else .ofRatio false (2 * matchCount (tooCommon name) candidate name) total

/-- Neither number is a NaN and the first is not above the second.  Cutoffs are given by users and
may be anything. -/
def atMost (x y : Binary) : Bool :=
  match x.toDecimal.compare? y.toDecimal with
  | some order => order != .gt
  | none => false

/-- The more similar candidate comes first, and of two equally similar ones the later name.  Ties
are broken by the names, so that suggestions do not depend on the order of the candidates. -/
def ranksBefore (x y : Binary × String) : Bool :=
  match x.1.toDecimal.compare? y.1.toDecimal with
  | some .eq => !(decide (x.2 < y.2))
  | some order => order == .gt
  | none => false

/-- The three candidates most similar to a name, of those whose similarity reaches the cutoff; the
cutoff must lie between zero and one.  Fewer are given if fewer are similar enough. -/
def closest? (cutoff : Binary) (name : String) (candidates : List String) :
    Option (List String) :=
  if atMost (.ofRatio false 0 1) cutoff && atMost cutoff (.ofRatio false 1 1) then
    let scored := candidates.map fun x => (similarity x.toList name.toList, x)
    let good := scored.filter fun x => atMost cutoff x.1
    some (((good.mergeSort ranksBefore).take 3).map (·.2))
  else none

/-- The usual cutoff for suggestions.  It is the decimal fraction rounded to a binary number. -/
def usualCutoff : Binary := .ofRatio false 6 10

/-- Suggestions for a name with the usual cutoff.  With this cutoff there always is an answer,
possibly an empty one. -/
def suggestions (name : String) (candidates : List String) : List String :=
  (closest? usualCutoff name candidates).getD []

end UrlFilter.Text
