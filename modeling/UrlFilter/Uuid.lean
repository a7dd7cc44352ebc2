import UrlFilter.Text.Blank
import UrlFilter.Text.Digit

namespace UrlFilter

open UrlFilter.Text

/-!
# Universally unique identifiers

* `Uuid` — a number of 128 bits.
* `Uuid.text` — its canonical text: 32 lower-case digits of base sixteen in five groups.
* `Uuid.read?` — reads the canonical text, and also one in braces, behind `urn:uuid:` or without
  hyphens, as long as 32 characters remain that denote a number of base sixteen.
-/

/-- The number of identifiers, two to the power of 128. -/
def uuidCount : Nat := 0x100000000000000000000000000000000

/-- An identifier of 128 bits.  The bound is part of the structure, so that every identifier has a
canonical text. -/
structure Uuid where
  value : Nat
  value_lt : value < uuidCount
  deriving DecidableEq, Repr

namespace Uuid

/-- The identifier with the given number, if it has at most 128 bits.  All identifiers that are read
come from here. -/
def of? (value : Nat) : Option Uuid :=
  if h : value < uuidCount then some ⟨value, h⟩ else none

/-- The number of an identifier names that identifier. -/
theorem of?_self (u : Uuid) : of? u.value = some u := by
  rw [of?, dif_pos u.value_lt]

/-! ### Writing -/

/-- The digits in groups of the given sizes with hyphens between the groups.  Digits beyond the last
group are not written. -/
def grouped : List Nat → List Char → List Char
  | [], _ => []
  | [n], digits => digits.take n
  | n :: sizes, digits => digits.take n ++ '-' :: grouped sizes (digits.drop n)

/-- The canonical text.  No two identifiers share one, as it reads back. -/
def text (u : Uuid) : List Char :=
  grouped [8, 4, 4, 4, 12] (hexPadded 32 u.value)

/-! ### Reading -/

/-- The text without the occurrences of a word, found from left to right; `skip` characters of an
occurrence are still to be dropped.  An occurrence that begins inside another one does not count. -/
def removeWord (word : List Char) : (skip : Nat) → List Char → List Char
  | _, [] => []
  | skip + 1, _ :: cs => removeWord word skip cs
  | 0, c :: cs =>
    if word.isPrefixOf (c :: cs) then removeWord word (word.length - 1) cs
    else c :: removeWord word 0 cs

/-- A brace.  Braces of either kind are dropped at both ends. -/
def isBrace (c : Char) : Bool :=
  c == '{' || c == '}'

/-- The digits behind the mark `0x`, which one underscore may follow.  The mark counts as two of the
32 characters. -/
def dropHexMark : List Char → List Char
  | '0' :: x :: rest =>
    if x = 'x' ∨ x = 'X' then
      match rest with
      | '_' :: digits => digits
      | digits => digits
    else '0' :: x :: rest
  | cs => cs

/-- The digit of base sixteen is one.  Letters of either case are digits. -/
def isHexDigit (c : Char) : Bool :=
  (hexDigit? c).isSome

/-- Reads a number of base sixteen: white space around it, a plus sign, the mark `0x` and
underscores between the digits are allowed.  This is more than the canonical text needs, as the
number is read like any other number of base sixteen. -/
def readHex? (cs : List Char) : Option Nat := do
  let inner := dropEndWhile isWhiteSpace (cs.dropWhile isWhiteSpace)
  let unsigned := match toAsciiDigits inner with
    | '+' :: rest => rest
    | rest => rest
  let digits ← withoutSeparators? isHexDigit false (dropHexMark unsigned)
  if digits.isEmpty then none else hexValue? digits

/-- The identifier that a text denotes.  Hyphens may stand anywhere. -/
def read? (cs : List Char) : Option Uuid := do
  let bare := removeWord "uuid:".toList 0 (removeWord "urn:".toList 0 cs)
  let digits := (dropEndWhile isBrace (bare.dropWhile isBrace)).filter (· != '-')
  if digits.length = 32 then of? (← readHex? digits) else none

end Uuid

end UrlFilter
