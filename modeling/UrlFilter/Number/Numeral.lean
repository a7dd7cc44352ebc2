import UrlFilter.Text.Blank
import UrlFilter.Text.Digit

namespace UrlFilter.Number

open UrlFilter.Text

/-!
# Numerals

What integers, binary and decimal floating-point numbers have in common when they are read.

* `splitSign` — a numeral without its sign.
* `Numeral` — a coefficient and a power of ten, as in `1.5e3`.
* `Numeral.read?` — reads an unsigned numeral in ASCII digits.
* `Integer.read?` — reads a signed integer of limited length.
* `Integer.text`, `Integer.isWritable` — the digits of an integer, and whether it may be written.
-/

/-- The sign in front of a numeral, true for minus, and the rest of it.  A second sign is not taken
off. -/
def splitSign : List Char → Bool × List Char
  | '-' :: cs => (true, cs)
  | '+' :: cs => (false, cs)
  | cs => (false, cs)

/-! ### Integers -/

/-- The longest integer, counted in digits, that is read from a text or written as one.  The sign
does not count. -/
def maxIntegerDigits : Nat := 4300

/-- The integer that a text denotes: an optional sign and digits of any script, which underscores
may group.  Blanks around it are ignored, and zeros in front count as digits. -/
def Integer.read? (cs : List Char) : Option Int := do
  let (negative, rest) := splitSign (toAsciiDigits (trim cs))
  let digits ← withoutSeparators? Char.isDigit false rest
  if maxIntegerDigits < digits.length then none
  let n ← digitsValue? digits
  return if negative then -(n : Int) else n

/-- The digits of an integer, after a minus sign if it is negative.  Only integers that are writable
appear with these digits anywhere; whoever writes an integer checks that first. -/
def Integer.text (n : Int) : List Char :=
  if n < 0 then '-' :: Nat.toDigits 10 n.natAbs else Nat.toDigits 10 n.natAbs

/-- The integer may be written: it has no more digits than an integer that is read. -/
def Integer.isWritable (n : Int) : Bool :=
  decide ((Nat.toDigits 10 n.natAbs).length ≤ maxIntegerDigits)

/-! ### Numerals with a fraction or an exponent -/

/-- The number `coefficient * 10 ^ exponent`.  Two numerals may denote one number. -/
structure Numeral where
  coefficient : Nat
  exponent : Int
  deriving DecidableEq, Repr

/-- The exponent after the letter `e`: an optional sign and at least one digit.  Underscores have
been dropped before. -/
def readExponent? (cs : List Char) : Option Int :=
  let (negative, digits) := splitSign cs
  (digitsValue? digits).map fun n => if negative then -(n : Int) else n

/-- Reads digits with an optional point among or beside them and an optional exponent.  Either side
of the point may lack digits, but not both. -/
def Numeral.read? (cs : List Char) : Option Numeral := do
  let whole := cs.takeWhile Char.isDigit
  let afterWhole := cs.dropWhile Char.isDigit
  let (fraction, rest) :=
    match afterWhole with
    | '.' :: more => (more.takeWhile Char.isDigit, more.dropWhile Char.isDigit)
    | _ => ([], afterWhole)
  if whole.isEmpty && fraction.isEmpty then none
  let exponent ←
    match rest with
    | [] => some 0
    | e :: more => if e = 'e' ∨ e = 'E' then readExponent? more else none
  return ⟨Nat.ofDigitChars 10 (whole ++ fraction) 0, exponent - fraction.length⟩

end UrlFilter.Number
