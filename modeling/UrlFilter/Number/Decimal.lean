import UrlFilter.Number.Numeral

namespace UrlFilter.Number

open UrlFilter.Text

/-!
# Decimal numbers

Decimal floating-point numbers that keep their trailing zeros, and the texts they have.

* `Decimal` — a signed coefficient and an exponent, an infinity or a quiet or signaling NaN.
* `Decimal.compare?` — the order of the numbers; NaNs have none.
* `Decimal.read?` — reads a number; underscores are ignored.
* `Decimal.scientific` — the text with an exponent where one is needed.
* `Decimal.plain` — the text without an exponent.
-/

/-- A decimal number.  The coefficient and the exponent are kept as written, so that `1.5` and
`1.50` are two representations of one number.  A NaN can carry digits that say where it came
from. -/
inductive Decimal where
  | finite (negative : Bool) (coefficient : Nat) (exponent : Int)
  | infinite (negative : Bool)
  | nan (negative signaling : Bool) (payload : Nat)
  deriving DecidableEq, Repr

namespace Decimal

/-- The decimal number equal to an integer.  The exponent is zero. -/
def ofInt (n : Int) : Decimal :=
  .finite (n < 0) n.natAbs 0

/-- A NaN of either kind.  A NaN is equal to nothing. -/
def isNan : Decimal → Bool
  | .nan .. => true
  | _ => false

/-- A NaN that no operation accepts.  Even the question whether it is equal to another number has no
answer. -/
def isSignaling : Decimal → Bool
  | .nan _ signaling _ => signaling
  | _ => false

/-- A zero of either sign.  Its exponent does not matter. -/
def isZero : Decimal → Bool
  | .finite _ coefficient _ => coefficient == 0
  | _ => false

/-! ### Order -/

/-- The number of digits of a coefficient.  Zero has one digit. -/
def digitCount (n : Nat) : Nat :=
  (Nat.toDigits 10 n).length

/-- The order of `c₁ * 10 ^ e₁` and `c₂ * 10 ^ e₂`.  The numbers of digits decide first, so that no
power of ten larger than the coefficients is formed.  If the first digits have the same place, the
smaller exponent becomes that of both. -/
def compareMagnitude (c₁ : Nat) (e₁ : Int) (c₂ : Nat) (e₂ : Int) : Ordering :=
  if c₁ = 0 ∨ c₂ = 0 then compare c₁ c₂
  else
    let top₁ := e₁ + digitCount c₁
    let top₂ := e₂ + digitCount c₂
    if top₁ < top₂ then .lt
    else if top₂ < top₁ then .gt
    else compare (c₁ * Nat.pow 10 (e₁ - e₂).toNat) (c₂ * Nat.pow 10 (e₂ - e₁).toNat)

/-- The order of two numbers with signs, given the order of their magnitudes.  Of two negative
numbers the one with the larger magnitude is the smaller one. -/
def compareSigned (negative₁ negative₂ : Bool) (magnitudes : Ordering) : Ordering :=
  match negative₁, negative₂ with
  | false, false => magnitudes
  | true, true => magnitudes.swap
  | false, true => .gt
  | true, false => .lt

/-- The order of two numbers, if neither is a NaN.  The two zeros are equal, and so are two
representations of one number. -/
def compare? : Decimal → Decimal → Option Ordering
  | .nan .., _ => none
  | _, .nan .. => none
  | .infinite n₁, .infinite n₂ => some (compareSigned n₁ n₂ .eq)
  | .infinite n₁, .finite .. => some (if n₁ then .lt else .gt)
  | .finite .., .infinite n₂ => some (if n₂ then .gt else .lt)
  | .finite n₁ c₁ e₁, .finite n₂ c₂ e₂ =>
    if c₁ = 0 ∧ c₂ = 0 then some .eq
    else some (compareSigned (n₁ && c₁ != 0) (n₂ && c₂ != 0) (compareMagnitude c₁ e₁ c₂ e₂))

/-! ### Reading -/

/-- The largest exponent that the leading digit of a number may have. -/
def maxExponent : Int := 999999999999999999

/-- The least exponent that the last digit of a number may have. -/
def minExponent : Int := -1999999999999999997

/-- The exponents of the first and of the last digit are within bounds.  A zero has no first digit,
and its exponent alone counts. -/
def inBounds (coefficient : Nat) (exponent : Int) : Bool :=
  minExponent ≤ exponent &&
    (if coefficient = 0 then exponent else exponent + digitCount coefficient - 1) ≤ maxExponent

/-- The digits after the word for a NaN, possibly none.  Without digits the payload is zero. -/
def readPayload? (cs : List Char) : Option Nat :=
  if cs.isEmpty then some 0 else digitsValue? cs

/-- Reads an unsigned number in lower-case ASCII letters.  A number out of bounds is none. -/
def readUnsigned? (negative : Bool) (cs : List Char) : Option Decimal :=
  match cs with
  | 'i' :: 'n' :: 'f' :: rest =>
    if rest = [] ∨ rest = "inity".toList then some (.infinite negative) else none
  | 'n' :: 'a' :: 'n' :: rest => (readPayload? rest).map (.nan negative false)
  | 's' :: 'n' :: 'a' :: 'n' :: rest => (readPayload? rest).map (.nan negative true)
  | _ =>
    match Numeral.read? cs with
    | some ⟨coefficient, exponent⟩ =>
      if inBounds coefficient exponent then some (.finite negative coefficient exponent) else none
    | none => none

/-- The decimal number that a text denotes.  Digits of any script are read, and letters of either
case. -/
def read? (cs : List Char) : Option Decimal :=
  let (negative, rest) := splitSign ((toAsciiDigits (trim cs)).filter (· != '_'))
  readUnsigned? negative (rest.map Char.toLower)

/-! ### Writing -/

/-- The minus sign of a negative number.  A positive number has none, and zero can have one. -/
def sign (negative : Bool) : List Char :=
  if negative then ['-'] else []

/-- The text of a NaN: the payload is left out if it is zero.  The two kinds are told apart by one
letter. -/
def nanText (signaling : Bool) (payload : Nat) : List Char :=
  (if signaling then "sNaN".toList else "NaN".toList) ++
    if payload = 0 then [] else Nat.toDigits 10 payload

/-- The digits with a point `places` digits before their end.  A zero stands in front of the point
if no digit does. -/
def withPoint (digits : List Char) (places : Nat) : List Char :=
  if places = 0 then digits
  else
    let filled := List.replicate (places + 1 - digits.length) '0' ++ digits
    filled.take (filled.length - places) ++ '.' :: filled.drop (filled.length - places)

/-- The text of a number: positional if the exponent is not positive and the number is at least a
millionth, and otherwise one digit before the point and an exponent.  It reads back as the same
representation. -/
def scientific : Decimal → List Char
  | .finite negative coefficient exponent =>
    let digits := Nat.toDigits 10 coefficient
    let top := exponent + digits.length
    sign negative ++
      if exponent ≤ 0 ∧ -6 < top then withPoint digits (-exponent).toNat
      else
        let shown := top - 1
        withPoint digits (digits.length - 1) ++
          if shown = 0 then []
          else 'E' :: (if shown < 0 then '-' else '+') :: Nat.toDigits 10 shown.natAbs
  | .infinite negative => sign negative ++ "Infinity".toList
  | .nan negative signaling payload => sign negative ++ nanText signaling payload

/-- The text of a number without an exponent.  Zeros are added up to the unit, so that the exponent
may be lost but not the value. -/
def plain : Decimal → List Char
  | .finite negative coefficient exponent =>
    let digits := Nat.toDigits 10 coefficient
    sign negative ++
      if 0 < exponent then
        if coefficient = 0 then digits else digits ++ List.replicate exponent.toNat '0'
      else withPoint digits (-exponent).toNat
  | .infinite negative => sign negative ++ "Infinity".toList
  | .nan negative signaling payload => sign negative ++ nanText signaling payload

/-! ### Whole numbers -/

/-- The integer that a number is equal to.  A number with a fraction has none, and neither has an
infinity or a NaN. -/
def toInt? : Decimal → Option Int
  | .finite negative coefficient exponent =>
    let magnitude :=
      if 0 ≤ exponent then some (coefficient * Nat.pow 10 exponent.toNat)
      else if coefficient = 0 then some 0
      else if digitCount coefficient ≤ exponent.natAbs then none
      else
        let unit := Nat.pow 10 exponent.natAbs
        if coefficient % unit = 0 then some (coefficient / unit) else none
    magnitude.map fun m => if negative then -(m : Int) else m
  | _ => none

end Decimal

end UrlFilter.Number
