import UrlFilter.Number.Decimal

namespace UrlFilter.Number

open UrlFilter.Text

/-!
# Binary floating-point numbers

Double-precision numbers as exact fractions; no machine arithmetic is involved.

* `Binary` — a signed integer times a power of two, an infinity or a NaN.
* `Binary.ofRatio` — the number nearest to a fraction; a tie goes to the even mantissa.
* `Binary.toDecimal` — the exact value in decimal digits.
* `Binary.read?` — reads a number.
* `Binary.text` — the shortest text that reads back.
-/

/-- A double-precision number: `mantissa * 2 ^ exponent` with a sign, where the mantissa has at most
53 bits and the exponent is at least -1074.  The least exponents are those of the numbers that are
written with fewer bits. -/
inductive Binary where
  | finite (negative : Bool) (mantissa : Nat) (exponent : Int)
  | infinite (negative : Bool)
  | nan
  deriving DecidableEq, Repr

namespace Binary

/-- The exponent of the smallest numbers.  The power of two with this exponent is the least number
above zero. -/
def minExponent : Int := -1074

/-- The exponent of the largest numbers.  With a mantissa of 53 bits anything larger is an
infinity. -/
def maxExponent : Int := 971

/-- The least mantissa of 53 bits, two to the power of 52.  Only the smallest numbers have a smaller
one. -/
def leastFullMantissa : Nat := 0x10000000000000

/-- The quotient rounded to the nearest integer, a tie to the even one.  The remainder is compared
with half of the divisor, without fractions. -/
def roundDiv (n d : Nat) : Nat :=
  let q := n / d
  let r := n % d
  if d < 2 * r ∨ (2 * r = d ∧ q % 2 = 1) then q + 1 else q

/-- The numerator and the denominator of `n / d / 2 ^ e`.  Both are natural numbers, whatever the
sign of the exponent. -/
def scaled (n d : Nat) (e : Int) : Nat × Nat :=
  (n * Nat.pow 2 (-e).toNat, d * Nat.pow 2 e.toNat)

/-- The number nearest to `n / d`, an infinity if that is too large.  The exponent is guessed from
the numbers of bits and corrected by one if need be; rounding up can give one bit too many, which
raises the exponent again. -/
def ofRatio (negative : Bool) (n d : Nat) : Binary :=
  if n = 0 then .finite negative 0 minExponent
  else
    let guess : Int := (Nat.log2 n : Int) - Nat.log2 d - 52
    let (n₀, d₀) := scaled n d guess
    let exponent := max minExponent (if n₀ < leastFullMantissa * d₀ then guess - 1 else guess)
    let (n₁, d₁) := scaled n d exponent
    let rounded := roundDiv n₁ d₁
    let (mantissa, exponent) :=
      if rounded = 2 * leastFullMantissa then (leastFullMantissa, exponent + 1)
      else (rounded, exponent)
    if maxExponent < exponent then .infinite negative else .finite negative mantissa exponent

/-- The number nearest to a numeral.  Exponents far out of range are settled by the count of digits.
All others fit into a fraction of moderate size. -/
def ofNumeral (negative : Bool) (x : Numeral) : Binary :=
  let top := x.exponent + Decimal.digitCount x.coefficient
  if x.coefficient = 0 ∨ top < -400 then .finite negative 0 minExponent
  else if 400 < top then .infinite negative
  else if x.exponent < 0 then ofRatio negative x.coefficient (Nat.pow 10 x.exponent.natAbs)
  else ofRatio negative (x.coefficient * Nat.pow 10 x.exponent.toNat) 1

/-- The least integer that is not below a finite number.  An infinity and a NaN have none. -/
def ceil? : Binary → Option Int
  | .finite negative mantissa exponent =>
    let up := Nat.pow 2 exponent.toNat
    let down := Nat.pow 2 (-exponent).toNat
    some (if negative then -((mantissa * up / down : Nat) : Int)
      else ((mantissa * up + (down - 1)) / down : Nat))
  | _ => none

/-- The integer that a finite number is equal to.  A number with a fraction has none. -/
def toInt? : Binary → Option Int
  | .finite negative mantissa exponent =>
    let m := mantissa * Nat.pow 2 exponent.toNat
    let down := Nat.pow 2 (-exponent).toNat
    if m % down = 0 then some (if negative then -((m / down : Nat) : Int) else (m / down : Nat))
    else none
  | _ => none

/-- The value in decimal digits; powers of two divide powers of ten, so nothing is rounded.  An
infinity stays one, and so does a NaN. -/
def toDecimal : Binary → Decimal
  | .finite negative mantissa exponent =>
    if 0 ≤ exponent then .finite negative (mantissa * Nat.pow 2 exponent.toNat) 0
    else .finite negative (mantissa * Nat.pow 5 exponent.natAbs) exponent
  | .infinite negative => .infinite negative
  | .nan => .nan false false 0

/-! ### Reading -/

/-- Reads an unsigned number in lower-case ASCII letters.  These include the words for infinities
and for a NaN. -/
def readUnsigned? (negative : Bool) (cs : List Char) : Option Binary :=
  if cs = "inf".toList ∨ cs = "infinity".toList then some (.infinite negative)
  else if cs = "nan".toList then some .nan
  else (Numeral.read? cs).map (ofNumeral negative)

/-- The number that a text denotes; underscores may group digits.  Digits of any script are read,
and letters of either case. -/
def read? (cs : List Char) : Option Binary := do
  let plain ← withoutSeparators? Char.isDigit false (toAsciiDigits (trim cs))
  let (negative, rest) := splitSign plain
  readUnsigned? negative (rest.map Char.toLower)

/-! ### Shortest text -/

/-- `k` with `10 ^ k ≤ n / d < 10 ^ (k + 1)`, for positive `n` and `d`.  The numbers of digits leave
two candidates, and one comparison decides between them. -/
def decimalExponent (n d : Nat) : Int :=
  let k : Int := (Decimal.digitCount n : Int) - Decimal.digitCount d
  if n * Nat.pow 10 (-k).toNat < d * Nat.pow 10 k.toNat then k - 1 else k

/-- The fraction `n / d` in units of `10 ^ e`.  Numerator and denominator are natural numbers. -/
def inUnits (n d : Nat) (e : Int) : Nat × Nat :=
  (n * Nat.pow 10 (-e).toNat, d * Nat.pow 10 e.toNat)

/-- The multiple of `10 ^ e` nearest to `v / d` among the two beside it that lie between `low / d`
and `high / d`; the bounds themselves belong to the interval if `closed`.  There is none if both of
the two lie outside. -/
def nearestOnGrid? (low v high d : Nat) (closed : Bool) (e : Int) : Option Nat :=
  let (v', d') := inUnits v d e
  let below := v' / d'
  let inside (k : Nat) : Bool :=
    let (l, dl) := inUnits low d e
    let (h, dh) := inUnits high d e
    if closed then l ≤ k * dl && k * dh ≤ h else l < k * dl && k * dh < h
  match inside below, inside (below + 1) with
  | false, false => none
  | true, false => some below
  | false, true => some (below + 1)
  | true, true =>
    let twice := 2 * (v' % d')
    some (if twice < d' ∨ (twice = d' ∧ below % 2 = 0) then below else below + 1)

/-- The fewest digits, with their exponent, that name the number `mantissa * 2 ^ exponent`.  The
interval between the two neighbours is searched with one digit more each time; 17 digits are always
enough. -/
def shortest (mantissa : Nat) (exponent : Int) : Numeral :=
  let gap := if mantissa = leastFullMantissa ∧ minExponent < exponent then 1 else 2
  let up := Nat.pow 2 (exponent - 2).toNat
  let down := Nat.pow 2 (2 - exponent).toNat
  let (low, v, high) := ((4 * mantissa - gap) * up, 4 * mantissa * up, (4 * mantissa + 2) * up)
  let k := decimalExponent v down
  let found := (List.range 17).findSome? fun (n : Nat) =>
    let e := k - (n : Int)
    (nearestOnGrid? low v high down (mantissa % 2 = 0) e).map fun c => Numeral.mk c e
  found.getD ⟨0, 0⟩

/-- A coefficient without the zeros at its end.  Of a zero one digit stays. -/
def withoutTrailingZeros (cs : List Char) : List Char :=
  match dropEndWhile (· = '0') cs with
  | [] => ['0']
  | d :: ds => d :: ds

/-- Where the point stands and how the exponent looks: positional from `1e-4` up to but not
including `1e16`, with at least one digit after the point, and otherwise an exponent of at least two
digits with a sign.  `top` is the power of ten of the first digit. -/
def layout (digits : List Char) (top : Int) : List Char :=
  let kept := withoutTrailingZeros digits
  if -5 < top ∧ top < 16 then
    if top < 0 then '0' :: '.' :: List.replicate (top.natAbs - 1) '0' ++ kept
    else
      let whole := top.toNat + 1
      let filled := kept ++ List.replicate (whole - kept.length) '0'
      let fraction := filled.drop whole
      filled.take whole ++ '.' :: if fraction.isEmpty then ['0'] else fraction
  else
    let fraction := kept.drop 1
    kept.take 1 ++ (if fraction.isEmpty then [] else '.' :: fraction) ++
      'e' :: (if top < 0 then '-' else '+') :: padded 2 top.natAbs

/-- The shortest text that reads back as the number.  A NaN has no sign in its text. -/
def text : Binary → List Char
  | .finite negative mantissa exponent =>
    Decimal.sign negative ++
      if mantissa = 0 then ['0', '.', '0']
      else
        let x := shortest mantissa exponent
        let digits := Nat.toDigits 10 x.coefficient
        layout digits (x.exponent + digits.length - 1)
  | .infinite negative => Decimal.sign negative ++ ['i', 'n', 'f']
  | .nan => ['n', 'a', 'n']

end Binary

end UrlFilter.Number
