namespace UrlFilter.Text

/-!
# Decimal digits

Numbers are read in the digits of any script and written in ASCII digits.

* `digitZeros` — the zero of each block of ten digits (Unicode 14).
* `digitValue?` — the value of a digit of any script.
* `toAsciiDigits` — a text with its digits turned into ASCII digits.
* `withoutSeparators?` — a numeral without the underscores that group its digits.
* `padded` — a number in a fixed number of digits.
-/

/-- The zeros of the blocks of decimal digits.  The other nine digits follow each of them in
order. -/
def digitZeros : List Nat := [
  0x30, 0x660, 0x6F0, 0x7C0, 0x966, 0x9E6, 0xA66, 0xAE6, 0xB66, 0xBE6, 0xC66, 0xCE6, 0xD66,
  0xDE6, 0xE50, 0xED0, 0xF20, 0x1040, 0x1090, 0x17E0, 0x1810, 0x1946, 0x19D0, 0x1A80, 0x1A90,
  0x1B50, 0x1BB0, 0x1C40, 0x1C50, 0xA620, 0xA8D0, 0xA900, 0xA9D0, 0xA9F0, 0xAA50, 0xABF0,
  0xFF10, 0x104A0, 0x10D30, 0x11066, 0x110F0, 0x11136, 0x111D0, 0x112F0, 0x11450, 0x114D0,
  0x11650, 0x116C0, 0x11730, 0x118E0, 0x11950, 0x11C50, 0x11D50, 0x11DA0, 0x16A60, 0x16AC0,
  0x16B50, 0x1D7CE, 0x1D7D8, 0x1D7E2, 0x1D7EC, 0x1D7F6, 0x1E140, 0x1E2F0, 0x1E950, 0x1FBF0]

/-- The value of a decimal digit of any script.  Letters and signs that denote numbers are no
digits. -/
def digitValue? (c : Char) : Option Nat :=
  (digitZeros.find? fun z => z ≤ c.toNat && c.toNat ≤ z + 9).map (c.toNat - ·)

/-- The text with each digit replaced by the ASCII digit of the same value.  ASCII characters are
not looked at any further. -/
def toAsciiDigits (cs : List Char) : List Char :=
  cs.map fun c => if c.toNat < 128 then c else
    match digitValue? c with
    | some d => d.digitChar
    | none => c

/-- The value of a non-empty list of ASCII digits.  Zeros in front do not change it. -/
def digitsValue? (cs : List Char) : Option Nat :=
  if cs.isEmpty || !cs.all Char.isDigit then none else some (Nat.ofDigitChars 10 cs 0)

/-- Drops underscores, each of which must stand between two digits.  The flag tells whether the
character just read was a digit.  Two underscores side by side do not group digits. -/
def withoutSeparators? (isDigit : Char → Bool) : Bool → List Char → Option (List Char)
  | _, [] => some []
  | afterDigit, c :: cs =>
    if c = '_' then
      if afterDigit && cs.head?.any isDigit then withoutSeparators? isDigit false cs else none
    else (withoutSeparators? isDigit (isDigit c) cs).map (c :: ·)

/-! ### Writing numbers -/

/-- A number in at least `width` digits, with zeros in front.  A longer number has all of its
digits. -/
def padded (width n : Nat) : List Char :=
  let digits := Nat.toDigits 10 n
  List.replicate (width - digits.length) '0' ++ digits

/-- A number in exactly `width` lower-case digits of base sixteen, the highest first.  Higher digits
are cut off. -/
def hexPadded : Nat → Nat → List Char
  | 0, _ => []
  | width + 1, n => hexPadded width (n / 16) ++ [(n % 16).digitChar]

/-- The value of a digit of base sixteen in either case.  There are six letters among them. -/
def hexDigit? (c : Char) : Option Nat :=
  if '0' ≤ c ∧ c ≤ '9' then some (c.toNat - '0'.toNat)
  else if 'a' ≤ c ∧ c ≤ 'f' then some (c.toNat - 'a'.toNat + 10)
  else if 'A' ≤ c ∧ c ≤ 'F' then some (c.toNat - 'A'.toNat + 10)
  else none

/-- The value of a list of digits of base sixteen.  One character that is no digit spoils the
whole. -/
def hexValue? (cs : List Char) : Option Nat :=
  cs.foldl (fun value c => value.bind fun v => (hexDigit? c).map (16 * v + ·)) (some 0)

end UrlFilter.Text
