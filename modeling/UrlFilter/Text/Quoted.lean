import UrlFilter.Text.Printable

namespace UrlFilter.Text

/-!
# Quoted texts

Error messages show a text between quotes, with the characters that have no printed form of their
own written by number.

* `quoteFor` — the quote that encloses a text: the apostrophe, unless only it occurs inside.
* `quoted` — the text between its quotes.
-/

/-- The lower-case digits of a number in base sixteen, at least `width` of them.  No prefix stands
before them. -/
def hexDigits (width n : Nat) : List Char :=
  let digits := Nat.toDigits 16 n
  List.replicate (width - digits.length) '0' ++ digits

/-- The quote that encloses a text: a double quote if the text holds an apostrophe and no double
quote, and otherwise an apostrophe.  A text with quotes of both kinds stands between apostrophes. -/
def quoteFor (cs : List Char) : Char :=
  if cs.contains '\'' && !cs.contains '"' then '"' else '\''

/-- One character as it stands between two quotes.  Its number has two, four or eight digits, as
many as it needs. -/
def quotedChar (quote c : Char) : List Char :=
  if c = quote ∨ c = '\\' then ['\\', c]
  else if c = '\n' then ['\\', 'n']
  else if c = '\r' then ['\\', 'r']
  else if c = '\t' then ['\\', 't']
  else if isPrintable c then [c]
  else if c.toNat < 0x100 then '\\' :: 'x' :: hexDigits 2 c.toNat
  else if c.toNat < 0x10000 then '\\' :: 'u' :: hexDigits 4 c.toNat
  else '\\' :: 'U' :: hexDigits 8 c.toNat

/-- A text between quotes.  What stands between them shows every character of the text. -/
def quoted (s : String) : String :=
  let cs := s.toList
  let quote := quoteFor cs
  String.ofList (quote :: cs.flatMap (quotedChar quote) ++ [quote])

end UrlFilter.Text
