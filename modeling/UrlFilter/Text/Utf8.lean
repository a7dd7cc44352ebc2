namespace UrlFilter.Text

/-!
# UTF-8

Text as octets, and octets as text.  Reading never fails: where the octets are no text, a
replacement character stands for them.

* `octetsOf` — the octets of a text.
* `ofOctets` — the text of octets; each longest stretch that starts a character but does not finish
  it becomes one replacement character, and so does each octet that starts none.
-/

/-- The octets of one character.  There are one to four of them. -/
def octetsOfChar (c : Char) : List Nat :=
  let n := c.toNat
  if n < 0x80 then [n]
  else if n < 0x800 then [0xC0 + n / 64, 0x80 + n % 64]
  else if n < 0x10000 then [0xE0 + n / 4096, 0x80 + n / 64 % 64, 0x80 + n % 64]
  else [0xF0 + n / 262144, 0x80 + n / 4096 % 64, 0x80 + n / 64 % 64, 0x80 + n % 64]

/-- The octets of a text.  Characters do not depend on their neighbours. -/
def octetsOf (cs : List Char) : List Nat :=
  cs.flatMap octetsOfChar

/-! ### Reading -/

/-- The character that stands for octets that are no text.  It is a character like any other once it
has been read. -/
def replacement : Char := '\uFFFD'

/-- A character of which some octets have been read: their value, the number of octets to come, and
the bounds of the next one.  The bounds exclude numbers that have a shorter form and those that are
no characters. -/
structure Unfinished where
  value : Nat
  missing : Nat
  low : Nat
  high : Nat
  deriving DecidableEq, Repr

/-- The character that an octet starts, if it starts one that has more octets.  An octet that
continues a character starts none. -/
def Unfinished.ofLead? (octet : Nat) : Option Unfinished :=
  if octet < 0xC2 then none
  else if octet < 0xE0 then some ⟨octet - 0xC0, 1, 0x80, 0xBF⟩
  else if octet < 0xF0 then
    some ⟨octet - 0xE0, 2, if octet = 0xE0 then 0xA0 else 0x80, if octet = 0xED then 0x9F else 0xBF⟩
  else if octet < 0xF5 then
    some ⟨octet - 0xF0, 3, if octet = 0xF0 then 0x90 else 0x80, if octet = 0xF4 then 0x8F else 0xBF⟩
  else none

/-- The octet may come next.  After the second octet of a character every continuing octet is
accepted. -/
def Unfinished.accepts (u : Unfinished) (octet : Nat) : Bool :=
  u.low ≤ octet && octet ≤ u.high

/-- The text of octets that follow an unfinished character, or none.  An octet that does not fit
ends the unfinished character and is read anew. -/
def ofOctetsAfter : Option Unfinished → List Nat → List Char
  | none, [] => []
  | some _, [] => [replacement]
  | pending, octet :: octets =>
    match pending.filter (·.accepts octet) with
    | some u =>
      let value := u.value * 64 + (octet - 0x80)
      if u.missing ≤ 1 then Char.ofNat value :: ofOctetsAfter none octets
      else ofOctetsAfter (some ⟨value, u.missing - 1, 0x80, 0xBF⟩) octets
    | none =>
      let lost := if pending.isSome then [replacement] else []
      lost ++
        if octet < 0x80 then Char.ofNat octet :: ofOctetsAfter none octets
        else
          match Unfinished.ofLead? octet with
          | some u => ofOctetsAfter (some u) octets
          | none => replacement :: ofOctetsAfter none octets

/-- The text of octets.  It undoes `octetsOf`. -/
def ofOctets (octets : List Nat) : List Char :=
  ofOctetsAfter none octets

end UrlFilter.Text
