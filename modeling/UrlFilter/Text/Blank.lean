namespace UrlFilter.Text

/-!
# Blank characters

White space at the ends of a text carries no meaning in a URL parameter.

* `isWhiteSpace` — the white space of the Unicode standard.
* `isBlank` — white space and the four characters that separate records.
* `trim` — a text without the blanks at its two ends.
* `cut` — a text as the pieces between separators, empty pieces included.
* `words` — the non-empty pieces between blanks.
-/

/-- The white space of the Unicode standard.  Line breaks of all kinds are among it, and the blank
that does not break a line. -/
def isWhiteSpace (c : Char) : Bool :=
  let n := c.toNat
  (0x09 ≤ n && n ≤ 0x0D) || n == 0x20 || n == 0x85 || n == 0xA0 || n == 0x1680
    || (0x2000 ≤ n && n ≤ 0x200A) || n == 0x2028 || n == 0x2029 || n == 0x202F || n == 0x205F
    || n == 0x3000

/-- One of the four control characters that separate records.  They are no white space of the
standard, but are dropped like it. -/
def isSeparator (c : Char) : Bool :=
  0x1C ≤ c.toNat && c.toNat ≤ 0x1F

/-- A character that is dropped at the ends of a text.  Zero-width characters are not among
these. -/
def isBlank (c : Char) : Bool :=
  isWhiteSpace c || isSeparator c

/-! ### Trimming -/

/-- The list without the longest stretch at its end whose characters all satisfy `p`.  The order of
what is left does not change. -/
def dropEndWhile (p : Char → Bool) : List Char → List Char
  | [] => []
  | c :: cs =>
    match dropEndWhile p cs with
    | [] => if p c then [] else [c]
    | d :: ds => c :: d :: ds

/-- The text between the blanks at its two ends.  Blanks inside of the text stay. -/
def trim (cs : List Char) : List Char :=
  dropEndWhile isBlank (cs.dropWhile isBlank)

/-- `trim` on strings. -/
def trimmed (s : String) : String :=
  String.ofList (trim s.toList)

@[simp] theorem dropEndWhile_nil (p : Char → Bool) : dropEndWhile p [] = [] := rfl

@[simp] theorem trim_nil : trim [] = [] := rfl

/-! ### Cutting -/

/-- The pieces between the characters that satisfy `p`, in order; always at least one piece.  Two of
them side by side have an empty piece between them. -/
def cut (p : Char → Bool) : List Char → List (List Char)
  | [] => [[]]
  | c :: cs =>
    if p c then [] :: cut p cs
    else
      match cut p cs with
      | [] => [[c]]
      | piece :: rest => (c :: piece) :: rest

theorem cut_ne_nil (p : Char → Bool) (cs : List Char) : cut p cs ≠ [] := by
  cases cs with
  | nil => simp [cut]
  | cons c cs =>
    rw [cut]
    split
    · simp
    · split <;> simp

/-- The stretches of characters between blanks.  A blank text has none. -/
def words (cs : List Char) : List (List Char) :=
  (cut isBlank cs).filter fun w => !w.isEmpty

/-- The text before the first `sep` and the text after it.  There is none of either if the separator
does not occur. -/
def splitFirst (sep : Char) : List Char → Option (List Char × List Char)
  | [] => none
  | c :: cs =>
    if c = sep then some ([], cs)
    else (splitFirst sep cs).map fun (before, after) => (c :: before, after)

end UrlFilter.Text
