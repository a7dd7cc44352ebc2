import UrlFilter.Text.Utf8

namespace UrlFilter.Text

/-!
# Octets read back as text

* `ofOctetsAfter_lead`, `ofOctetsAfter_next`, `ofOctetsAfter_last` — what a reader does with the
  first octet of a character, with one that more follow, and with the last one.
* `ofOctets_octetsOfChar_append` — the octets of a character read back as the character.
* `ofOctets_octetsOf` — the octets of a text read back as the text.
-/

/-! ### Single octets -/

/-- An octet of ASCII is a character.  It needs no octet behind it. -/
theorem ofOctetsAfter_ascii {octet : Nat} (h : octet < 0x80) (octets : List Nat) :
    ofOctetsAfter none (octet :: octets) = Char.ofNat octet :: ofOctetsAfter none octets := by
  simp [ofOctetsAfter, h]

/-- The first octet of a character starts it.  It tells how many octets follow, and within which
bounds the next one is. -/
theorem ofOctetsAfter_lead {octet : Nat} (h : 0x80 ≤ octet) {u : Unfinished}
    (hu : Unfinished.ofLead? octet = some u) (octets : List Nat) :
    ofOctetsAfter none (octet :: octets) = ofOctetsAfter (some u) octets := by
  have hascii : ¬ octet < 0x80 := by omega
  simp [ofOctetsAfter, hascii, hu]

/-- An octet that more follow adds its value.  It has six bits of the code point. -/
theorem ofOctetsAfter_next {u : Unfinished} {octet : Nat} (haccept : u.accepts octet = true)
    (h : 1 < u.missing) (octets : List Nat) :
    ofOctetsAfter (some u) (octet :: octets)
      = ofOctetsAfter (some ⟨u.value * 64 + (octet - 0x80), u.missing - 1, 0x80, 0xBF⟩) octets := by
  have hmore : ¬ u.missing ≤ 1 := by omega
  simp [ofOctetsAfter, Option.filter, haccept, hmore]

/-- The last octet finishes the character.  The reader is then where it was before the character. -/
theorem ofOctetsAfter_last {u : Unfinished} {octet : Nat} (haccept : u.accepts octet = true)
    (h : u.missing ≤ 1) (octets : List Nat) :
    ofOctetsAfter (some u) (octet :: octets)
      = Char.ofNat (u.value * 64 + (octet - 0x80)) :: ofOctetsAfter none octets := by
  simp [ofOctetsAfter, Option.filter, haccept, h]

/-! ### Characters -/

/-- Code points are no surrogates, and there is a highest one.  Surrogates have no octets of their
own. -/
theorem toNat_cases (c : Char) :
    c.toNat < 0xD800 ∨ (0xDFFF < c.toNat ∧ c.toNat < 0x110000) :=
  c.valid

/-- An octet of six bits behind the mark of a continuation is accepted, where no other range is
asked for.  This is so of all octets behind the second one. -/
theorem accepts_continuation (value missing : Nat) {bits : Nat} (h : bits < 64) :
    Unfinished.accepts ⟨value, missing, 0x80, 0xBF⟩ (0x80 + bits) = true := by
  simp only [Unfinished.accepts, Bool.and_eq_true, decide_eq_true_eq]
  omega

/-- A character of two octets reads back.  No character of ASCII is written like this. -/
theorem ofOctetsAfter_two {n : Nat} (hlow : 0x80 ≤ n) (hhigh : n < 0x800) (octets : List Nat) :
    ofOctetsAfter none ((0xC0 + n / 64) :: (0x80 + n % 64) :: octets)
      = Char.ofNat n :: ofOctetsAfter none octets := by
  have hlead : Unfinished.ofLead? (0xC0 + n / 64) = some ⟨n / 64, 1, 0x80, 0xBF⟩ := by
    unfold Unfinished.ofLead?
    rw [if_neg (by omega), if_pos (by omega), Nat.add_sub_cancel_left]
  have haccept := accepts_continuation (n / 64) 1 (show n % 64 < 64 by omega)
  have hvalue : n / 64 * 64 + (0x80 + n % 64 - 0x80) = n := by omega
  rw [ofOctetsAfter_lead (by omega) hlead, ofOctetsAfter_last haccept (by simp), hvalue]

/-- A character of three octets reads back; the second octet keeps it apart from shorter ones and
from surrogates. -/
theorem ofOctetsAfter_three {n : Nat} (hlow : 0x800 ≤ n) (hhigh : n < 0x10000)
    (hchar : n < 0xD800 ∨ 0xDFFF < n) (octets : List Nat) :
    ofOctetsAfter none
        ((0xE0 + n / 4096) :: (0x80 + n / 64 % 64) :: (0x80 + n % 64) :: octets)
      = Char.ofNat n :: ofOctetsAfter none octets := by
  -- The first octet asks for two more, the first of which has narrower bounds for some values.
  obtain ⟨u, hlead, hvalue, hmissing, haccept⟩ : ∃ u : Unfinished,
      Unfinished.ofLead? (0xE0 + n / 4096) = some u ∧ u.value = n / 4096 ∧ u.missing = 2 ∧
        u.accepts (0x80 + n / 64 % 64) = true := by
    refine ⟨_, by rw [Unfinished.ofLead?, if_neg (by omega), if_neg (by omega),
      if_pos (by omega)], by show 0xE0 + n / 4096 - 0xE0 = n / 4096; omega, rfl, ?_⟩
    simp only [Unfinished.accepts, Bool.and_eq_true, decide_eq_true_eq]
    constructor <;> split <;> omega
  have haccept' := accepts_continuation (n / 64) 1 (show n % 64 < 64 by omega)
  have hsecond : n / 4096 * 64 + (0x80 + n / 64 % 64 - 0x80) = n / 64 := by omega
  have hthird : n / 64 * 64 + (0x80 + n % 64 - 0x80) = n := by omega
  rw [ofOctetsAfter_lead (by omega) hlead, ofOctetsAfter_next haccept (by omega), hvalue, hmissing,
    hsecond, ofOctetsAfter_last haccept' (by simp), hthird]

/-- A character of four octets reads back; the second octet keeps it apart from shorter ones and
from what lies above all characters. -/
theorem ofOctetsAfter_four {n : Nat} (hlow : 0x10000 ≤ n) (hhigh : n < 0x110000)
    (octets : List Nat) :
    ofOctetsAfter none ((0xF0 + n / 262144) :: (0x80 + n / 4096 % 64) :: (0x80 + n / 64 % 64)
        :: (0x80 + n % 64) :: octets)
      = Char.ofNat n :: ofOctetsAfter none octets := by
  obtain ⟨u, hlead, hvalue, hmissing, haccept⟩ : ∃ u : Unfinished,
      Unfinished.ofLead? (0xF0 + n / 262144) = some u ∧ u.value = n / 262144 ∧ u.missing = 3 ∧
        u.accepts (0x80 + n / 4096 % 64) = true := by
    refine ⟨_, by rw [Unfinished.ofLead?, if_neg (by omega), if_neg (by omega),
      if_neg (by omega), if_pos (by omega)], by show 0xF0 + n / 262144 - 0xF0 = n / 262144; omega,
      rfl, ?_⟩
    simp only [Unfinished.accepts, Bool.and_eq_true, decide_eq_true_eq]
    constructor <;> split <;> omega
  have haccept' := accepts_continuation (n / 4096) 2 (show n / 64 % 64 < 64 by omega)
  have haccept'' := accepts_continuation (n / 64) 1 (show n % 64 < 64 by omega)
  -- Each octet adds six bits to the value.
  have hsecond : n / 262144 * 64 + (0x80 + n / 4096 % 64 - 0x80) = n / 4096 := by omega
  have hthird : n / 4096 * 64 + (0x80 + n / 64 % 64 - 0x80) = n / 64 := by omega
  have hfourth : n / 64 * 64 + (0x80 + n % 64 - 0x80) = n := by omega
  have hlast := ofOctetsAfter_last haccept'' (by simp) octets
  rw [hfourth] at hlast
  rw [ofOctetsAfter_lead (by omega) hlead, ofOctetsAfter_next haccept (by omega), hvalue, hmissing,
    hsecond, ofOctetsAfter_next haccept' (by simp), hthird]
  exact hlast

/-- **The octets of a character read back as the character.**  Nothing behind them is touched. -/
theorem ofOctets_octetsOfChar_append (c : Char) (octets : List Nat) :
    ofOctets (octetsOfChar c ++ octets) = c :: ofOctets octets := by
  have hvalid := toNat_cases c
  have hread : ofOctetsAfter none (octetsOfChar c ++ octets)
      = Char.ofNat c.toNat :: ofOctetsAfter none octets := by
    simp only [octetsOfChar]
    split
    · next h => exact ofOctetsAfter_ascii h octets
    split
    · exact ofOctetsAfter_two (by omega) (by omega) octets
    split
    · exact ofOctetsAfter_three (by omega) (by omega) (by omega) octets
    · exact ofOctetsAfter_four (by omega) (by omega) octets
  rw [Char.ofNat_toNat] at hread
  exact hread

/-- **The octets of a text read back as the text.**  So decoding is the inverse of coding on all
texts. -/
theorem ofOctets_octetsOf (cs : List Char) : ofOctets (octetsOf cs) = cs := by
  -- One character is read back in front of the others.
  induction cs with
  | nil => rfl
  | cons c cs ih =>
    rw [octetsOf, List.flatMap_cons, ← octetsOf, ofOctets_octetsOfChar_append, ih]

/-- Octets are numbers of eight bits.  So each has two digits of base sixteen. -/
theorem lt_of_mem_octetsOfChar {c : Char} {octet : Nat} (h : octet ∈ octetsOfChar c) :
    octet < 256 := by
  have hvalid := toNat_cases c
  simp only [octetsOfChar] at h
  split at h
  · simp only [List.mem_cons, List.not_mem_nil, or_false] at h
    omega
  split at h
  · simp only [List.mem_cons, List.not_mem_nil, or_false] at h
    omega
  split at h
  · simp only [List.mem_cons, List.not_mem_nil, or_false] at h
    omega
  · simp only [List.mem_cons, List.not_mem_nil, or_false] at h
    omega

end UrlFilter.Text
