/-
# Decimal digits of all scripts

Unicode 15.1 has sixty-eight sets of decimal digits.  Each set is ten code points
in a row, from its zero to its nine, so the code points of the zeros say
everything about them.
-/

namespace PluralForms.Text

/-- The code points of the zeros, in ascending order. -/
def digitZeros : List Nat :=
  [0x30, 0x660, 0x6F0, 0x7C0, 0x966, 0x9E6, 0xA66, 0xAE6, 0xB66, 0xBE6, 0xC66, 0xCE6,
   0xD66, 0xDE6, 0xE50, 0xED0, 0xF20, 0x1040, 0x1090, 0x17E0, 0x1810, 0x1946, 0x19D0,
   0x1A80, 0x1A90, 0x1B50, 0x1BB0, 0x1C40, 0x1C50, 0xA620, 0xA8D0, 0xA900, 0xA9D0,
   0xA9F0, 0xAA50, 0xABF0, 0xFF10, 0x104A0, 0x10D30, 0x11066, 0x110F0, 0x11136, 0x111D0,
   0x112F0, 0x11450, 0x114D0, 0x11650, 0x116C0, 0x11730, 0x118E0, 0x11950, 0x11C50,
   0x11D50, 0x11DA0, 0x11F50, 0x16A60, 0x16AC0, 0x16B50, 0x1D7CE, 0x1D7D8, 0x1D7E2,
   0x1D7EC, 0x1D7F6, 0x1E140, 0x1E2F0, 0x1E4F0, 0x1E950, 0x1FBF0]

/-- No two sets share a digit. -/
example : digitZeros.length = 68 ∧ digitZeros.Pairwise fun first next => first + 10 ≤ next := by
  decide +kernel

/-- The value of a decimal digit of any script. -/
def digitValue? (c : Char) : Option Nat :=
  (digitZeros.find? fun first => first ≤ c.toNat && c.toNat ≤ first + 9).map (c.toNat - ·)

/-- A digit is worth less than ten. -/
theorem digitValue?_lt {c : Char} {value : Nat} (h : digitValue? c = some value) :
    value < 10 := by
  obtain ⟨first, found, rfl⟩ := Option.map_eq_some_iff.1 h
  have bounds := List.find?_some found
  simp only [Bool.and_eq_true, decide_eq_true_eq] at bounds
  omega

end PluralForms.Text
