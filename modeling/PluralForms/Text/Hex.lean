/-
# Hexadecimal numerals of a fixed width

Escapes in quoted text name a character by its code point, written with a
fixed number of lower-case hexadecimal digits.
-/

namespace PluralForms.Text

/-- The hexadecimal digit of a number below sixteen. -/
def hexDigit (digit : Nat) : Char :=
  if digit < 10 then Char.ofNat (48 + digit) else Char.ofNat (87 + digit)

/-- The last `width` hexadecimal digits of a number, the highest first. -/
def hex : Nat → Nat → List Char
  | 0, _ => []
  | width + 1, number => hex width (number / 16) ++ [hexDigit (number % 16)]

/-- Hexadecimal digits lie at or after the digit zero. -/
theorem le_hexDigit {digit : Nat} (h : digit < 16) : 48 ≤ (hexDigit digit).toNat := by
  have all : ∀ d < 16, 48 ≤ (hexDigit d).toNat := by decide
  exact all digit h

/-- A numeral consists of hexadecimal digits, none of them a control. -/
theorem le_of_mem_hex {width number : Nat} {c : Char} (h : c ∈ hex width number) :
    48 ≤ c.toNat := by
  induction width generalizing number with
  | zero => simp [hex] at h
  | succ width ih =>
    rcases List.mem_append.1 h with h | h
    · exact ih h
    · rw [List.mem_singleton.1 h]
      exact le_hexDigit (Nat.mod_lt _ (by decide))

end PluralForms.Text
