/-
# Blank characters

The characters that may separate the words of a rule.  The set is that of the
Unicode standard's white space together with the four information separators
U+001C to U+001F, so it is wider than the blanks, tabs and line breaks of
ASCII: a rule that was wrapped, indented or pasted with no-break spaces reads
like the same rule on one line.
-/

namespace PluralForms.Text

/-- Some range of a table of closed code point ranges contains the character. -/
def inRanges (ranges : List (Nat × Nat)) (c : Char) : Bool :=
  ranges.any fun range => range.1 ≤ c.toNat && c.toNat ≤ range.2

/-- The white space of Unicode, as closed ranges of code points in ascending
order. -/
def whiteSpaceRanges : List (Nat × Nat) :=
  [(0x09, 0x0D), (0x20, 0x20), (0x85, 0x85), (0xA0, 0xA0), (0x1680, 0x1680),
   (0x2000, 0x200A), (0x2028, 0x2029), (0x202F, 0x202F), (0x205F, 0x205F),
   (0x3000, 0x3000)]

/-- The information separators, as a closed range of code points. -/
def separatorRanges : List (Nat × Nat) :=
  [(0x1C, 0x1F)]

/-- Whether the character is white space in the sense of Unicode. -/
def isWhiteSpace (c : Char) : Bool :=
  inRanges whiteSpaceRanges c

/-- Whether the character separates words. -/
def isBlank (c : Char) : Bool :=
  isWhiteSpace c || inRanges separatorRanges c

/-- Every blank of ASCII is a blank here. -/
theorem isBlank_of_isWhitespace {c : Char} (h : c.isWhitespace = true) :
    isBlank c = true := by
  simp only [Char.isWhitespace, Bool.or_eq_true, decide_eq_true_eq] at h
  rcases h with ((h | h) | h) | h <;> subst h <;> decide

/-- No character of a rule's words is blank, so a run of blanks always ends
where the next word starts. -/
theorem isBlank_eq_false_of_isAlphanum {c : Char} (h : c.isAlphanum = true) :
    isBlank c = false := by
  have bounds : 48 ≤ c.toNat ∧ c.toNat ≤ 122 := by
    change ((decide (65 ≤ c.val ∧ c.val ≤ 90) || (97 ≤ c.val && c.val ≤ 122)) ||
      (48 ≤ c.val && c.val ≤ 57)) = true at h
    simp [UInt32.le_iff_toNat_le] at h
    have : c.toNat = c.val.toNat := rfl
    omega
  simp [isBlank, isWhiteSpace, inRanges, whiteSpaceRanges, separatorRanges]
  omega

end PluralForms.Text
