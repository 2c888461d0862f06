/-
# Writing JSON on one line

Strings keep every character of U+0020 and above except the quotation mark and
the backslash; controls below U+0020 are escaped, so that the text never
breaks the line.  The entries of an object stay in the order in which they are
given, a colon and a space after each name and a comma and a space between two
entries.
-/

import PluralForms.Text.Hex

namespace PluralForms.Text.Json

/-- What a string literal shows for one character. -/
def escaped (c : Char) : List Char :=
  if c == '"' then ['\\', '"']
  else if c == '\\' then ['\\', '\\']
  else if c == '\n' then ['\\', 'n']
  else if c == '\r' then ['\\', 'r']
  else if c == '\t' then ['\\', 't']
  else if c == '\x08' then ['\\', 'b']
  else if c == '\x0c' then ['\\', 'f']
  else if c.toNat < 0x20 then '\\' :: 'u' :: hex 4 c.toNat
  else [c]

/-- The characters of a string literal, its two quotation marks included. -/
def literal (text : String) : List Char :=
  ['"'] ++ text.toList.flatMap escaped ++ ['"']

/-- The values that an entry of an object may have. -/
inductive Scalar
  | text (value : String)
  | number (value : Nat)
  deriving DecidableEq, Repr

/-- The characters of a value. -/
def Scalar.written : Scalar → List Char
  | .text value => literal value
  | .number value => (toString value).toList

/-- The characters of one entry. -/
def entry (name : String) (value : Scalar) : List Char :=
  literal name ++ [':', ' '] ++ value.written

/-- The characters of an object with these entries, in this order. -/
def object (entries : List (String × Scalar)) : String :=
  String.ofList
    (['\x7b'] ++ [',', ' '].intercalate (entries.map fun e => entry e.1 e.2) ++ ['\x7d'])

/-- A literal shows no control character, so it stays on one line. -/
theorem space_le_of_mem_escaped {c shown : Char} (h : shown ∈ escaped c) :
    0x20 ≤ shown.toNat := by
  have pair : ∀ a b : Char, 0x20 ≤ a.toNat → 0x20 ≤ b.toNat → shown ∈ [a, b] →
      0x20 ≤ shown.toNat := by
    intro a b ha hb hmem
    rcases List.mem_cons.1 hmem with rfl | hmem
    · exact ha
    · rw [List.mem_singleton.1 hmem]
      exact hb
  unfold escaped at h
  split at h
  · exact pair _ _ (by decide) (by decide) h
  split at h
  · exact pair _ _ (by decide) (by decide) h
  split at h
  · exact pair _ _ (by decide) (by decide) h
  split at h
  · exact pair _ _ (by decide) (by decide) h
  split at h
  · exact pair _ _ (by decide) (by decide) h
  split at h
  · exact pair _ _ (by decide) (by decide) h
  split at h
  · exact pair _ _ (by decide) (by decide) h
  split at h
  · rcases List.mem_cons.1 h with rfl | h
    · decide
    rcases List.mem_cons.1 h with rfl | h
    · decide
    · exact Nat.le_trans (by decide) (le_of_mem_hex h)
  · rw [List.mem_singleton.1 h]
    omega

end PluralForms.Text.Json
