/-
# Quoted text

A text is quoted when a message names it.  The quotation mark is the
apostrophe, unless the text holds an apostrophe and no double quote: then the
double quote saves an escape.  The mark, the backslash, the common line
controls and every unprintable character are escaped; a character is named by
its code point in the shortest of three widths that holds it.
-/

import PluralForms.Text.Hex
import PluralForms.Text.Unprintable

namespace PluralForms.Text

/-- The mark around a quoted text. -/
def quotationMark (text : List Char) : Char :=
  if text.contains '\'' && !text.contains '"' then '"' else '\''

/-- The escape that names a character by its code point. -/
def codePointEscape (c : Char) : List Char :=
  if c.toNat ≤ 0xFF then '\\' :: 'x' :: hex 2 c.toNat
  else if c.toNat ≤ 0xFFFF then '\\' :: 'u' :: hex 4 c.toNat
  else '\\' :: 'U' :: hex 8 c.toNat

/-- What a quoted text shows for one character. -/
def quotedChar (edition : Edition) (mark c : Char) : List Char :=
  if c == mark || c == '\\' then ['\\', c]
  else if c == '\t' then ['\\', 't']
  else if c == '\n' then ['\\', 'n']
  else if c == '\r' then ['\\', 'r']
  else if isPrintable edition c then [c]
  else codePointEscape c

/-- The text between quotation marks, fit for a one-line message. -/
def quoted (text : String) (edition : Edition := .fifteenOne) : String :=
  let mark := quotationMark text.toList
  String.ofList ([mark] ++ text.toList.flatMap (quotedChar edition mark) ++ [mark])

end PluralForms.Text
