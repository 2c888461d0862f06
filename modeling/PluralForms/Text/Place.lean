/-
# A place in a text

A place is a text with an offset.  The offset may be any integer: past the end
of the text and before its start too, where the rules of signed slice bounds
say which characters are meant.  Moving forward never passes the end of the
text.

`line` and `column` say where an editor would show the place, both counted
from one.
-/

import PluralForms.Text.Slice

namespace PluralForms.Text

/-- An offset in a text. -/
structure Place where
  text : List Char
  offset : Int
  deriving DecidableEq, Repr

namespace Place

/-- The place at an offset of a text. -/
def ofString (text : String) (offset : Int) : Place :=
  ⟨text.toList, offset⟩

/-- The offset lies on the text, its end included. -/
def Inside (place : Place) : Prop :=
  0 ≤ place.offset ∧ place.offset ≤ place.text.length

/-- No character is left. -/
def atEnd (place : Place) : Bool :=
  (place.text.length : Int) ≤ place.offset

/-- The place `count` characters further on, or the end of the text if that
comes first. -/
def advance (place : Place) (count : Int) : Place :=
  { place with offset := min (place.offset + count) place.text.length }

/-- The boundary of the text that the offset denotes. -/
def boundary (place : Place) : Nat :=
  Text.boundary place.text.length place.offset

/-- The characters from here to the end of the text. -/
def ahead (place : Place) : List Char :=
  place.text.drop place.boundary

/-- The characters before this place. -/
def behind (place : Place) : List Char :=
  place.text.take place.boundary

/-- The text goes on with these characters.  Past the end nothing goes on, not
even with no characters at all. -/
def startsWith (place : Place) (piece : List Char) : Bool :=
  place.offset ≤ place.text.length && piece.isPrefixOf place.ahead

/-- The characters from here to another bound of the text. -/
def sliceTo (place : Place) (stop : Int) : List Char :=
  slice place.text place.offset stop

/-- One more than the number of line breaks behind this place. -/
def line (place : Place) : Nat :=
  place.behind.count '\n' + 1

/-- The characters behind this place on its own line. -/
def lineSoFar (place : Place) : List Char :=
  (place.behind.reverse.takeWhile (· ≠ '\n')).reverse

/-- One more than the number of characters since the last line break.  An
offset outside the text adds its distance from the boundary that it denotes. -/
def column (place : Place) : Int :=
  place.lineSoFar.length + 1 + (place.offset - place.boundary)

/-- An offset on the text denotes itself. -/
theorem boundary_eq_offset {place : Place} (h : place.Inside) :
    (place.boundary : Int) = place.offset := by
  obtain ⟨lower, upper⟩ := h
  unfold boundary Text.boundary
  split <;> omega

/-- Moving forward from a place on the text stays on the text. -/
theorem inside_advance {place : Place} (h : place.Inside) (count : Nat) :
    (place.advance count).Inside := by
  obtain ⟨lower, upper⟩ := h
  constructor <;> simp only [advance] <;> omega

/-- A place is at the end exactly when nothing is ahead of it. -/
theorem atEnd_iff_ahead_eq_nil {place : Place} (h : place.Inside) :
    place.atEnd = true ↔ place.ahead = [] := by
  have same := boundary_eq_offset h
  simp only [atEnd, ahead, decide_eq_true_eq, List.drop_eq_nil_iff]
  omega

end Place

end PluralForms.Text
