/-
# Slices with signed bounds

A bound of a slice is an integer of any size.  A bound below zero counts from
the end of the text, and whatever still lies outside the text is moved to the
nearer end.  All counts are counts of code points.
-/

namespace PluralForms.Text

/-- The boundary in a text of `size` characters that a signed bound denotes. -/
def boundary (size : Nat) (bound : Int) : Nat :=
  if bound < 0 then (bound + size).toNat else min bound.toNat size

/-- A boundary never lies outside the text. -/
theorem boundary_le (size : Nat) (bound : Int) : boundary size bound ≤ size := by
  unfold boundary
  split <;> omega

/-- A bound that lies inside the text denotes itself. -/
theorem boundary_natCast {size bound : Nat} (h : bound ≤ size) :
    boundary size bound = bound := by
  unfold boundary
  split <;> omega

/-- The characters from one bound to the other; none if the bounds cross. -/
def slice (text : List Char) (start stop : Int) : List Char :=
  (text.take (boundary text.length stop)).drop (boundary text.length start)

/-- A text whole, or its first characters and three dots.  A text is cut only
if it has more than `most` characters; a negative `most` leaves out that many
characters at the end. -/
def shorten (most : Int) (text : String) : String :=
  if most < text.length then
    String.ofList (slice text.toList 0 most) ++ "..."
  else text

/-- A text within the measure is left alone. -/
theorem shorten_eq_self {most : Int} {text : String}
    (h : (text.length : Int) ≤ most) : shorten most text = text := by
  unfold shorten
  split
  · omega
  · rfl

end PluralForms.Text
