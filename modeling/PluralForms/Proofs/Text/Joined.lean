/-
# Parts with a gap between them

What stands in a text that was made by joining parts stands in one of the parts or in the gap, no
part is longer than the whole, and the whole ends as the last part does.
-/

import Mathlib.Data.List.Basic

namespace PluralForms.Text

variable {α : Type} {gap part : List α} {parts : List (List α)}

/-- To show something of joined parts, show it of none, of one, and of one more in front. -/
@[elab_as_elim]
theorem joined_induction {motive : List (List α) → Prop} (parts : List (List α))
    (none : motive []) (single : ∀ part, motive [part])
    (more : ∀ first second others, motive (second :: others) → motive (first :: second :: others)) :
    motive parts := by
  induction parts with
  | nil => exact none
  | cons first others ih =>
      cases others with
      | nil => exact single first
      | cons second others => exact more first second others ih

theorem mem_of_mem_intercalate {a : α} (mem : a ∈ gap.intercalate parts) :
    a ∈ gap ∨ ∃ part ∈ parts, a ∈ part := by
  induction parts using joined_induction with
  | none => cases mem
  | single part =>
      rw [List.intercalate_singleton] at mem
      exact .inr ⟨part, List.mem_cons_self, mem⟩
  | more first second others ih =>
      rw [List.intercalate_cons_cons, List.mem_append, List.mem_append] at mem
      rcases mem with (inFirst | inGap) | inOthers
      · exact .inr ⟨first, List.mem_cons_self, inFirst⟩
      · exact .inl inGap
      · exact (ih inOthers).imp_right fun ⟨part, isPart, inPart⟩ => ⟨part, .tail _ isPart, inPart⟩

/-- Joined parts end as the last one does, unless it is empty. -/
theorem getLast?_intercalate (last : parts.getLast? = some part) (nonempty : part ≠ []) :
    (gap.intercalate parts).getLast? = part.getLast? := by
  induction parts using joined_induction with
  | none => cases last
  | single other =>
      obtain rfl : other = part := by simpa using last
      rw [List.intercalate_singleton]
  | more first second others ih =>
      have inside := ih (by simpa using last)
      rw [List.intercalate_cons_cons, List.getLast?_append, inside]
      cases ends : part.getLast? with
      | none => exact absurd (List.getLast?_eq_none_iff.1 ends) nonempty
      | some c => rfl

end PluralForms.Text
