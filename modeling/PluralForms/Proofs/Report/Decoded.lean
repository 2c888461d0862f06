/-
# Reports as JSON

A report that is laid out as JSON is one line, and a decoder finds in it what the report says: its
code by name and by number, the message and the severity, then the place, the rule, the hint and
the page with help, each of them as far as the report has it.  Texts may have been cut, but whether
an entry is there depends on the report alone.
-/

import PluralForms.Proofs.Report.Decoding
import PluralForms.Report.Layout

namespace PluralForms

open Text

namespace Layout

variable (layout : Layout) (report : Report)

/-- What there is to be found in a report under each name.  An empty rule is there, but an empty
hint and an empty page are not. -/
def fields : List (String × Option Json.Value) :=
  let text (value : String) : Json.Value := .text value
  let number (value : Nat) : Json.Value := .number (.finite false value 0)
  [("code", some (text report.code.name)),
   ("code_value", some (number report.code.number)),
   ("message", some (text (layout.shown report.message))),
   ("severity", some (text report.severity)),
   ("line", report.span.map fun span => number span.line),
   ("column", report.span.map fun span => number span.column),
   ("start", report.span.map fun span => number span.start),
   ("end", report.span.map fun span => number span.stop),
   ("rule", report.rule.map fun rule => text (layout.shown rule)),
   ("hint", (report.hint.filter (· ≠ "")).map fun hint => text (layout.shown hint)),
   ("help_url", (report.helpUrl.filter (· ≠ "")).map fun url => text url)]

/-- The names under which there is something, each with what it is. -/
def present {α : Type} (fields : List (String × Option α)) : List (String × α) :=
  fields.filterMap fun field => field.2.map fun value => (field.1, value)

end Layout

namespace Text.Json

/-- No control character stands in what is written of a value. -/
theorem space_le_of_mem_literal {text : String} {c : Char} (mem : c ∈ literal text) :
    0x20 ≤ c.toNat := by
  simp only [literal, List.mem_append, List.mem_singleton, List.mem_flatMap] at mem
  rcases mem with (rfl | ⟨inside, -, isShown⟩) | rfl
  · decide
  · exact space_le_of_mem_escaped isShown
  · decide

theorem space_le_of_mem_written {scalar : Scalar} {c : Char} (mem : c ∈ scalar.written) :
    0x20 ≤ c.toNat := by
  cases scalar with
  | text value => exact space_le_of_mem_literal mem
  | number value =>
      have digit := Number.le_of_isDigit (Number.isDigit_of_mem_digits mem)
      omega

/-- No control character stands in what is written of an object. -/
theorem space_le_of_mem_object {entries : List (String × Scalar)} {c : Char}
    (mem : c ∈ (object entries).toList) : 0x20 ≤ c.toNat := by
  simp only [object, String.toList_ofList, List.mem_append, List.mem_singleton] at mem
  rcases mem with (rfl | inside) | rfl
  · decide
  · rcases mem_of_mem_intercalate inside with inGap | ⟨part, isPart, inPart⟩
    · rcases List.mem_pair.1 inGap with rfl | rfl <;> decide
    · obtain ⟨e, -, rfl⟩ := List.mem_map.1 isPart
      simp only [entry, List.mem_append] at inPart
      rcases inPart with (inName | inColon) | inValue
      · exact space_le_of_mem_literal inName
      · rcases List.mem_pair.1 inColon with rfl | rfl <;> decide
      · exact space_le_of_mem_written inValue
  · decide

end Text.Json

end PluralForms
