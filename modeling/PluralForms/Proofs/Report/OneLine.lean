/-
# What fits on one line

Numbers, operands, codes and all wording are shown without line feeds, so the message, the hint
and the page of every cause stay on one line, cut or not.  The rule is the only text of a report
that a caller can break into lines.
-/

import PluralForms.Operand
import PluralForms.Proofs.Number.Digits
import PluralForms.Report.Cause
import PluralForms.Report.Layout

namespace PluralForms

namespace Text

/-- No line feed stands in the text. -/
def OneLine (text : String) : Prop :=
  '\n' ∉ text.toList

instance (text : String) : Decidable (OneLine text) :=
  inferInstanceAs (Decidable (_ ∉ _))

variable {text more : String}

@[simp]
theorem oneLine_append : OneLine (text ++ more) ↔ OneLine text ∧ OneLine more := by
  simp [OneLine, not_or]

@[simp]
theorem oneLine_toString (text : String) : OneLine (toString text) ↔ OneLine text := .rfl

@[simp]
theorem oneLine_nat (n : Nat) : OneLine (toString n) :=
  fun mem => absurd (Number.isDigit_of_mem_digits mem) (by decide)

@[simp]
theorem oneLine_int (n : Int) : OneLine (toString n) := by
  cases n with
  | ofNat n => exact oneLine_nat n
  | negSucc n =>
      show OneLine ("-" ++ toString (n + 1))
      exact oneLine_append.2 ⟨by decide, oneLine_nat _⟩

/-- A text that is cut stays on its line. -/
theorem OneLine.shorten (single : OneLine text) (most : Int) : OneLine (shorten most text) := by
  unfold Text.shorten
  split
  · refine oneLine_append.2 ⟨fun mem => ?_, by decide⟩
    rw [String.toList_ofList] at mem
    exact single (List.mem_of_mem_take (List.mem_of_mem_drop mem))
  · exact single

end Text

open Text

namespace Number

theorem Decimal.oneLine_sign (negative : Bool) : OneLine (sign negative) := by
  cases negative <;> decide

/-- Placing a point among digits, or zeros around them, breaks no line. -/
theorem not_mem_mantissa {digits : List Char} (single : '\n' ∉ digits) (point : Int) :
    '\n' ∉ if point ≤ 0 then '0' :: '.' :: List.replicate (-point).toNat '0' ++ digits
      else if digits.length ≤ point then
        digits ++ List.replicate (point - digits.length).toNat '0'
      else digits.take point.toNat ++ '.' :: digits.drop point.toNat := by
  have notBefore : '\n' ∉ digits.take point.toNat := fun mem => single (List.mem_of_mem_take mem)
  have notBehind : '\n' ∉ digits.drop point.toNat := fun mem => single (List.mem_of_mem_drop mem)
  split
  · simp [single]
  · split <;> simp [single, notBefore, notBehind]

theorem oneLine_exponent (shift : Int) :
    OneLine (if shift = 0 then "" else if shift < 0 then s!"E{shift}" else s!"E+{shift}") := by
  split
  · decide
  · split
    · exact oneLine_append.2 ⟨show OneLine "E" by decide, oneLine_int shift⟩
    · exact oneLine_append.2 ⟨show OneLine "E+" by decide, oneLine_int shift⟩

theorem Decimal.oneLine_magnitudeText (coefficient : Nat) (exponent : Int) :
    OneLine (magnitudeText coefficient exponent) := by
  refine oneLine_append.2 ⟨?_, oneLine_exponent _⟩
  rw [OneLine, String.toList_ofList]
  exact not_mem_mantissa (oneLine_nat coefficient) _

theorem Decimal.oneLine_text (value : Decimal) : OneLine value.text := by
  cases value with
  | finite negative coefficient exponent =>
      exact oneLine_append.2 ⟨oneLine_sign negative, oneLine_magnitudeText _ _⟩
  | infinite negative =>
      exact oneLine_append.2 ⟨oneLine_sign negative, show OneLine "Infinity" by decide⟩
  | notANumber negative signalling payload =>
      refine oneLine_append.2 ⟨oneLine_append.2 ⟨oneLine_sign negative, ?_⟩, ?_⟩
      · cases signalling <;> decide
      · split
        · decide
        · exact oneLine_nat payload

theorem Binary64.oneLine_text (value : Binary64) : OneLine value.text := by
  cases value with
  | finite => exact Decimal.oneLine_text _
  | infinite negative => exact oneLine_append.2 ⟨Decimal.oneLine_sign negative, by decide⟩
  | notANumber => exact (show OneLine "nan" by decide)

end Number

/-- What a message shows of an operand stays on one line. -/
theorem Operand.oneLine_shown (operand : Operand) : OneLine operand.shown := by
  cases operand with
  | integer value => exact oneLine_int value
  | binary value => exact value.oneLine_text
  | decimal value =>
      exact oneLine_append.2 ⟨oneLine_append.2 ⟨by decide, value.oneLine_text⟩, by decide⟩

/-- What is shown of a text on one line stays on one line. -/
theorem Layout.oneLine_shown (layout : Layout) {text : String} (single : OneLine text) :
    OneLine (layout.shown text) := by
  unfold shown
  split
  · exact single.shorten _
  · exact single

theorem Code.oneLine_name (code : Code) : OneLine code.name := by
  cases code <;> decide

namespace Cause

/-- The message of a cause stays on one line, if it shows an operand that does. -/
theorem oneLine_message {cause : Cause}
    (shown : ∀ text, cause = .operandNotFinite text → OneLine text) : OneLine cause.message := by
  cases cause with
  | operandNotFinite text =>
      show OneLine s!"Operand {text} is not a finite number"
      simp only [oneLine_append, oneLine_toString, shown text rfl, and_true]
      decide
  | modulusZero =>
      show OneLine "Modulus must not be zero"
      decide
  | rangeTooLarge first last most =>
      show OneLine s!"Range {first}..{last} exceeds {most} members"
      simp only [oneLine_append, oneLine_toString, oneLine_int, and_true]
      decide
  | tooDeep limit =>
      show OneLine s!"Maximum condition depth ({limit}) exceeded"
      simp only [oneLine_append, oneLine_toString, oneLine_int, and_true]
      decide
  | notParsed rule span =>
      show OneLine s!"Rule could not be parsed at position {span.start}"
      simp only [oneLine_append, oneLine_toString, oneLine_nat, and_true]
      decide
  | trailingInput rule span =>
      show OneLine s!"Unexpected trailing input at position {span.start}"
      simp only [oneLine_append, oneLine_toString, oneLine_nat, and_true]
      decide

theorem oneLine_hint (cause : Cause) : OneLine cause.hint := by
  cases cause <;> simp only [hint] <;> decide +kernel

theorem hint_ne_empty (cause : Cause) : cause.hint ≠ "" := by
  cases cause <;> simp only [hint] <;> decide

theorem oneLine_helpUrl {cause : Cause} {url : String} (isUrl : cause.helpUrl = some url) :
    OneLine url ∧ url ≠ "" := by
  have rules : OneLine rulesUrl ∧ rulesUrl ≠ "" := by decide +kernel
  cases cause <;> cases isUrl <;> exact rules

end Cause

end PluralForms
