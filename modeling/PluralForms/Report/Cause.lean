/-
# Causes of reports

Everything that can be wrong with a rule or its operand, and the report that
each cause gives.  All wording is here, so that a cause reads the same
wherever it is found.
-/

import PluralForms.Report.Basic

namespace PluralForms

/-- What is wrong.  An operand is known only by what messages show of it. -/
inductive Cause
  | operandNotFinite (shown : String)
  | modulusZero
  | rangeTooLarge (first last most : Int)
  | tooDeep (limit : Int)
  | notParsed (rule : String) (span : Span)
  | trailingInput (rule : String) (span : Span)
  deriving DecidableEq, Repr

namespace Cause

/-- The page that describes how rules are written. -/
def rulesUrl : String :=
  "https://unicode.org/reports/tr35/tr35-numbers.html#Language_Plural_Rules"

/-- The code of a cause. -/
def code : Cause → Code
  | operandNotFinite _ => .operandNotFinite
  | modulusZero => .modulusZero
  | rangeTooLarge _ _ _ => .rangeTooLarge
  | tooDeep _ => .maxDepthExceeded
  | notParsed _ _ => .ruleNotParsed
  | trailingInput _ _ => .ruleTrailingInput

/-- What a person is told. -/
def message : Cause → String
  | operandNotFinite shown => s!"Operand {shown} is not a finite number"
  | modulusZero => "Modulus must not be zero"
  | rangeTooLarge first last most => s!"Range {first}..{last} exceeds {most} members"
  | tooDeep limit => s!"Maximum condition depth ({limit}) exceeded"
  | notParsed _ span => s!"Rule could not be parsed at position {span.start}"
  | trailingInput _ span => s!"Unexpected trailing input at position {span.start}"

/-- What a person might do about it. -/
def hint : Cause → String
  | operandNotFinite _ => "Plural rules only apply to finite counts"
  | modulusZero => "Use a positive divisor, e.g. 'n mod 10'"
  | rangeTooLarge _ _ _ => "Combine a 'mod' expression with a smaller range"
  | tooDeep _ => "Split the rule into fewer chained relations"
  | notParsed _ _ => "Rules start with 'n', e.g. 'n is 1' or 'n mod 10 in 2..4'"
  | trailingInput _ _ => "Remove the text after the last complete relation"

/-- The page with help.  Neither the operand nor the length of a chain is a
matter of how rules are written. -/
def helpUrl : Cause → Option String
  | operandNotFinite _ => none
  | tooDeep _ => none
  | _ => some rulesUrl

/-- The rule, if its text is what is wrong. -/
def rule : Cause → Option String
  | notParsed rule _ => some rule
  | trailingInput rule _ => some rule
  | _ => none

/-- The stretch of the rule that is meant. -/
def span : Cause → Option Span
  | notParsed _ span => some span
  | trailingInput _ span => some span
  | _ => none

/-- The severity of everything that keeps a rule from being judged. -/
def severity : String := "error"

/-- The report of a cause. -/
def report (cause : Cause) : Report :=
  { code := cause.code
    message := cause.message
    span := cause.span
    hint := some cause.hint
    helpUrl := cause.helpUrl
    rule := cause.rule
    severity := severity }

end Cause

end PluralForms
