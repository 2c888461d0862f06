/-
# Reports

A report says what is wrong with a rule or an operand: a code that programs
can test, a message for people, and whatever else is known, such as the
stretch of the rule that is meant, a hint and a page with help.
-/

namespace PluralForms

/-- What is reported.  Codes of the two thousands concern the judgement of a
rule, those of the three thousands its text. -/
inductive Code
  | operandNotFinite
  | modulusZero
  | rangeTooLarge
  | maxDepthExceeded
  | ruleNotParsed
  | ruleTrailingInput
  deriving DecidableEq, Repr

namespace Code

/-- All codes, in ascending order of their numbers. -/
def all : List Code :=
  [operandNotFinite, modulusZero, rangeTooLarge, maxDepthExceeded, ruleNotParsed,
   ruleTrailingInput]

/-- The number of a code. -/
def number : Code → Nat
  | operandNotFinite => 2001
  | modulusZero => 2002
  | rangeTooLarge => 2003
  | maxDepthExceeded => 2010
  | ruleNotParsed => 3001
  | ruleTrailingInput => 3002

/-- The name of a code. -/
def name : Code → String
  | operandNotFinite => "OPERAND_NOT_FINITE"
  | modulusZero => "MODULUS_ZERO"
  | rangeTooLarge => "RANGE_TOO_LARGE"
  | maxDepthExceeded => "MAX_DEPTH_EXCEEDED"
  | ruleNotParsed => "RULE_NOT_PARSED"
  | ruleTrailingInput => "RULE_TRAILING_INPUT"

/-- The code with a name. -/
def ofName? (name : String) : Option Code :=
  all.find? (·.name == name)

/-- The code says that the text of a rule is not accepted. -/
def concernsText (code : Code) : Bool :=
  3000 ≤ code.number

end Code

/-- A stretch of a rule, in code points, with the line and column at which an
editor shows its start. -/
structure Span where
  start : Nat
  stop : Nat
  line : Nat
  column : Nat
  start_le_stop : start ≤ stop
  line_pos : 1 ≤ line
  column_pos : 1 ≤ column
  deriving DecidableEq, Repr

/-- Why four integers are no span. -/
inductive SpanFault
  | negativeStart (start : Int)
  | stopBeforeStart (stop start : Int)
  | lineBelowOne (line : Int)
  | columnBelowOne (column : Int)
  deriving DecidableEq, Repr

/-- The wording of a span fault. -/
def SpanFault.message : SpanFault → String
  | negativeStart start => s!"SourceSpan.start must be >= 0, got {start}"
  | stopBeforeStart stop start => s!"SourceSpan.end ({stop}) must be >= start ({start})"
  | lineBelowOne line => s!"SourceSpan.line must be >= 1 (1-indexed), got {line}"
  | columnBelowOne column => s!"SourceSpan.column must be >= 1 (1-indexed), got {column}"

/-- The span of four integers, or the first reason why they are none. -/
def Span.check (start stop line column : Int) : Except SpanFault Span :=
  if hStart : start < 0 then .error (.negativeStart start)
  else if hStop : stop < start then .error (.stopBeforeStart stop start)
  else if hLine : line < 1 then .error (.lineBelowOne line)
  else if hColumn : column < 1 then .error (.columnBelowOne column)
  else .ok
    { start := start.toNat, stop := stop.toNat, line := line.toNat, column := column.toNat
      start_le_stop := by omega
      line_pos := by omega
      column_pos := by omega }

/-- Integers in the right order are a span, and keep their values. -/
theorem Span.check_natCast {start stop line column : Nat} (hStop : start ≤ stop)
    (hLine : 1 ≤ line) (hColumn : 1 ≤ column) :
    Span.check start stop line column =
      .ok ⟨start, stop, line, column, hStop, hLine, hColumn⟩ := by
  unfold Span.check
  repeat' split
  all_goals first | omega | rfl

/-- What is wrong, and what is known about it. -/
structure Report where
  code : Code
  message : String
  span : Option Span
  hint : Option String
  helpUrl : Option String
  rule : Option String
  severity : String
  deriving DecidableEq, Repr

end PluralForms
