/-
# Layouts of reports

A report is laid out as a block of lines for a terminal, as a single line, or
as a JSON object.  Long texts may be cut; whether an optional part is shown
depends on the uncut text, so cutting never makes a part appear or vanish.
-/

import PluralForms.Naming
import PluralForms.Report.Basic
import PluralForms.Text.Json
import PluralForms.Text.Slice

namespace PluralForms

open Text

/-- The overall form of a report. -/
inductive Style
  | block
  | line
  | json
  deriving DecidableEq, Repr

namespace Style

/-- The name by which a style is asked for. -/
def name : Style → String
  | block => "rust"
  | line => "simple"
  | json => "json"

/-- The style with a name. -/
def ofName (name : String) : Except UnknownName Style :=
  findNamed "OutputFormat" Style.name [block, line, json] name

end Style

/-- How reports are laid out: their style, how much of a text is shown at most,
and whether a terminal's colours are used. -/
structure Layout where
  style : Style
  most : Option Int
  coloured : Bool
  deriving DecidableEq, Repr

namespace Layout

/-- An uncoloured block of uncut lines. -/
def plain : Layout := ⟨.block, none, false⟩

/-- How much of a text is shown when texts are cut and nothing else is said. -/
def standardMost : Int := 100

/-- What is shown of a text. -/
def shown (layout : Layout) (text : String) : String :=
  match layout.most with
  | some most => shorten most text
  | none => text

/-- An optional text, unless it is empty. -/
def nonempty (text : Option String) : Option String :=
  text.filter (· ≠ "")

/-- The severity that a block shows: all that is no warning is an error. -/
def severityWord (severity : String) : String :=
  if severity = "warning" then "warning" else "error"

/-- The colour of a severity word, as a terminal's parameters. -/
def colour (word : String) : String :=
  if word = "error" then "1;31" else "1;33"

/-- The severity word, with the terminal's control texts around it if colours
are used. -/
def severityShown (layout : Layout) (severity : String) : String :=
  let word := severityWord severity
  if layout.coloured then s!"\x1b[{colour word}m{word}\x1b[0m" else word

/-- The lines of a block. -/
def blockLines (layout : Layout) (report : Report) : List String :=
  [s!"{layout.severityShown report.severity}[{report.code.name}]: {report.message}"] ++
  (report.span.map fun span => s!"  --> column {span.column}").toList ++
  (report.rule.map fun rule => s!"  = rule: {layout.shown rule}").toList ++
  ((nonempty report.hint).map fun hint => s!"  = help: {layout.shown hint}").toList ++
  ((nonempty report.helpUrl).map fun url => s!"  = note: see {url}").toList

/-- The entries of a JSON object. -/
def jsonEntries (layout : Layout) (report : Report) : List (String × Json.Scalar) :=
  [("code", .text report.code.name),
   ("code_value", .number report.code.number),
   ("message", .text (layout.shown report.message)),
   ("severity", .text report.severity)] ++
  (match report.span with
   | some span =>
      [("line", .number span.line), ("column", .number span.column),
       ("start", .number span.start), ("end", .number span.stop)]
   | none => []) ++
  (report.rule.map fun rule => ("rule", .text (layout.shown rule))).toList ++
  ((nonempty report.hint).map fun hint => ("hint", .text (layout.shown hint))).toList ++
  ((nonempty report.helpUrl).map fun url => ("help_url", .text url)).toList

/-- The text of a report. -/
def render (layout : Layout) (report : Report) : String :=
  match layout.style with
  | .block => "\n".intercalate (layout.blockLines report)
  | .line => s!"{report.code.name}: {layout.shown report.message}"
  | .json => Json.object (layout.jsonEntries report)

/-- The texts of several reports, with a blank line between two of them. -/
def renderAll (layout : Layout) (reports : List Report) : String :=
  "\n\n".intercalate (reports.map layout.render)

end Layout

/-- The text of a report when nothing is said about its layout. -/
def Report.render (report : Report) : String :=
  Layout.plain.render report

end PluralForms
