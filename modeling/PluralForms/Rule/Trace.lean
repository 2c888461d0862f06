/-
# The trace of a reading

Every construct that passed or failed gives one line, in the order in which
the attempts ended.  A construct that passed also shows what it amounts to for
the count: a number, the members of an interval, or a truth value.
-/

import PluralForms.Rule.Attempt

namespace PluralForms.Rule

/-- The name under which a construct is traced. -/
def Construct.name : Construct → String
  | count => "n"
  | remainder => "mod"
  | interval => "range"
  | equality => "is"
  | membership => "in"
  | within => "within"
  | conjunction => "and"
  | disjunction => "or"

/-- What a finding amounts to for a count. -/
def Finding.shown (n : Int) : Finding → String
  | number expression => toString (expression.value n)
  | members interval => "[" ++ ", ".intercalate (interval.members.map toString) ++ "]"
  | truth condition => if condition.holds n then "True" else "False"

/-- The line of an event, if it has one. -/
def Event.line? (n : Int) : Event → Option String
  | opened _ => none
  | closed => none
  | passed construct offset finding =>
      some s!"passed {construct.name} at {offset}: {finding.shown n}"
  | failed construct offset => some s!"failed {construct.name} at {offset}"

/-- The lines of a log. -/
def trace (n : Int) (log : List Event) : List String :=
  log.filterMap (Event.line? n)

end PluralForms.Rule
