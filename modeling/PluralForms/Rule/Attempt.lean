/-
# Attempts to read

A reader tries to recognise a construct where the reading head stands.  The
attempt ends in one of three ways: the construct is accepted and the head has
moved, the text is refused and the caller still has its own head, or the rule
is nested too deeply and reading stops altogether.  Whatever the ending, the
attempt also leaves a log of what was tried and the latest fault in a construct
that was spelled correctly; neither is taken back when another reading of the
same text is tried.
-/

import PluralForms.Rule.Basic

namespace PluralForms.Rule

/-- The reading head: how many characters lie behind it, and which are ahead. -/
structure Head where
  offset : Nat
  ahead : List Char
  deriving DecidableEq, Repr

namespace Head

/-- The head before the first character of a text. -/
def start (text : List Char) : Head := ⟨0, text⟩

/-- The head after the next `count` characters. -/
def move (head : Head) (count : Nat) : Head :=
  ⟨head.offset + count, head.ahead.drop count⟩

end Head

/-- The constructs of a rule whose recognition is logged. -/
inductive Construct
  | count
  | remainder
  | interval
  | equality
  | membership
  | within
  | conjunction
  | disjunction
  deriving DecidableEq, Repr

/-- What a construct was recognised as. -/
inductive Finding
  | number (expression : Expression)
  | members (interval : Interval)
  | truth (condition : Condition)
  deriving DecidableEq, Repr

/-- One entry of the log: a level of nesting was opened at an offset or closed
again, or a construct that was tried at an offset passed or failed. -/
inductive Event
  | opened (offset : Nat)
  | closed
  | passed (construct : Construct) (offset : Nat) (finding : Finding)
  | failed (construct : Construct) (offset : Nat)
  deriving DecidableEq, Repr

/-- Why a correctly spelled construct is refused. -/
inductive Fault
  | noCount
  | zeroDivisor
  | oversized (interval : Interval)
  deriving DecidableEq, Repr

/-- How an attempt ends. -/
inductive Ending (α : Type)
  | accepted (value : α) (head : Head)
  | refused
  | tooDeep
  deriving DecidableEq, Repr

/-- An attempt: what it logged, the latest fault, and its ending. -/
structure Attempt (α : Type) where
  log : List Event
  fault : Option Fault
  ending : Ending α
  deriving DecidableEq, Repr

/-- The attempt after `earlier` log entries and faults.  A fault of its own
takes the place of an earlier one. -/
def Attempt.after {α β : Type} (earlier : Attempt β) (attempt : Attempt α) : Attempt α :=
  ⟨earlier.log ++ attempt.log, attempt.fault.or earlier.fault, attempt.ending⟩

/-- A way to recognise a construct. -/
def Reader (α : Type) : Type := Head → Attempt α

namespace Reader

variable {α β : Type}

/-- Accepts without moving. -/
def accept (value : α) : Reader α :=
  fun head => ⟨[], none, .accepted value head⟩

/-- Refuses the text. -/
def refuse : Reader α :=
  fun _ => ⟨[], none, .refused⟩

/-- Refuses a construct that was spelled correctly. -/
def reject (fault : Fault) : Reader α :=
  fun _ => ⟨[], some fault, .refused⟩

/-- Stops reading. -/
def giveUp : Reader α :=
  fun _ => ⟨[], none, .tooDeep⟩

/-- Reads on where the first reader left off. -/
def andThen (first : Reader α) (next : α → Reader β) : Reader β :=
  fun head =>
    let earlier := first head
    match earlier.ending with
    | .accepted value moved => earlier.after (next value moved)
    | .refused => earlier.after (refuse head)
    | .tooDeep => earlier.after (giveUp head)

instance : Monad Reader where
  pure := accept
  bind := andThen

/-- Tries another reading of the same text if the first one refuses it. -/
def orElse (first : Reader α) (second : Unit → Reader α) : Reader α :=
  fun head =>
    let earlier := first head
    match earlier.ending with
    | .accepted _ _ => earlier
    | .refused => earlier.after (second () head)
    | .tooDeep => earlier

instance : OrElse (Reader α) where
  orElse := orElse

/-- Logs whether the construct passed or failed where it was tried.  Nothing
is logged when reading stops. -/
def logged (construct : Construct) (finding : α → Finding) (reader : Reader α) : Reader α :=
  fun head =>
    let attempt := reader head
    match attempt.ending with
    | .accepted value _ =>
        { attempt with
          log := attempt.log ++ [.passed construct head.offset (finding value)] }
    | .refused => { attempt with log := attempt.log ++ [.failed construct head.offset] }
    | .tooDeep => attempt

/-- Reads inside one more level of nesting.  The level is closed whatever the
ending. -/
def nested (reader : Reader α) : Reader α :=
  fun head =>
    let attempt := reader head
    { attempt with log := .opened head.offset :: attempt.log ++ [.closed] }

end Reader

end PluralForms.Rule
