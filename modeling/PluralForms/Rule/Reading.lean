/-
# Reading a condition

The readings of a construct are tried in a fixed order and the first that is
accepted counts: a conjunction before a disjunction before a single relation,
equality before membership before lying within, a remainder before the bare
count.  Reading starts at the first character and may stop before the last.

Whether an operand has a count is all that reading needs to know of it.  A
word for the count is refused if there is none.
-/

import PluralForms.Rule.Token

namespace PluralForms.Rule.Reader

/-- Reads the word for the count. -/
def count (countable : Bool) : Reader Expression :=
  logged .count .number do
    word .count
    if countable then accept .count else reject .noCount

/-- Reads the remainder of a division.  The divisor must not be zero. -/
def remainder (countable : Bool) : Reader Expression :=
  logged .remainder .number do
    let _ ← count countable
    blanks
    word .modulo
    blanks
    let divisor ← numeral
    if divisor = 0 then reject .zeroDivisor else accept (.remainder divisor)

/-- Reads an expression. -/
def expression (countable : Bool) : Reader Expression :=
  remainder countable <|> count countable

/-- Reads the two bounds of an interval, which must not have too many members. -/
def interval : Reader Interval :=
  logged .interval .members do
    let first ← numeral
    word .upTo
    let last ← numeral
    let bounds : Interval := ⟨first, last⟩
    if Interval.mostMembers < bounds.size then reject (.oversized bounds) else accept bounds

/-- Reads the word that denies a relation, if it is there. -/
def denial : Reader Bool :=
  (do blanks; word .denial; accept true) <|> accept false

/-- What is found when a single relation is recognised. -/
def relationFinding (only : Relation) : Finding :=
  .truth (.relation only)

/-- Reads an equality. -/
def equality (countable : Bool) : Reader Relation :=
  logged .equality relationFinding do
    let subject ← expression countable
    blanks
    word .equals
    let denied ← denial
    blanks
    let value ← numeral
    accept (.equality subject denied value)

/-- Reads a membership. -/
def membership (countable : Bool) : Reader Relation :=
  logged .membership relationFinding do
    let subject ← expression countable
    let denied ← denial
    blanks
    word .member
    blanks
    let bounds ← interval
    accept (.membership subject denied bounds)

/-- Reads that an expression lies within an interval. -/
def within (countable : Bool) : Reader Relation :=
  logged .within relationFinding do
    let subject ← expression countable
    blanks
    word .within
    blanks
    let bounds ← interval
    accept (.within subject bounds)

/-- Reads a single relation. -/
def relation (countable : Bool) : Reader Relation :=
  equality countable <|> membership countable <|> within countable

/-- The word for a connective. -/
def connectiveWord : Connective → Word
  | .both => .both
  | .either => .either

/-- The construct that a connective makes. -/
def connectiveConstruct : Connective → Construct
  | .both => .conjunction
  | .either => .disjunction

/-- Reads a relation, a connective, and what the connective joins to it. -/
def joined (countable : Bool) (connective : Connective) (rest : Reader Condition) :
    Reader Condition :=
  logged (connectiveConstruct connective) .truth do
    let first ← relation countable
    blanks
    word (connectiveWord connective)
    blanks
    let joinedTo ← rest
    accept (.joined first connective joinedTo)

/-- Reads a condition with room for so many levels of nesting. -/
def condition (countable : Bool) : Nat → Reader Condition
  | 0 => giveUp
  | levels + 1 =>
      let rest : Reader Condition := fun head => condition countable levels head
      nested <|
        joined countable .both rest <|>
        joined countable .either rest <|>
        (do let only ← relation countable; accept (.relation only))

end PluralForms.Rule.Reader
