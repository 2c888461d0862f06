/-
# Patterns

A pattern is a short unit of character classes, repeated greedily between a
least and a most number of times.  A pattern looks at nothing before the place
where it is tried, and at nothing after what it takes.
-/

import PluralForms.Text.Blank
import PluralForms.Text.Place

namespace PluralForms.Recognizer

open Text

/-- A class of characters. -/
inductive CharClass
  | digit
  | lower
  | blank
  | notLineBreak
  | only (c : Char)
  deriving DecidableEq, Repr

/-- Whether a character belongs to a class. -/
def CharClass.has : CharClass → Char → Bool
  | digit, c => c.isDigit
  | lower, c => c.isLower
  | blank, c => isBlank c
  | notLineBreak, c => c != '\n'
  | only expected, c => c == expected

/-- A unit of classes, and how often it may be repeated. -/
structure Pattern where
  unit : List CharClass
  least : Nat
  most : Option Nat
  deriving DecidableEq, Repr

namespace Pattern

/-- What is left of a text after one unit. -/
def dropUnit : List CharClass → List Char → Option (List Char)
  | [], text => some text
  | _ :: _, [] => none
  | first :: rest, c :: text => if first.has c then dropUnit rest text else none

/-- How many units, up to a number, the text starts with. -/
def countUnits (unit : List CharClass) : Nat → List Char → Nat
  | 0, _ => 0
  | most + 1, text =>
      match dropUnit unit text with
      | some rest => countUnits unit most rest + 1
      | none => 0

/-- How many characters the pattern takes from the start of a text, if it
accepts the text at all.  No text has more units than characters. -/
def extent (pattern : Pattern) (text : List Char) : Option Nat :=
  let units := countUnits pattern.unit (pattern.most.getD text.length) text
  if pattern.least ≤ units then some (units * pattern.unit.length) else none

/-- The patterns that have a spelling.  Of two alternatives the first that fits
is taken, so `a|ab` never takes more than one letter. -/
def catalogue : List (String × Pattern) :=
  [("[0-9]+", ⟨[.digit], 1, none⟩),
   ("[0-9]*", ⟨[.digit], 0, none⟩),
   ("[0-9]", ⟨[.digit], 1, some 1⟩),
   ("\\s+", ⟨[.blank], 1, none⟩),
   ("\\s*", ⟨[.blank], 0, none⟩),
   ("[a-z]+", ⟨[.lower], 1, none⟩),
   ("[0-9]\x7b1,64\x7d", ⟨[.digit], 1, some 64⟩),
   ("[0-9]\x7b2,3\x7d", ⟨[.digit], 2, some 3⟩),
   ("a|ab", ⟨[.only 'a'], 1, some 1⟩),
   ("(?:ab)+", ⟨[.only 'a', .only 'b'], 1, none⟩),
   ("", ⟨[], 0, some 0⟩),
   (".", ⟨[.notLineBreak], 1, some 1⟩),
   (".+", ⟨[.notLineBreak], 1, none⟩),
   ("n?", ⟨[.only 'n'], 0, some 1⟩)]

/-- The pattern with a spelling. -/
def ofSpelling? (spelling : String) : Option Pattern :=
  catalogue.lookup spelling

end Pattern

end PluralForms.Recognizer
