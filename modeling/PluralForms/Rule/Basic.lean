/-
# Rules and what they mean

A condition is a chain of relations about one count.  The connectives of a
chain share one rank and group to the right: what stands after a connective is
joined first.  The meaning of a condition depends on the count alone, so
reading a rule and judging it are separate steps.
-/

namespace PluralForms.Rule

/-- A number made from the count: the count itself, or what remains of it
after division. -/
inductive Expression
  | count
  | remainder (divisor : Nat)
  deriving DecidableEq, Repr

/-- The whole numbers from a first to a last one, none if the last comes
before the first. -/
structure Interval where
  first : Nat
  last : Nat
  deriving DecidableEq, Repr

/-- A statement about one expression.  Equality and membership may be denied;
lying within an interval may not. -/
inductive Relation
  | equality (subject : Expression) (denied : Bool) (value : Nat)
  | membership (subject : Expression) (denied : Bool) (interval : Interval)
  | within (subject : Expression) (interval : Interval)
  deriving DecidableEq, Repr

/-- How a relation is joined to the condition after it. -/
inductive Connective
  | both
  | either
  deriving DecidableEq, Repr

/-- A relation, or a relation joined to a further condition. -/
inductive Condition
  | relation (only : Relation)
  | joined (first : Relation) (connective : Connective) (rest : Condition)
  deriving DecidableEq, Repr

/-- The value for a count.  A remainder has the sign of the count. -/
def Expression.value (n : Int) : Expression → Int
  | count => n
  | remainder divisor => n.tmod divisor

namespace Interval

/-- An interval with more numbers than this is refused. -/
def mostMembers : Nat := 100000

/-- How many numbers the interval has. -/
def size (interval : Interval) : Nat :=
  interval.last + 1 - interval.first

/-- The numbers of the interval in ascending order. -/
def members (interval : Interval) : List Nat :=
  List.range' interval.first interval.size

/-- Whether an integer lies in the interval. -/
def contains (interval : Interval) (x : Int) : Bool :=
  interval.first ≤ x && x ≤ interval.last

/-- An interval has as many members as its size says. -/
theorem length_members (interval : Interval) :
    interval.members.length = interval.size := by
  simp [members]

/-- The members are the numbers between the bounds. -/
theorem mem_members {interval : Interval} {x : Nat} :
    x ∈ interval.members ↔ interval.first ≤ x ∧ x ≤ interval.last := by
  simp only [members, size, List.mem_range'_1]
  omega

/-- Lying in the interval is being one of its members. -/
theorem contains_natCast (interval : Interval) (x : Nat) :
    interval.contains x = decide (x ∈ interval.members) := by
  rw [Bool.eq_iff_iff]
  simp [contains, mem_members]

end Interval

/-- Whether the relation is true of a count. -/
def Relation.holds (n : Int) : Relation → Bool
  | equality subject denied value => (subject.value n == (value : Int)) != denied
  | membership subject denied interval => interval.contains (subject.value n) != denied
  | within subject interval => interval.contains (subject.value n)

/-- What the connective makes of two truth values. -/
def Connective.join : Connective → Bool → Bool → Bool
  | both, first, rest => first && rest
  | either, first, rest => first || rest

namespace Condition

/-- Whether the condition is true of a count. -/
def holds (n : Int) : Condition → Bool
  | relation only => only.holds n
  | joined first connective rest => connective.join (first.holds n) (rest.holds n)

/-- The relations of the chain, in order. -/
def relations : Condition → List Relation
  | relation only => [only]
  | joined first _ rest => first :: rest.relations

end Condition

end PluralForms.Rule
