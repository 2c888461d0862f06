/-
# Selecting a category

A rule set gives categories their rules, in an order.  The first category
whose rule holds is selected, and the fallback if there is none.  A rule for
the fallback is never judged.  Rules that cannot be judged do not apply, but
each one met on the way is warned about.
-/

import PluralForms.Category
import PluralForms.Judgement

namespace PluralForms

/-- Categories and their rules.  No category has two rules. -/
structure RuleSet where
  entries : List (String × Given String)
  distinct : (entries.map Prod.fst).Nodup

namespace RuleSet

/-- The categories, in order. -/
def categories (rules : RuleSet) : List String :=
  rules.entries.map Prod.fst

/-- The rule set without rules. -/
def empty : RuleSet := ⟨[], List.nodup_nil⟩

/-- The entries with one more rule.  A category that has a rule already keeps
its place and gets the new rule. -/
def put (category : String) (rule : Given String) :
    List (String × Given String) → List (String × Given String)
  | [] => [(category, rule)]
  | entry :: rest =>
      if entry.1 = category then (category, rule) :: rest
      else entry :: put category rule rest

/-- The categories after one more rule: the same ones in the same places, with
the new one at the end if it had no rule. -/
theorem map_fst_put (category : String) (rule : Given String)
    (entries : List (String × Given String)) :
    (put category rule entries).map Prod.fst =
      if category ∈ entries.map Prod.fst then entries.map Prod.fst
      else entries.map Prod.fst ++ [category] := by
  induction entries with
  | nil => rfl
  | cons entry rest ih =>
    by_cases same : entry.1 = category
    · simp [put, same]
    · simp only [put, same, if_false, List.map_cons, ih, List.mem_cons, Ne.symm same, false_or]
      split <;> simp

/-- Gives a category a rule. -/
def insert (rules : RuleSet) (category : String) (rule : Given String) : RuleSet :=
  { entries := put category rule rules.entries
    distinct := by
      rw [map_fst_put]
      split
      · exact rules.distinct
      · rename_i fresh
        rw [List.nodup_append]
        refine ⟨rules.distinct, by simp, ?_⟩
        intro a ha b hb
        rw [List.mem_singleton.1 hb]
        rintro rfl
        exact fresh ha }

/-- The rule set of a list of categories with rules, given one by one. -/
def ofList (pairs : List (String × Given String)) : RuleSet :=
  pairs.foldl (fun rules pair => rules.insert pair.1 pair.2) empty

end RuleSet

/-- A rule that could not be judged, with its category. -/
structure Warning where
  category : String
  rule : String
  deriving DecidableEq, Repr

/-- The category that was selected, or why none could be, and the warnings
given on the way. -/
structure Selection where
  category : Except Failure String
  warnings : List Warning

/-- Selects among the entries that are left. -/
def selectFrom (operand : Given Operand) : List (String × Given String) → Selection
  | [] => ⟨.ok Category.fallback.text, []⟩
  | (category, rule) :: rest =>
      if category = Category.fallback.text then selectFrom operand rest
      else match usableArguments rule operand with
        | .error fault => ⟨.error (.argument fault), []⟩
        | .ok (rule, number) =>
            match verdict rule number with
            | .error failure => ⟨.error failure, []⟩
            | .ok .holds => ⟨.ok category, []⟩
            | .ok .fails => selectFrom operand rest
            | .ok .indeterminate =>
                let later := selectFrom operand rest
                ⟨later.category, ⟨category, rule⟩ :: later.warnings⟩

/-- Selects the category of an operand. -/
def RuleSet.select (rules : RuleSet) (operand : Given Operand) : Selection :=
  selectFrom operand rules.entries

end PluralForms
