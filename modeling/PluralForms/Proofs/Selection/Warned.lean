/-
# Warnings and the count

Whether a rule can be judged does not depend on the count.  So a rule set has one list of
entries to warn about, the same for every number that has a count, and a selection goes
through this list in order.

What depends on the count is how far it gets.  It stops at a rule that holds, and does not
come to the entries behind it.
-/

import Mathlib.Data.Set.List
import PluralForms.Proofs.Judgement.Count
import PluralForms.Proofs.Selection.Decisive

namespace PluralForms

/-- A rule that cannot be judged is text. -/
theorem exists_entry_of_isUndecided {operand : Given Operand} {entry : String × Given String}
    (undecided : isUndecided operand entry = true) :
    ∃ warning : Warning, warning.entry = entry := by
  obtain ⟨category, rule⟩ := entry
  cases rule with
  | usable rule => exact ⟨⟨category, rule⟩, rfl⟩
  | foreign typeName => cases of_decide_eq_true undecided

/-- All entries that cannot be judged can be warned about. -/
theorem exists_warnings (operand : Given Operand) (entries : List (String × Given String)) :
    ∃ broken : List Warning,
      broken.map Warning.entry = entries.filter (isUndecided operand) := by
  have possible : entries.filter (isUndecided operand) ∈ Set.range (List.map Warning.entry) := by
    rw [Set.range_list_map]
    intro entry isFiltered
    exact exists_entry_of_isUndecided (List.mem_filter.1 isFiltered).2
  exact possible

section Finite

variable {first second : Operand}

/-- For any two counts the same entries cannot be judged. -/
theorem isUndecided_eq_of_finite (finite : first.count.isSome = true)
    (finite' : second.count.isSome = true) (entry : String × Given String) :
    isUndecided (.usable first) entry = isUndecided (.usable second) entry := by
  obtain ⟨category, rule⟩ := entry
  cases rule with
  | foreign typeName => rfl
  | usable rule => exact decide_eq_decide.2 (judge_indeterminate_congr rule finite finite')

end Finite

/-- A selection warns about entries that cannot be judged, from the first one on and without
leaving any out. -/
theorem map_entry_warnings_prefix (rules : RuleSet) (operand : Given Operand) :
    (rules.select operand).warnings.map Warning.entry <+:
      (asked rules.entries).filter (isUndecided operand) := by
  rw [RuleSet.select, map_entry_warnings_selectFrom]
  exact (List.takeWhile_prefix _).filter _

/-- Where no rule holds and all of them are text, a selection leaves nothing out. -/
theorem map_entry_warnings_eq (rules : RuleSet) {operand : Operand}
    (texts : ∀ entry ∈ asked rules.entries, ∃ rule, entry.2 = .usable rule)
    (nowhere : ∀ entry ∈ asked rules.entries, judge entry.2 (.usable operand) ≠ .ok .holds) :
    (rules.select (.usable operand)).warnings.map Warning.entry =
      (asked rules.entries).filter (isUndecided (.usable operand)) := by
  have passes : ∀ entry ∈ asked rules.entries,
      (!isDecisive (.usable operand) entry) = true := by
    intro entry isAsked
    rw [Bool.not_eq_true', Bool.eq_false_iff]
    intro decides
    rcases isDecisive_iff.1 decides with holds | ⟨fault, -, concerns⟩
    · exact nowhere entry isAsked holds
    · obtain ⟨rule, isText⟩ := texts entry isAsked
      rw [isText] at concerns
      cases concerns
  rw [RuleSet.select, map_entry_warnings_selectFrom, List.takeWhile_eq_self_iff.2 passes]

/-- A rule set has one list of warnings for all counts: those about the entries that cannot
be judged.  For every count a selection gives the first of them, as many as it comes to, and
all of them if no rule holds. -/
theorem warnings_in_one_list (rules : RuleSet)
    (texts : ∀ entry ∈ asked rules.entries, ∃ rule, entry.2 = .usable rule) :
    ∃ broken : List Warning,
      (∀ operand : Operand, operand.count.isSome = true →
        let given := (rules.select (.usable operand)).warnings
        broken.map Warning.entry = (asked rules.entries).filter (isUndecided (.usable operand)) ∧
          given <+: broken ∧
          ((∀ entry ∈ asked rules.entries, judge entry.2 (.usable operand) ≠ .ok .holds) →
            given = broken)) ∧
      ∀ first second : Operand, first.count.isSome = true → second.count.isSome = true →
        let given := (rules.select (.usable first)).warnings
        let givenToo := (rules.select (.usable second)).warnings
        given <+: givenToo ∨ givenToo <+: given := by
  obtain ⟨broken, isBroken⟩ := exists_warnings (.usable (.integer 0)) (asked rules.entries)
  have whole {operand : Operand} (finite : operand.count.isSome = true) :
      broken.map Warning.entry = (asked rules.entries).filter (isUndecided (.usable operand)) := by
    rw [isBroken]
    exact List.filter_congr fun entry _ => isUndecided_eq_of_finite rfl finite entry
  have begins {operand : Operand} (finite : operand.count.isSome = true) :
      (rules.select (.usable operand)).warnings <+: broken := by
    rw [← List.prefix_map_iff_of_injective Warning.entry_injective, whole finite]
    exact map_entry_warnings_prefix rules _
  refine ⟨broken, fun operand finite => ⟨whole finite, begins finite, fun nowhere => ?_⟩, ?_⟩
  · apply List.map_injective_iff.2 Warning.entry_injective
    rw [whole finite]
    exact map_entry_warnings_eq rules texts nowhere
  · intro first second finite finite'
    exact List.prefix_or_prefix_of_prefix (begins finite) (begins finite')

/-- For one the selection ends at the second rule, and for two and a half it goes on to the
end.  Neither warns about the rule for the fallback. -/
theorem warnings_behind_one :
    let rules : RuleSet := ⟨[("zero", .usable "n is"), ("one", .usable "n is 1"),
      ("other", .usable "n"), ("few", .usable "n mod 0 is 0"), ("many", .usable "n in 3..x")],
      by decide⟩
    let half : Operand := .decimal (.finite false 25 (-1))
    (∀ entry ∈ asked rules.entries, ∃ rule, entry.2 = .usable rule) ∧
      half.count.isSome = true ∧
      (rules.select (.usable (.integer 1))).warnings = [⟨"zero", "n is"⟩] ∧
      (rules.select (.usable half)).warnings =
        [⟨"zero", "n is"⟩, ⟨"few", "n mod 0 is 0"⟩, ⟨"many", "n in 3..x"⟩] ∧
      (rules.select (.usable (.integer 1))).warnings <+:
        (rules.select (.usable half)).warnings := by
  intro rules half
  have candidates : asked rules.entries = [("zero", .usable "n is"), ("one", .usable "n is 1"),
      ("few", .usable "n mod 0 is 0"), ("many", .usable "n in 3..x")] := by
    decide +kernel
  have texts : ∀ entry ∈ asked rules.entries, ∃ rule, entry.2 = .usable rule := by
    simp [candidates]
  obtain ⟨broken, given, -⟩ := warnings_in_one_list rules texts
  obtain ⟨-, begins, -⟩ := given (.integer 1) rfl
  obtain ⟨whole, -, all⟩ := given half rfl
  have complete : (rules.select (.usable half)).warnings = broken := all (by decide +kernel)
  refine ⟨texts, rfl, by decide +kernel, ?_, complete ▸ begins⟩
  apply List.map_injective_iff.2 Warning.entry_injective
  rw [complete, whole, candidates]
  decide +kernel

end PluralForms
