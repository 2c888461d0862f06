/-
# The first decisive entry

A selection goes through the entries of a rule set in order, leaves out the one for
the fallback, and ends at the first whose rule holds or cannot be judged at all
because an argument is of the wrong sort.  That entry alone decides.  The entries in
front of it matter only for the warnings, and those behind it for nothing.

What a selection does on its way is written down in a course: the entries that it
warns about and the entries whose rules it has judged.
-/

import Mathlib.Data.List.Basic
import PluralForms.Proofs.Judgement.Manners
import PluralForms.Selection

namespace PluralForms

/-- The entry that a warning is about. -/
def Warning.entry (warning : Warning) : String × Given String :=
  (warning.category, .usable warning.rule)

theorem Warning.entry_injective : Function.Injective Warning.entry := by
  rintro ⟨category, rule⟩ ⟨category', rule'⟩ same
  cases same
  rfl

/-- The entries whose rules come up for judgement: all but that of the fallback. -/
def asked (entries : List (String × Given String)) : List (String × Given String) :=
  entries.filter fun entry => entry.1 ≠ Category.fallback.text

/-- The rule of the entry holds, or judging it fails. -/
def isDecisive (operand : Given Operand) (entry : String × Given String) : Bool :=
  match judge entry.2 operand with
  | .ok .holds => true
  | .ok _ => false
  | .error _ => true

/-- The rule of the entry cannot be judged. -/
def isUndecided (operand : Given Operand) (entry : String × Given String) : Bool :=
  judge entry.2 operand = .ok .indeterminate

/-- What a selection does: the category that it ends with, the entries that it warns about,
and the entries whose rules it judges. -/
structure Course where
  category : Except Failure String
  warned : List (String × Given String)
  judged : List (String × Given String)

/-- Selects among the entries that are left, and notes every judgement. -/
def course (operand : Given Operand) : List (String × Given String) → Course
  | [] => ⟨.ok Category.fallback.text, [], []⟩
  | entry :: rest =>
      if entry.1 = Category.fallback.text then course operand rest
      else match judge entry.2 operand with
        | .error failure => ⟨.error failure, [], [entry]⟩
        | .ok .holds => ⟨.ok entry.1, [], [entry]⟩
        | .ok .fails =>
            let later := course operand rest
            ⟨later.category, later.warned, entry :: later.judged⟩
        | .ok .indeterminate =>
            let later := course operand rest
            ⟨later.category, entry :: later.warned, entry :: later.judged⟩

section Course

variable (operand : Given Operand) (entries : List (String × Given String))

/-- Noting what is judged changes nothing about a selection. -/
theorem selectFrom_eq_course :
    (selectFrom operand entries).category = (course operand entries).category ∧
      (selectFrom operand entries).warnings.map Warning.entry =
        (course operand entries).warned := by
  induction entries with
  | nil => exact ⟨rfl, rfl⟩
  | cons entry rest ih =>
      obtain ⟨category, rule⟩ := entry
      unfold selectFrom course judge
      split
      · exact ih
      cases usable : usableArguments rule operand with
      | error fault => exact ⟨rfl, rfl⟩
      | ok arguments =>
          obtain ⟨text, number⟩ := arguments
          have isText : rule = .usable text := by
            cases rule <;> cases operand <;> cases usable
            rfl
          dsimp only
          cases verdict text number with
          | error failure => exact ⟨rfl, rfl⟩
          | ok found =>
              cases found with
              | holds => exact ⟨rfl, rfl⟩
              | fails => exact ih
              | indeterminate =>
                  refine ⟨ih.1, ?_⟩
                  simp [Warning.entry, isText, ih.2]

/-- A course ends at the first entry that decides.  It has judged all entries up to this
one, and warned of those among them that are undecided. -/
theorem course_eq :
    course operand entries =
      { category := match (asked entries).find? (isDecisive operand) with
          | some entry => (judge entry.2 operand).map fun _ => entry.1
          | none => .ok Category.fallback.text
        warned := ((asked entries).takeWhile (!isDecisive operand ·)).filter (isUndecided operand)
        judged := (asked entries).takeWhile (!isDecisive operand ·) ++
          ((asked entries).find? (isDecisive operand)).toList } := by
  induction entries with
  | nil => rfl
  | cons entry rest ih =>
      unfold course
      split
      · rename_i isFallback
        rw [ih, asked, asked, List.filter_cons_of_neg (by simp [isFallback])]
      · rename_i isOther
        have isAsked : asked (entry :: rest) = entry :: asked rest :=
          List.filter_cons_of_pos (decide_eq_true isOther)
        rw [isAsked]
        cases judged : judge entry.2 operand with
        | error failure =>
            have decides : isDecisive operand entry = true := by simp [isDecisive, judged]
            simp [decides, judged, Except.map]
        | ok found =>
            cases found with
            | holds =>
                have decides : isDecisive operand entry = true := by simp [isDecisive, judged]
                simp [decides, judged, Except.map]
            | fails =>
                have passes : isDecisive operand entry = false := by simp [isDecisive, judged]
                have decided : isUndecided operand entry = false := by simp [isUndecided, judged]
                simp [passes, decided, ih]
            | indeterminate =>
                have passes : isDecisive operand entry = false := by simp [isDecisive, judged]
                have undecided : isUndecided operand entry = true := by simp [isUndecided, judged]
                simp [passes, undecided, ih]

/-- The first entry that decides gives the category. -/
theorem category_selectFrom :
    (selectFrom operand entries).category =
      match (asked entries).find? (isDecisive operand) with
      | some entry => (judge entry.2 operand).map fun _ => entry.1
      | none => .ok Category.fallback.text := by
  rw [(selectFrom_eq_course operand entries).1, course_eq]

/-- The warnings are about the undecided entries in front of it. -/
theorem map_entry_warnings_selectFrom :
    (selectFrom operand entries).warnings.map Warning.entry =
      ((asked entries).takeWhile (!isDecisive operand ·)).filter (isUndecided operand) := by
  rw [(selectFrom_eq_course operand entries).2, course_eq]

end Course

/-- An entry decides by holding or by an argument of the wrong sort; nothing else makes
judging fail. -/
theorem isDecisive_iff {operand : Given Operand} {entry : String × Given String} :
    isDecisive operand entry = true ↔ judge entry.2 operand = .ok .holds ∨
      ∃ fault, judge entry.2 operand = .error (.argument fault) ∧
        fault.Concerns entry.2 operand := by
  rcases judge_and_insist_cases entry.2 operand with ⟨fault, concerns, judged, -⟩ |
    ⟨-, ⟨truth, judged, -⟩ | ⟨cause, judged, -⟩⟩
  · simp [isDecisive, judged, concerns]
  · cases truth <;> simp [isDecisive, judged, Verdict.ofOption]
  · simp [isDecisive, judged]

section Decisive

variable {operand : Given Operand} {entries others : List (String × Given String)}

/-- A selection is determined by the first entry that decides and the entries in front of it. -/
theorem selectFrom_congr
    (sameFirst : (asked entries).find? (isDecisive operand) =
      (asked others).find? (isDecisive operand))
    (sameBefore : (asked entries).takeWhile (!isDecisive operand ·) =
      (asked others).takeWhile (!isDecisive operand ·)) :
    selectFrom operand entries = selectFrom operand others := by
  have sameCategory : (selectFrom operand entries).category =
      (selectFrom operand others).category := by
    rw [category_selectFrom, category_selectFrom, sameFirst]
  have sameWarnings : (selectFrom operand entries).warnings =
      (selectFrom operand others).warnings := by
    apply List.map_injective_iff.2 Warning.entry_injective
    rw [map_entry_warnings_selectFrom, map_entry_warnings_selectFrom, sameBefore]
  cases isSelected : selectFrom operand entries
  cases isSelectedToo : selectFrom operand others
  rw [isSelected, isSelectedToo] at sameCategory sameWarnings
  exact congrArg₂ Selection.mk sameCategory sameWarnings

/-- What comes behind the first entry that decides is of no matter to it, nor to the entries
in front of it. -/
theorem find?_and_takeWhile_of_prefix {α : Type} {p : α → Bool} {list other : List α} {first : α}
    (found : list.find? p = some first) (begins : list.takeWhile (!p ·) ++ [first] <+: other) :
    other.find? p = some first ∧ other.takeWhile (!p ·) = list.takeWhile (!p ·) := by
  obtain ⟨rest, rfl⟩ := begins
  have decides : p first = true := List.find?_some found
  have passes (entry : α) (inFront : entry ∈ list.takeWhile (!p ·)) : (!p entry) = true :=
    List.mem_takeWhile_imp (p := (!p ·)) inFront
  have none : (list.takeWhile (!p ·)).find? p = none := by
    rw [List.find?_eq_none]
    intro entry inFront
    simpa using passes entry inFront
  rw [List.append_assoc]
  constructor
  · rw [List.find?_append, none]
    simp [decides]
  · rw [List.takeWhile_append_of_pos passes]
    simp [decides]

/-- If no entry can be judged, a selection goes through all of them, warns about each and ends
with the fallback. -/
theorem selectFrom_of_indeterminate
    (indeterminate : ∀ entry ∈ asked entries, judge entry.2 operand = .ok .indeterminate) :
    (selectFrom operand entries).category = .ok Category.fallback.text ∧
      (selectFrom operand entries).warnings.map Warning.entry = asked entries := by
  have passes : ∀ entry ∈ asked entries, isDecisive operand entry = false := by
    intro entry isAsked
    simp [isDecisive, indeterminate entry isAsked]
  have none : (asked entries).find? (isDecisive operand) = none :=
    List.find?_eq_none.2 fun entry isAsked => by simp [passes entry isAsked]
  have all : (asked entries).takeWhile (!isDecisive operand ·) = asked entries :=
    List.takeWhile_eq_self_iff.2 fun entry isAsked => by simp [passes entry isAsked]
  have undecided : (asked entries).filter (isUndecided operand) = asked entries :=
    List.filter_eq_self.2 fun entry isAsked => decide_eq_true (indeterminate entry isAsked)
  rw [category_selectFrom, map_entry_warnings_selectFrom, none, all, undecided]
  exact ⟨rfl, rfl⟩

end Decisive

/-- The first entry whose rule holds or fails to be judged decides which category is selected.
Those in front of it are judged, and warned about if they are undecided; all others, and the
one for the fallback, are never judged and might as well be different.  Entries that do not
decide can be added, left out or moved without another category being selected. -/
theorem select_first_decisive (rules : RuleSet) (operand : Given Operand) :
    let candidates := asked rules.entries
    let before := candidates.takeWhile (!isDecisive operand ·)
    let first := candidates.find? (isDecisive operand)
    let selection := rules.select operand
    let noted := course operand rules.entries
    (∀ entry, first = some entry →
      judge entry.2 operand = .ok .holds ∧ selection.category = .ok entry.1 ∨
      ∃ fault, judge entry.2 operand = .error (.argument fault) ∧
        fault.Concerns entry.2 operand ∧ selection.category = .error (.argument fault)) ∧
    (first = none → selection.category = .ok Category.fallback.text) ∧
    selection.warnings.map Warning.entry = before.filter (isUndecided operand) ∧
    (noted.category = selection.category ∧
      noted.warned = selection.warnings.map Warning.entry ∧
      noted.judged = before ++ first.toList) ∧
    (∀ other : RuleSet, asked other.entries = candidates ∨
        first.isSome ∧ before ++ first.toList <+: asked other.entries →
      other.select operand = selection) ∧
    ∀ other : RuleSet,
      (asked other.entries).filter (isDecisive operand) = candidates.filter (isDecisive operand) →
      (other.select operand).category = selection.category := by
  intro candidates before first selection noted
  have category : selection.category = match first with
      | some entry => (judge entry.2 operand).map fun _ => entry.1
      | none => .ok Category.fallback.text :=
    category_selectFrom operand rules.entries
  obtain ⟨notedCategory, notedWarned⟩ := selectFrom_eq_course operand rules.entries
  refine ⟨?_, ?_, map_entry_warnings_selectFrom operand rules.entries,
    ⟨notedCategory.symm, notedWarned.symm, ?_⟩, ?_, ?_⟩
  · intro entry found
    rw [found] at category
    rcases isDecisive_iff.1 (List.find?_some found) with holds | ⟨fault, failed, concerns⟩
    · exact .inl ⟨holds, by simpa [holds, Except.map] using category⟩
    · exact .inr ⟨fault, failed, concerns, by simpa [failed, Except.map] using category⟩
  · intro nothing
    rw [category, nothing]
  · exact congrArg Course.judged (course_eq operand rules.entries)
  · rintro other (same | ⟨decided, begins⟩)
    · apply selectFrom_congr <;> rw [same]
    · obtain ⟨entry, found⟩ := Option.isSome_iff_exists.1 decided
      rw [found] at begins
      obtain ⟨sameFirst, sameBefore⟩ := find?_and_takeWhile_of_prefix found begins
      exact selectFrom_congr (sameFirst.trans found.symm) sameBefore
  · intro other sameDecisive
    have sameFirst : (asked other.entries).find? (isDecisive operand) = first := by
      rw [← List.head?_filter, sameDecisive, List.head?_filter]
    rw [category, ← sameFirst]
    exact category_selectFrom operand other.entries

/-- A rule that is not text stops a selection only if no earlier rule holds, and a rule for the
fallback does not count as one. -/
theorem select_in_front_of_foreign :
    let rules : RuleSet := ⟨[("zero", .usable "n is 0"), ("one", .usable "n is"),
      ("other", .usable "n is 5"), ("few", .usable "n is 5"), ("many", .foreign "int")], by decide⟩
    let moved : RuleSet := ⟨[("few", .usable "n is 5"), ("many", .foreign "int"),
      ("zero", .usable "n is 0")], by decide⟩
    (rules.select (.usable (.integer 5))).category = .ok "few" ∧
      (rules.select (.usable (.integer 5))).warnings = [⟨"one", "n is"⟩] ∧
      (moved.select (.usable (.integer 5))).category = .ok "few" ∧
      (rules.select (.usable (.integer 6))).category =
        .error (.argument (.ruleNotText "int")) := by
  intro rules moved
  obtain ⟨deciding, -, warned, -, -, sameDecisive⟩ :=
    select_first_decisive rules (.usable (.integer 5))
  have holds : (rules.select (.usable (.integer 5))).category = .ok "few" := by
    rcases deciding ("few", .usable "n is 5") (by decide +kernel) with
      ⟨-, selected⟩ | ⟨fault, failed, -⟩
    · exact selected
    · cases failed.symm.trans (by decide +kernel : _ = .ok .holds)
  refine ⟨holds, ?_, (sameDecisive moved (by decide +kernel)).trans holds, ?_⟩
  · apply List.map_injective_iff.2 Warning.entry_injective
    exact warned.trans (by decide +kernel)
  · obtain ⟨deciding, -⟩ := select_first_decisive rules (.usable (.integer 6))
    rcases deciding ("many", .foreign "int") (by decide +kernel) with
      ⟨holds, -⟩ | ⟨fault, failed, -, selected⟩
    · cases holds
    · cases failed
      exact selected

end PluralForms
