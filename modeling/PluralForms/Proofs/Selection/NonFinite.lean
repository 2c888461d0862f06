/-
# Numbers without a count

The infinities and the values that are not numbers have no count, whichever arithmetic
they come from and whatever sign or payload they carry.  For such an operand not even the
letter that stands for the count is accepted, so no relation is read, nothing behind one is
looked at, and no level of nesting is opened but the first.

All that is left to tell is whether the rule starts with this letter.  If it does, the
operand is to blame, and otherwise the rule.  Either way it cannot be judged, and a
selection ends with the fallback.
-/

import PluralForms.Proofs.Judgement.Manners
import PluralForms.Proofs.Selection.Decisive
import PluralForms.Proofs.Spelling.GivingUp

namespace PluralForms

open Rule Text

/-- The infinities, and the values that are not numbers. -/
inductive Operand.IsNonFinite : Operand → Prop
  | binaryInfinity (negative : Bool) : IsNonFinite (.binary (.infinite negative))
  | binaryNotANumber : IsNonFinite (.binary .notANumber)
  | decimalInfinity (negative : Bool) : IsNonFinite (.decimal (.infinite negative))
  | decimalNotANumber (negative signalling : Bool) (payload : Nat) :
      IsNonFinite (.decimal (.notANumber negative signalling payload))

/-- These and no other operands have no count. -/
theorem Operand.count_eq_none_iff {operand : Operand} :
    operand.count = none ↔ operand.IsNonFinite := by
  constructor
  · intro uncounted
    cases operand with
    | integer value => cases uncounted
    | binary value =>
        cases value with
        | finite => cases uncounted
        | infinite negative => exact .binaryInfinity negative
        | notANumber => exact .binaryNotANumber
    | decimal value =>
        cases value with
        | finite => cases uncounted
        | infinite negative => exact .decimalInfinity negative
        | notANumber negative signalling payload => exact .decimalNotANumber _ _ _
  · rintro ⟨⟩ <;> rfl

namespace Rule

variable {text : List Char} {fault : Fault}

/-- Without a count, the letter that stands for it is the only fault. -/
theorem faultyStart_uncountable_iff :
    FaultyStart false text fault ↔ fault = .noCount ∧ ['n'] <+: text := by
  constructor
  · rintro ⟨rest⟩
    exact ⟨rfl, rest, rfl⟩
  · rintro ⟨rfl, rest, rfl⟩
    exact .noCount rest

/-- Without a count a reading accepts nothing, and its first letter tells what it leaves. -/
theorem Reader.refuses_condition_uncountable (levels : Nat) (text : List Char) :
    Refuses (condition false (levels + 1)) text
      (if ['n'] <+: text then some .noCount else none) := by
  obtain ⟨latest, refused⟩ := refuses_of_uncountable text
  have isLatest : latest = if ['n'] <+: text then some .noCount else none := by
    split
    · rename_i begins
      exact refused.fault_iff.2 (faultyStart_uncountable_iff.2 ⟨rfl, begins⟩)
    · rename_i beginsOtherwise
      rw [Option.eq_none_iff_forall_ne_some]
      intro fault left
      have faulty := refused.fault_iff.1 left
      exact beginsOtherwise (faultyStart_uncountable_iff.1 faulty).2
  exact isLatest ▸ refuses_condition refused levels

end Rule

/-- The span of all of a rule. -/
def Span.whole (rule : String) : Span :=
  ⟨0, rule.toList.length, 1, 1, Nat.zero_le _, Nat.le_refl 1, Nat.le_refl 1⟩

theorem spanFrom_start (rule : String) : spanFrom (Place.ofString rule 0) = .ok (.whole rule) := by
  have offset : (Place.ofString rule 0).offset = 0 := rfl
  have boundary : (Place.ofString rule 0).boundary = 0 := boundary_natCast (Nat.zero_le _)
  have line : (Place.ofString rule 0).line = 1 := by
    simp [Place.line, Place.behind, boundary]
  have column : (Place.ofString rule 0).column = 1 := by
    simp [Place.column, Place.lineSoFar, Place.behind, boundary, offset]
  rw [spanFrom, line, column]
  exact Span.check_natCast (Nat.zero_le _) (Nat.le_refl 1) (Nat.le_refl 1)

section NonFinite

variable {operand : Operand} (nonFinite : operand.IsNonFinite)

include nonFinite

/-- A new interpreter with a level to open reads nothing. -/
theorem Interpreter.read_of_nonFinite {budget : FrameBudget} {requested : Int}
    (granted : 0 < budget.grant requested) (rule : String) :
    let after := (new budget operand requested).read rule
    after.1.reply = .unread ∧
      after.2.cause? =
        if ['n'] <+: rule.toList then some (.operandNotFinite operand.shown) else none := by
  intro after
  have uncounted : operand.count = none := Operand.count_eq_none_iff.2 nonFinite
  obtain ⟨levels, isRoom⟩ : ∃ levels, (budget.grant requested).toNat = levels + 1 :=
    Nat.exists_eq_add_one_of_ne_zero (by omega)
  have attempt : (new budget operand requested).attempt rule =
      Reader.condition false (levels + 1) (Head.start rule.toList) := by
    rw [Interpreter.attempt, room_new, isRoom,
      show (new budget operand requested).operand.count = none from uncounted, Option.isSome_none]
  have refused := Reader.refuses_condition_uncountable levels rule.toList
  constructor
  · show (new budget operand requested).reply rule _ = _
    rw [attempt, Head.start, refused.ending 0]
    unfold Interpreter.reply
    split <;> simp_all
  · show Option.map _ ((new budget operand requested).read rule).2.fault = _
    rw [fault_read_new, attempt, Head.start, refused.fault 0]
    split <;> rfl

/-- What is said of a rule depends on its first letter alone. -/
theorem assess_of_nonFinite (rule : String) :
    assess rule operand = .ok (.indefinite
      (if ['n'] <+: rule.toList then .operandNotFinite operand.shown
        else .notParsed rule (.whole rule))) := by
  have granted : 0 < FrameBudget.standard.grant Gate.standardLimit := by decide
  obtain ⟨reply, known⟩ := Interpreter.read_of_nonFinite nonFinite granted rule
  rw [assess_eq, reply, known]
  split
  · rfl
  · simp [assessReading, spanFrom_start, Except.map]

end NonFinite

/-- For an operand without a count no rule can be judged.  The operand is reported if the rule
starts with the letter for the count, and the whole rule is reported otherwise; there are no
other reports.  A selection warns about every rule that is not the one for the fallback, and
then selects the fallback. -/
theorem nothing_judged_of_nonFinite {operand : Operand} (nonFinite : operand.IsNonFinite) :
    (∀ rule : String, judge (.usable rule) (.usable operand) = .ok .indeterminate ∧
      ∃ alarm report, insist (.usable rule) (.usable operand) = .error (.alarm alarm) ∧
        alarm.Reports report ∧
        (alarm.kind = .notEvaluated ∧ report.code = .operandNotFinite ∧
            report = (Cause.operandNotFinite operand.shown).report ↔
          ['n'] <+: rule.toList) ∧
        (alarm.kind = .badText ∧ report.code = .ruleNotParsed ∧
            report = (Cause.notParsed rule (.whole rule)).report ↔
          ¬ ['n'] <+: rule.toList)) ∧
    ∀ rules : RuleSet, (∀ entry ∈ asked rules.entries, ∃ rule, entry.2 = .usable rule) →
      (rules.select (.usable operand)).category = .ok Category.fallback.text ∧
        (rules.select (.usable operand)).warnings.map Warning.entry = asked rules.entries := by
  have judged (rule : String) : judge (.usable rule) (.usable operand) = .ok .indeterminate := by
    rw [judge_indeterminate_iff, assess_of_nonFinite nonFinite]
    exact fun truth => nofun
  refine ⟨fun rule => ⟨judged rule, ?_⟩, ?_⟩
  · obtain ⟨assessment, assessed, -, insisted⟩ := exists_judge_and_insist rule operand
    obtain rfl := Except.ok.inj (assessed.symm.trans (assess_of_nonFinite nonFinite rule))
    refine ⟨_, _, insisted, Alarm.reports_ofCause _, ?_⟩
    by_cases begins : ['n'] <+: rule.toList
    · rw [if_pos begins]
      exact ⟨iff_of_true ⟨rfl, rfl, rfl⟩ begins, iff_of_false nofun (not_not_intro begins)⟩
    · rw [if_neg begins]
      exact ⟨iff_of_false nofun begins, iff_of_true ⟨rfl, rfl, rfl⟩ begins⟩
  · intro rules texts
    apply selectFrom_of_indeterminate
    intro entry isAsked
    obtain ⟨rule, isText⟩ := texts entry isAsked
    rw [isText]
    exact judged rule

/-- A divisor of zero is never seen if there is nothing to divide. -/
theorem alarm_of_signalling_operand :
    let operand := Operand.decimal (.notANumber true true 123)
    let rules : RuleSet := ⟨[("one", .usable "n mod 0 is 0"), ("other", .foreign "int"),
      ("few", .usable "")], by decide⟩
    operand.IsNonFinite ∧
      (∃ alarm report, insist (.usable "n mod 0 is 0") (.usable operand) = .error (.alarm alarm) ∧
        alarm.Reports report ∧ alarm.kind = .notEvaluated ∧
        report.message = "Operand Decimal('-sNaN123') is not a finite number") ∧
      (∃ alarm report, insist (.usable " n is 1") (.usable operand) = .error (.alarm alarm) ∧
        alarm.Reports report ∧ alarm.kind = .badText ∧
        report.span = some ⟨0, 7, 1, 1, by decide, by decide, by decide⟩) ∧
      (rules.select (.usable operand)).category = .ok "other" ∧
        (rules.select (.usable operand)).warnings = [⟨"one", "n mod 0 is 0"⟩, ⟨"few", ""⟩] := by
  intro operand rules
  have nonFinite : operand.IsNonFinite := .decimalNotANumber true true 123
  obtain ⟨ruleWise, selectWise⟩ := nothing_judged_of_nonFinite nonFinite
  refine ⟨nonFinite, ?_, ?_, ?_⟩
  · obtain ⟨-, alarm, report, raised, reports, blamed, -⟩ := ruleWise "n mod 0 is 0"
    obtain ⟨kind, -, rfl⟩ := blamed.2 (by decide)
    exact ⟨alarm, _, raised, reports, kind, by decide +kernel⟩
  · obtain ⟨-, alarm, report, raised, reports, -, unread⟩ := ruleWise " n is 1"
    obtain ⟨kind, -, rfl⟩ := unread.2 (by decide)
    exact ⟨alarm, _, raised, reports, kind, rfl⟩
  · have candidates : asked rules.entries =
        [("one", .usable "n mod 0 is 0"), ("few", .usable "")] := by decide +kernel
    have texts : ∀ entry ∈ asked rules.entries, ∃ rule, entry.2 = .usable rule := by
      simp [candidates]
    obtain ⟨selected, warned⟩ := selectWise rules texts
    refine ⟨selected, List.map_injective_iff.2 Warning.entry_injective ?_⟩
    exact warned

end PluralForms
