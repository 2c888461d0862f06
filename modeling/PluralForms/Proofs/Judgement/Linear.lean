/-
# Reading takes linear time

A rule is read over and over again while its alternatives are tried, and conditions
nest.  Still a condition is entered once at most at any place, and the places stand ten
characters apart, so the number of entries is bounded by the length of the rule.  So is the number
of messages, because an entry leaves forty-one of them at most.

The limit on nesting has no part in this.  Without it there is exactly one way to read
conditions; it obeys the same bounds, it is never stopped, and a reading under a limit is the same
unless it is stopped.
-/

import Mathlib.Data.List.Nodup
import PluralForms.Proofs.Reader.Lines
import PluralForms.Proofs.Spelling.Counting
import PluralForms.Rule.Interpreter

namespace PluralForms

open Rule Text

namespace Rule

/-- Places that stand ten apart are few. -/
theorem length_le_of_apart {places : List Nat} {least most : Nat}
    (apart : places.Pairwise fun place later => place + 10 ≤ later)
    (inside : ∀ place ∈ places, least ≤ place ∧ place ≤ most) :
    10 * places.length ≤ most - least + 10 := by
  induction places generalizing least with
  | nil => exact Nat.zero_le _
  | cons place places ih =>
      obtain ⟨front, rest⟩ := List.pairwise_cons.1 apart
      have bounds := inside place List.mem_cons_self
      have few := ih rest fun later mem => ⟨front later mem, (inside later (.tail _ mem)).2⟩
      cases places with
      | nil => exact Nat.le_add_left _ _
      | cons later places =>
          have far := front later List.mem_cons_self
          have near := (inside later (.tail _ List.mem_cons_self)).2
          rw [List.length_cons]
          omega

/-- Where conditions are entered: wherever a level is opened and, in a reading that is stopped,
behind the last of its blocks, where no level is left. -/
inductive Entered (text : List Char) (attempt : Attempt Condition) : List Nat → Prop
  | carriedThrough (unstopped : attempt.ending ≠ .tooDeep) :
      Entered text attempt (openings attempt.log)
  | stopped {run rest : List Char} (stopped : attempt.ending = .tooDeep)
      (blocks : Blocks (openings attempt.log).length run) (isText : text = run ++ rest)
      (clear : run ≠ [] → ClearOf isBlank rest) :
      Entered text attempt (openings attempt.log ++ [run.length])

/-- Entries and lines that are bounded by the length of a text: conditions are entered at places
on the text, once at most at each and ten characters apart, and each connective leaves one line
at most at each place. -/
structure IsLinear (length : Nat) (entered : List Nat) (lines : List String) : Prop where
  once : entered.Nodup
  apart : entered.Pairwise fun place later => place + 10 ≤ later
  inside : ∀ place ∈ entered, place ≤ length
  entered_le : entered.length ≤ 1 + length / 10
  connective_once : lines.Pairwise fun line later => ∀ construct offset,
    construct.joins = true → IsLineAbout construct offset line →
      ¬ IsLineAbout construct offset later
  lines_le : lines.length ≤ 41 * (1 + length / 10)

namespace Reader

variable (countable : Bool) (levels : Nat) (text : List Char)

/-- The messages about a connective are about different places. -/
theorem pairwise_subjects_condition (head : Head) :
    (subjects (condition countable levels head).log).Pairwise fun about later =>
      about.1.joins = true → later.1.joins = true → about ≠ later := by
  apply List.pairwise_filter.1
  apply List.nodup_iff_count_le_one.2
  intro about
  have once : (openings (condition countable levels head).log).Nodup :=
    (openings_condition countable levels head).1.imp fun far => by omega
  by_cases joins : about.1.joins = true
  · apply (List.filter_sublist.count_le about).trans
    exact (count_subjects_condition_le countable levels head joins about.2).trans
      (List.nodup_iff_count_le_one.1 once about.2)
  · rw [List.count_eq_zero.2]
    · exact Nat.zero_le 1
    · exact fun mem => joins (List.mem_filter.1 mem).2

/-- Whatever a condition is read from, its lines are few, and so are places on the text that stand
ten characters apart. -/
theorem isLinear_of_apart {places : List Nat} (n : Int)
    (apart : places.Pairwise fun place later => place + 10 ≤ later)
    (inside : ∀ place ∈ places, place ≤ text.length) :
    IsLinear text.length places (trace n (condition countable levels (Head.start text)).log) := by
  obtain ⟨apartOpenings, insideOpenings⟩ := openings_condition countable levels (Head.start text)
  have fewOpenings := length_le_of_apart apartOpenings insideOpenings
  have fewPlaces := length_le_of_apart apart fun place mem =>
    ⟨Nat.zero_le place, inside place mem⟩
  have fewMessages := length_subjects_condition_le countable levels (Head.start text)
  simp only [Head.start] at fewOpenings fewMessages
  refine ⟨apart.imp fun far => by omega, apart, inside, by omega, ?_, ?_⟩
  · have atMostOnce := pairwise_subjects_condition countable levels (Head.start text)
    apply (pairwise_trace n atMostOnce).imp
    intro line later apart construct offset joins isLine isLater
    exact apart construct offset isLine construct offset isLater joins joins rfl
  · rw [length_trace]
    exact fewMessages.trans (Nat.mul_le_mul_left 41 (by omega))

/-- Wherever a condition is entered, there are few such places, whether the reading is stopped or
not. -/
theorem exists_entered (n : Int) :
    ∃ entered, Entered text (condition countable levels (Head.start text)) entered ∧
      IsLinear text.length entered
        (trace n (condition countable levels (Head.start text)).log) := by
  obtain ⟨apart, inside⟩ := openings_condition countable levels (Head.start text)
  have onText (opening : Nat)
      (mem : opening ∈ openings (condition countable levels (Head.start text)).log) :
      opening ≤ text.length := by
    have bounds := (inside opening mem).2
    simpa [Head.start] using bounds
  by_cases stopped : (condition countable levels (Head.start text)).ending = .tooDeep
  · obtain ⟨run, behind, blocks, ⟨ahead_eq, offset_eq⟩, clear, opened, far⟩ :=
      blocks_of_tooDeep countable levels (Head.start text) stopped
    rw [offset_eq] at far
    refine ⟨_, .stopped stopped (by rwa [opened]) ahead_eq clear, ?_⟩
    apply isLinear_of_apart
    · refine List.pairwise_append.2 ⟨apart, List.pairwise_singleton _ _, ?_⟩
      intro opening mem later isLast
      rw [List.mem_singleton.1 isLast]
      simpa [Head.start] using far opening mem
    · intro place mem
      rcases List.mem_append.1 mem with mem | isLast
      · exact onText place mem
      · rw [List.mem_singleton.1 isLast, show text = run ++ behind.ahead from ahead_eq,
          List.length_append]
        exact Nat.le_add_right _ _
  · exact ⟨_, .carriedThrough stopped, isLinear_of_apart countable levels text n apart onText⟩

section Unlimited

variable {countable levels}

/-- No reading is stopped that has a level for every ten characters, and one more. -/
theorem condition_ne_tooDeep {head : Head} (enough : head.ahead.length / 10 < levels) :
    (condition countable levels head).ending ≠ .tooDeep := by
  intro stopped
  obtain ⟨run, behind, blocks, passes, -⟩ := blocks_of_tooDeep countable levels head stopped
  have ten := blocks.ten_mul_le_length
  have whole := congrArg List.length passes.ahead_eq
  rw [List.length_append] at whole
  omega

variable (countable)

/-- Reads a condition without a limit on nesting, with as many levels as the text can need. -/
def unlimited : Reader Condition :=
  fun head => condition countable (head.ahead.length / 10 + 1) head

theorem unlimited_ne_tooDeep (head : Head) : (unlimited countable head).ending ≠ .tooDeep :=
  condition_ne_tooDeep (Nat.lt_succ_self _)

/-- A limit on nesting changes nothing about a reading that is not stopped. -/
theorem agrees_unlimited (levels : Nat) :
    Agrees (condition countable levels) (unlimited countable) := by
  intro head unstopped
  rcases Nat.le_total levels (head.ahead.length / 10 + 1) with fewer | more
  · exact agrees_condition countable fewer head unstopped
  · exact (agrees_condition countable more head (unlimited_ne_tooDeep countable head)).symm

/-- Without a limit a condition is read like any other, with a condition that is read without a
limit behind its connective. -/
theorem unlimited_eq : unlimited countable = level countable (unlimited countable) := by
  funext head
  have agrees := (agrees_unlimited countable (head.ahead.length / 10)).level countable
  exact (agrees head (unlimited_ne_tooDeep countable head)).symm

/-- There is no other way to read conditions without a limit. -/
theorem eq_unlimited {reader : Reader Condition} (recurs : reader = level countable reader) :
    reader = unlimited countable := by
  have agrees (levels : Nat) : Agrees (condition countable levels) reader := by
    induction levels with
    | zero => exact agrees_giveUp reader
    | succ levels ih =>
        rw [recurs]
        exact ih.level countable
  funext head
  exact agrees _ head (unlimited_ne_tooDeep countable head)

end Unlimited

end Reader

end Rule

/-- The entries and the messages of a reading are bounded by the length of the rule, whatever the
limit on nesting is.  Without a limit there is one way to read conditions, it is never
stopped, the same bounds hold, and a reading under a limit differs from it only if it is stopped;
with a level for every ten characters and one more, it is not. -/
theorem reading_linear (interpreter : Interpreter) (rule : String) :
    let countable := interpreter.operand.count.isSome
    let length := rule.toList.length
    let attempt := interpreter.attempt rule
    (∃ entered, Entered rule.toList attempt entered ∧
      IsLinear length entered (interpreter.trace (interpreter.read rule).1)) ∧
    ∃ unguarded : Reader Condition,
      (∀ reader, reader = Reader.level countable reader ↔ reader = unguarded) ∧
      let free := unguarded (Head.start rule.toList)
      free.ending ≠ .tooDeep ∧
      IsLinear length (openings free.log)
        (trace (interpreter.operand.count.getD 0) free.log) ∧
      (attempt.ending ≠ .tooDeep → free = attempt) ∧
      (length / 10 < interpreter.gate.room → attempt.ending ≠ .tooDeep) := by
  intro countable length attempt
  refine ⟨Reader.exists_entered _ _ _ _, Reader.unlimited countable, ?_, ?_, ?_, ?_, ?_⟩
  · intro reader
    constructor
    · exact Reader.eq_unlimited countable
    · rintro rfl
      exact Reader.unlimited_eq countable
  · exact Reader.unlimited_ne_tooDeep countable _
  · obtain ⟨apart, inside⟩ :=
      Reader.openings_condition countable (length / 10 + 1) (Head.start rule.toList)
    apply Reader.isLinear_of_apart countable (length / 10 + 1) rule.toList _ apart
    intro opening mem
    simpa [Head.start] using (inside opening mem).2
  · exact Reader.agrees_unlimited countable _ _
  · exact fun enough => Reader.condition_ne_tooDeep enough

example :
    openings (Reader.unlimited true (Head.start "n is 1 or n is 2".toList)).log = [0, 10] := by
  decide +kernel

end PluralForms
