/-
# Reading one rule after another

Reading a rule changes an interpreter in two places, its gate and its latest fault.
The gate comes back as it was: every level that a reading opens is closed again,
whether the text was accepted or refused or the reading stopped far down.  The fault
stays until a later rule shows another one, but no reading ever looks at it.

So an interpreter answers the next rule as a new one would, whatever it has read
before, and the fault that it keeps is that of the last rule that has one.
-/

import PluralForms.Proofs.Judgement.Assessment
import PluralForms.Proofs.Reader.Plain

namespace PluralForms

open Rule

namespace Gate

/-- A gate with room for one more level lets it in, and then has room for one less. -/
theorem exists_enter?_of_room {gate : Gate} {levels : Nat} (room : gate.room = levels + 1) :
    ∃ entered, gate.enter? = some entered ∧ entered.room = levels := by
  have notFull : ¬ gate.isFull = true := by
    rw [isFull_iff_room_eq_zero]
    omega
  refine ⟨{ gate with depth := gate.depth + 1 }, if_neg notFull, ?_⟩
  simp only [Gate.room] at room ⊢
  omega

end Gate

namespace Rule.Reader

variable {α β : Type} {gate : Gate} {reader first second : Reader α} {next : α → Reader β}

/-- Whatever the text is, the levels that the reader opens and closes leave the gate as
it was. -/
def Restores (reader : Reader α) (gate : Gate) : Prop :=
  ∀ head, (reader head).log.foldl Gate.after gate = gate

theorem Restores.bind (restores : first.Restores gate)
    (restoresNext : ∀ value, (next value).Restores gate) : (first >>= next).Restores gate := by
  intro head
  cases found : (first head).ending with
  | accepted value between =>
      rw [bind_of_accepted found, Attempt.after, List.foldl_append, restores head]
      exact restoresNext value between
  | refused =>
      rw [bind_of_refused found, Attempt.after, List.foldl_append, restores head]
      rfl
  | tooDeep =>
      rw [bind_of_tooDeep found, Attempt.after, List.foldl_append, restores head]
      rfl

theorem Restores.orElse (restores : first.Restores gate) (restoresToo : second.Restores gate) :
    (first <|> second).Restores gate := by
  intro head
  cases found : (first head).ending with
  | accepted value between =>
      rw [orElse_of_accepted found]
      exact restores head
  | refused =>
      rw [orElse_of_refused found, Attempt.after, List.foldl_append, restores head]
      exact restoresToo head
  | tooDeep =>
      rw [orElse_of_tooDeep found]
      exact restores head

/-- What a construct was recognised as is no matter of levels. -/
theorem Restores.logged (restores : reader.Restores gate) (construct : Construct)
    (finding : α → Finding) : (logged construct finding reader).Restores gate := by
  intro head
  unfold Reader.logged
  dsimp only
  split
  · rw [List.foldl_append, restores head]
    rfl
  · rw [List.foldl_append, restores head]
    rfl
  · exact restores head

/-- A level is closed behind a reader that leaves the gate as it was when the level had been
opened. -/
theorem Restores.nested {entered : Gate} (enters : gate.enter? = some entered)
    (restores : reader.Restores entered) : (nested reader).Restores gate := by
  intro head
  have opened : gate.after (.opened head.offset) = entered := by
    rw [Gate.after, enters, Option.getD_some]
  show List.foldl Gate.after (gate.after (.opened head.offset))
    ((reader head).log ++ [.closed]) = gate
  rw [opened, List.foldl_append, restores head]
  exact Gate.leave_of_enter? enters

/-- A reader that nests nothing does nothing to a gate. -/
theorem Plain.restores (plain : Plain reader) (gate : Gate) : reader.Restores gate := by
  induction plain with
  | accept value => exact fun _ => rfl
  | reject fault => exact fun _ => rfl
  | word expected =>
      intro head
      rw [word_eq]
      split <;> rfl
  | blanks =>
      intro head
      rw [blanks_eq]
      split <;> rfl
  | numeral =>
      intro head
      rw [numeral_eq]
      split <;> rfl
  | bind _ _ ih ihNext => exact ih.bind ihNext
  | orElse _ _ ih ihToo => exact ih.orElse ihToo
  | logged _ construct finding ih => exact ih.logged construct finding

theorem restores_joined {countable : Bool} {connective : Connective} {rest : Reader Condition}
    (restores : rest.Restores gate) : (joined countable connective rest).Restores gate := by
  apply Restores.logged
  apply ((plain_relation countable).restores gate).bind
  intro first
  apply (Plain.blanks.restores gate).bind
  intro _
  apply ((Plain.word _).restores gate).bind
  intro _
  apply (Plain.blanks.restores gate).bind
  intro _
  exact restores.bind fun _ _ => rfl

/-- A condition that is read with all the room that a gate has leaves the gate as it was. -/
theorem restores_condition (countable : Bool) {levels : Nat} (room : gate.room = levels) :
    (condition countable levels).Restores gate := by
  induction levels generalizing gate with
  | zero => exact fun _ => rfl
  | succ levels ih =>
      obtain ⟨entered, enters, roomInside⟩ := Gate.exists_enter?_of_room room
      have inside : (condition countable levels).Restores entered := ih roomInside
      apply Restores.nested enters
      apply (restores_joined inside).orElse
      apply (restores_joined inside).orElse
      exact ((plain_relation countable).restores entered).bind fun _ _ => rfl

end Rule.Reader

namespace Interpreter

/-- Reading a rule leaves the gate as it was. -/
theorem gate_read (interpreter : Interpreter) (rule : String) :
    (interpreter.read rule).2.gate = interpreter.gate :=
  Reader.restores_condition interpreter.operand.count.isSome rfl (Head.start rule.toList)

/-- The interpreter after it has read some rules, one after another. -/
def readAll (interpreter : Interpreter) (rules : List String) : Interpreter :=
  rules.foldl (fun current rule => (current.read rule).2) interpreter

section Reuse

variable (interpreter : Interpreter) (rules : List String) (rule : String)

theorem gate_readAll : (interpreter.readAll rules).gate = interpreter.gate := by
  induction rules generalizing interpreter with
  | nil => rfl
  | cons rule rest ih => exact (ih _).trans (interpreter.gate_read rule)

theorem operand_readAll : (interpreter.readAll rules).operand = interpreter.operand := by
  induction rules generalizing interpreter with
  | nil => rfl
  | cons rule rest ih => exact ih _

/-- What an interpreter makes of a rule depends on its operand and its gate alone. -/
theorem attempt_congr {interpreter other : Interpreter}
    (sameOperand : interpreter.operand = other.operand) (sameGate : interpreter.gate = other.gate)
    (rule : String) :
    interpreter.attempt rule = other.attempt rule ∧
      (interpreter.read rule).1 = (other.read rule).1 := by
  cases interpreter
  cases other
  subst sameOperand sameGate
  exact ⟨rfl, rfl⟩

/-- The fault that is kept is that of the last rule that has one, or an older one if none
has. -/
theorem fault_readAll :
    (interpreter.readAll rules).fault =
      (rules.filterMap fun rule => (interpreter.attempt rule).fault).getLast?.or
        interpreter.fault := by
  induction rules generalizing interpreter with
  | nil => rfl
  | cons rule rest ih =>
      have sameOperand : (interpreter.read rule).2.operand = interpreter.operand := rfl
      have sameAttempt (other : String) :
          (interpreter.read rule).2.attempt other = interpreter.attempt other :=
        (attempt_congr sameOperand (interpreter.gate_read rule) other).1
      have later := ih (interpreter.read rule).2
      simp only [sameAttempt] at later
      show ((interpreter.read rule).2.readAll rest).fault = _
      rw [later, show (interpreter.read rule).2.fault =
        (interpreter.attempt rule).fault.or interpreter.fault from rfl, List.filterMap_cons]
      cases (interpreter.attempt rule).fault with
      | none => rfl
      | some fault =>
          rw [List.getLast?_cons]
          cases (rest.filterMap fun other => (interpreter.attempt other).fault).getLast? <;> rfl

end Reuse

end Interpreter

/-- Whatever rules an interpreter has read, its gate stands at no open level, it answers the
next rule as a new interpreter does, and the cause that it knows is the last of those that
new interpreters know after these rules. -/
theorem reading_independent_of_earlier (budget : FrameBudget) (operand : Operand)
    (requested : Int) (earlier : List String) (rule : String) :
    let fresh := Interpreter.new budget operand requested
    let used := fresh.readAll earlier
    let after := used.read rule
    used.gate.depth = 0 ∧ after.2.gate.depth = 0 ∧
      after.1 = (fresh.read rule).1 ∧
      after.2.cause? =
        ((earlier ++ [rule]).filterMap fun other => (fresh.read other).2.cause?).getLast? := by
  intro fresh used after
  have sameOperand : used.operand = fresh.operand := fresh.operand_readAll earlier
  have sameGate : used.gate = fresh.gate := fresh.gate_readAll earlier
  have closed : fresh.gate.depth = 0 := rfl
  refine ⟨?_, ?_, ?_, ?_⟩
  · rw [sameGate, closed]
  · rw [show after.2.gate = used.gate from used.gate_read rule, sameGate, closed]
  · exact (Interpreter.attempt_congr sameOperand sameGate rule).2
  · have isRun : after.2 = fresh.readAll (earlier ++ [rule]) := by
      rw [Interpreter.readAll, List.foldl_append]
      rfl
    have freshCause (other : String) :
        (fresh.read other).2.cause? = (fresh.attempt other).fault.map (·.cause operand) :=
      congrArg (Option.map _) Interpreter.fault_read_new
    have kept := fresh.fault_readAll (earlier ++ [rule])
    rw [← isRun, show fresh.fault = none from rfl, Option.or_none] at kept
    have runOperand : after.2.operand = operand := sameOperand
    simp only [freshCause]
    rw [Interpreter.cause?, kept, runOperand, ← List.getLast?_map, List.map_filterMap]

/-- A rule that holds does not clear the cause that an earlier one left. -/
example :
    let used := (Interpreter.new .standard (.integer 1) 100).readAll ["n mod 0 is 1"]
    (used.read "n is 1").1.reply = .judged true ⟨"n is 1".toList, 6⟩ ∧
      (used.read "n is 1").2.cause? = some .modulusZero := by
  decide +kernel

end PluralForms
