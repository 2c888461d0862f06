/-
# Putting a relation in front of a rule

A rule that starts with a single relation and a connective is read as whatever
stands behind the connective is read on its own, with one level of nesting less.
This holds of every text behind the connective, whether it is a rule or not: if
it is nested too deeply, so is the whole; if it is refused, the relation is left
standing alone in front of it; and its fault is the fault of the whole.

So a rule never gets its truth from its first relation alone while the rest of
it cannot be judged.
-/

import PluralForms.Proofs.Judgement.Verdict
import PluralForms.Proofs.Reader.Grammar

namespace PluralForms

open Rule Text

namespace Rule

/-- The word of a connective. -/
def Connective.text (connective : Connective) : String := String.ofList connective.letters

/-- Two rules with a connective between them and texts around the connective. -/
def chained (first before : String) (connective : Connective) (after rest : String) : String :=
  first ++ before ++ connective.text ++ after ++ rest

/-- How many characters stand in front of the rest of a chain. -/
def chainedOffset (first before : String) (connective : Connective) (after : String) : Nat :=
  (first ++ before ++ connective.text ++ after).length

theorem toList_chained (first before : String) (connective : Connective) (after rest : String) :
    (chained first before connective after rest).toList =
      first.toList ++ (before.toList ++
        (connective.letters ++ (after.toList ++ rest.toList))) := by
  simp [chained, Connective.text]

theorem length_chained (first before : String) (connective : Connective) (after rest : String) :
    (chained first before connective after rest).toList.length =
      chainedOffset first before connective after + rest.toList.length := by
  simp [chained, chainedOffset, ← String.length_toList, Nat.add_assoc]

theorem chainedOffset_eq (first before : String) (connective : Connective) (after rest : String) :
    chainedOffset first before connective after =
      (chained first before connective after rest).toList.length - rest.toList.length := by
  rw [length_chained, Nat.add_sub_cancel]

/-- A first relation ends before the end of a chain. -/
theorem lt_length_chained {before : String} (gapBefore : IsGap before.toList)
    (first : String) (connective : Connective) (after rest : String) :
    first.toList.length < (chained first before connective after rest).toList.length := by
  have nonempty := List.length_pos_iff.2 gapBefore.nonempty
  rw [toList_chained, List.length_append, List.length_append]
  omega

namespace Reader

variable {only : Relation} {first before after remaining : List Char}

/-- Behind a relation and its connective the rest of the text is read as it is
read on its own. -/
theorem condition_chained (spelled : only.SpelledBy first) (permitted : only.Permitted)
    (gapBefore : IsGap before) (connective : Connective) (gapAfter : IsGap after)
    (clear : ClearOf isBlank remaining) (levels : Nat) :
    let rest := before ++ (connective.letters ++ (after ++ remaining))
    let alone := condition true levels (Head.start remaining)
    let whole := condition true (levels + 1) (Head.start (first ++ rest))
    whole.ending = (alone.ending.shifted ((first ++ rest).length - remaining.length)).behind
        only connective ⟨first.length, rest⟩ ∧
      whole.fault = alone.fault := by
  intro rest alone whole
  obtain ⟨ending, fault⟩ :=
    condition_of_spelled spelled permitted gapBefore connective gapAfter clear levels 0
  have elsewhere := condition_shifted true levels ((first ++ rest).length - remaining.length)
    (Head.start remaining)
  have firstLength : 0 + ((first ++ rest).length - rest.length) = first.length := by
    rw [List.length_append]
    omega
  rw [firstLength] at ending
  exact ⟨ending.trans (congrArg _ elsewhere.1), fault.trans elsewhere.2⟩

end Reader

end Rule

/-- The reply to a chain, given the reply to what stands behind its first
connective: the first relation has this truth and ends at `stop`, the rest
starts at `start`. -/
def Reply.behind (truth : Bool) (connective : Connective) (rule : String) (stop start : Int)
    (limit : Int) : Reply → Reply
  | judged found reached =>
      judged (connective.join truth found) ⟨rule.toList, start + reached.offset⟩
  | unread => judged truth ⟨rule.toList, stop⟩
  | tooDeep _ => tooDeep limit

/-- A limit that the budget pays for is granted in full. -/
theorem Gate.ofRequest_of_le {budget : FrameBudget} {requested : Int}
    (granted : requested ≤ budget.deepest) :
    Gate.ofRequest budget requested = ⟨requested, 0⟩ := by
  rw [Gate.ofRequest, FrameBudget.grant, if_neg (Int.not_lt.2 granted)]

theorem Interpreter.attempt_granted {budget : FrameBudget} {operand : Operand} {requested n : Int}
    (granted : requested ≤ budget.deepest) (finite : operand.count = some n) (rule : String) :
    (Interpreter.new budget operand requested).attempt rule =
      Reader.condition true requested.toNat (Head.start rule.toList) := by
  rw [attempt_new_of_finite finite, FrameBudget.grant, if_neg (Int.not_lt.2 granted)]

/-- Chaining endings comes to the same as chaining the replies that they give. -/
theorem Interpreter.reply_behind {interpreter other : Interpreter} {n : Int}
    (finite : interpreter.operand.count = some n) (finite' : other.operand.count = some n)
    (rule rest : String) (only : Relation) (connective : Connective) (between : Head)
    (shift : Nat) (ending : Ending Condition) :
    interpreter.reply rule ((ending.shifted shift).behind only connective between) =
      (other.reply rest ending).behind (only.holds n) connective rule between.offset shift
        interpreter.gate.limit := by
  unfold reply
  rw [finite, finite']
  cases ending with
  | accepted chain head =>
      have offset : ((head.shifted shift).offset : Int) = shift + head.offset := by
        simp [Head.shifted, Int.add_comm]
      simp [Ending.shifted, Ending.behind, Reply.behind, Condition.holds, offset]
  | refused => rfl
  | tooDeep => rfl

/-- What is read to its end with a single level of nesting is a single relation. -/
theorem Interpreter.exists_relation_of_single {operand : Operand} {rule : String} {truth : Bool}
    {reached : Place}
    (single : ((Interpreter.new .standard operand 1).read rule).1.reply = .judged truth reached)
    (atEnd : reached.atEnd = true) :
    ∃ (n : Int) (only : Relation), operand.count = some n ∧ only.SpelledBy rule.toList ∧
      only.Permitted ∧ only.holds n = truth := by
  obtain ⟨n, chain, finite, spelled, permitted, short, holds⟩ := spelled_of_atEnd single atEnd
  obtain ⟨only, rfl⟩ := Condition.exists_eq_relation short
  exact ⟨n, only, finite, Condition.spelledBy_relation.1 spelled,
    Condition.permitted_relation.1 permitted, holds⟩

section Chained

variable {operand : Operand} {n : Int} {only : Relation} {first before after rest : String}

/-- A rule behind a relation is read under a limit as it is read alone under the
next smaller limit. -/
theorem read_chained (finite : operand.count = some n) (spelled : only.SpelledBy first.toList)
    (permitted : only.Permitted) (gapBefore : IsGap before.toList) (connective : Connective)
    (gapAfter : IsGap after.toList) (clear : ClearOf isBlank rest.toList) (budget : FrameBudget)
    {limit : Int} (nonneg : 0 ≤ limit) (granted : limit + 1 ≤ budget.deepest) :
    let alone := (Interpreter.new budget operand limit).read rest
    let rule := chained first before connective after rest
    let whole := (Interpreter.new budget operand (limit + 1)).read rule
    whole.1.reply = alone.1.reply.behind (only.holds n) connective rule first.toList.length
        (chainedOffset first before connective after) (limit + 1) ∧
      whole.2.cause? = alone.2.cause? := by
  intro alone rule whole
  have grantedAlone : limit ≤ budget.deepest := by omega
  have attemptAlone := Interpreter.attempt_granted grantedAlone finite rest
  have attemptWhole := Interpreter.attempt_granted granted finite rule
  have oneMore : (limit + 1).toNat = limit.toNat + 1 := Int.toNat_add_nat nonneg 1
  rw [oneMore, toList_chained] at attemptWhole
  obtain ⟨ending, fault⟩ :=
    Reader.condition_chained spelled permitted gapBefore connective gapAfter clear limit.toNat
  rw [← attemptWhole, ← attemptAlone, ← toList_chained, ← chainedOffset_eq] at ending
  rw [← attemptWhole, ← attemptAlone] at fault
  constructor
  · have sameLimit : (Interpreter.new budget operand (limit + 1)).gate.limit = limit + 1 := by
      simp [Interpreter.new, Gate.ofRequest_of_le granted]
    have sameCount (requested : Int) :
        (Interpreter.new budget operand requested).operand.count = some n := finite
    show Interpreter.reply _ rule _ = (Interpreter.reply _ rest _).behind _ _ _ _ _ _
    rw [ending, Interpreter.reply_behind (sameCount _) (sameCount limit) rule rest, sameLimit]
  · show ((Interpreter.attempt _ rule).fault.or none).map _ =
      ((Interpreter.attempt _ rest).fault.or none).map _
    rw [fault]
    rfl

/-- A chain is read to its end only if what stands behind its first connective is. -/
theorem exists_judged_of_behind_atEnd {reply : Reply} {truth found : Bool} {limit : Int}
    {reached : Place} {connective : Connective} (gapBefore : IsGap before.toList)
    (onRest : ∀ found place, reply = .judged found place → place.text = rest.toList)
    (judged : reply.behind truth connective (chained first before connective after rest)
      first.toList.length (chainedOffset first before connective after) limit =
        .judged found reached)
    (atEnd : reached.atEnd = true) :
    ∃ found place, reply = .judged found place ∧ place.atEnd = true := by
  rw [Place.atEnd, decide_eq_true_eq] at atEnd
  cases reply with
  | judged foundAlone place =>
      obtain ⟨-, rfl⟩ := Reply.judged.inj judged
      refine ⟨foundAlone, place, rfl, ?_⟩
      have length := length_chained first before connective after rest
      rw [Place.atEnd, decide_eq_true_eq, onRest foundAlone place rfl]
      simp only at atEnd
      omega
  | unread =>
      obtain ⟨-, rfl⟩ := Reply.judged.inj judged
      have shorter := lt_length_chained gapBefore first connective after rest
      simp only at atEnd
      omega
  | tooDeep limitAlone => cases judged

/-- A chain is definite only if what stands behind its first connective is. -/
theorem judge_chained_indeterminate (finite : operand.count = some n)
    (spelled : only.SpelledBy first.toList) (permitted : only.Permitted)
    (gapBefore : IsGap before.toList) (connective : Connective) (gapAfter : IsGap after.toList)
    (clear : ClearOf isBlank rest.toList)
    (indeterminate : judge (.usable rest) (.usable operand) = .ok .indeterminate) :
    judge (.usable (chained first before connective after rest)) (.usable operand) =
      .ok .indeterminate := by
  rw [judge_indeterminate_iff] at indeterminate ⊢
  intro truth definite
  rw [assess_eq, assessReading_definite_iff] at definite
  obtain ⟨reached, judged, atEnd⟩ := definite
  have nonneg : (0 : Int) ≤ 99 := by decide
  have chainedReply := (read_chained finite spelled permitted gapBefore connective gapAfter clear
    .standard nonneg (by decide)).1
  have onRest (found : Bool) (place : Place)
      (judged : ((Interpreter.new .standard operand 99).read rest).1.reply = .judged found place) :
      place.text = rest.toList :=
    (Interpreter.inside_of_judged judged).1
  obtain ⟨found, place, judgedAlone, atEndAlone⟩ :=
    exists_judged_of_behind_atEnd gapBefore onRest (chainedReply.symm.trans judged) atEnd
  obtain ⟨n', chain, finite', spelledRest, permittedRest, short, holds⟩ :=
    Interpreter.spelled_of_atEnd judgedAlone atEndAlone
  have shortEnough : chain.relations.length ≤ 100 := Nat.le_succ_of_le short
  exact indeterminate _
    ((assess_definite_iff finite).2 ⟨chain, ⟨spelledRest, permittedRest, shortEnough⟩, rfl⟩)

/-- Whatever stands behind a single relation and a connective settles the whole:
its nesting, its truth and its place, its refusal, and its fault.  What cannot be
judged on its own cannot be judged there. -/
theorem read_behind_connective {truth : Bool} {reached : Place}
    (single : ((Interpreter.new .standard operand 1).read first).1.reply = .judged truth reached)
    (atEnd : reached.atEnd = true) (gapBefore : IsGap before.toList) (connective : Connective)
    (gapAfter : IsGap after.toList) (clear : ClearOf isBlank rest.toList) {limit : Int}
    (nonneg : 0 ≤ limit) (small : limit ≤ 157) :
    let rule := chained first before connective after rest
    let alone := (Interpreter.new .standard operand limit).read rest
    let whole := (Interpreter.new .standard operand (limit + 1)).read rule
    ((∃ deepest, whole.1.reply = .tooDeep deepest) ↔
      ∃ deepest, alone.1.reply = .tooDeep deepest) ∧
    (∀ found place, alone.1.reply = .judged found place →
      whole.1.reply = .judged (connective.join truth found)
        ⟨rule.toList, chainedOffset first before connective after + place.offset⟩) ∧
    (alone.1.reply = .unread →
      whole.1.reply = .judged truth ⟨rule.toList, first.toList.length⟩) ∧
    whole.2.cause? = alone.2.cause? ∧
    (judge (.usable rest) (.usable operand) = .ok .indeterminate →
      judge (.usable rule) (.usable operand) = .ok .indeterminate) := by
  intro rule alone whole
  obtain ⟨n, only, finite, spelled, permitted, rfl⟩ :=
    Interpreter.exists_relation_of_single single atEnd
  have granted : limit + 1 ≤ FrameBudget.standard.deepest := by
    rw [show FrameBudget.standard.deepest = 158 from rfl]
    omega
  obtain ⟨reply, cause⟩ := read_chained finite spelled permitted gapBefore connective gapAfter
    clear .standard nonneg granted
  change whole.1.reply = alone.1.reply.behind _ _ _ _ _ _ at reply
  refine ⟨?_, ?_, ?_, cause, ?_⟩
  · rw [reply]
    cases alone.1.reply <;> simp [Reply.behind]
  · intro found place judged
    rw [reply, judged]
    rfl
  · intro unread
    rw [reply, unread]
    rfl
  · exact judge_chained_indeterminate finite spelled permitted gapBefore connective gapAfter clear

/-- Three is three, but not with an unfinished alternative. -/
theorem judge_unfinished_alternative :
    ((Interpreter.new .standard (.integer 3) 1).read "n is 3").1.reply =
      .judged true ⟨"n is 3".toList, 6⟩ ∧
    ((Interpreter.new .standard (.integer 3) (100 + 1)).read
      (chained "n is 3" " " .either " " "n in")).1.reply =
        .judged true ⟨(chained "n is 3" " " .either " " "n in").toList, 6⟩ ∧
    judge (.usable (chained "n is 3" " " .either " " "n in")) (.usable (.integer 3)) =
      .ok .indeterminate := by
  have single : ((Interpreter.new .standard (.integer 3) 1).read "n is 3").1.reply =
      .judged true ⟨"n is 3".toList, 6⟩ := by decide +kernel
  have gap : IsGap " ".toList := ⟨by decide, List.forall_mem_singleton.2 rfl⟩
  have clear : ClearOf isBlank "n in".toList := clearOf_cons.2 (by decide)
  have nonneg : (0 : Int) ≤ 100 := by decide
  obtain ⟨-, -, unread, -, indeterminate⟩ :=
    read_behind_connective single (by decide) gap .either gap clear nonneg (by decide)
  exact ⟨single, unread (by decide +kernel), indeterminate rfl⟩

end Chained

end PluralForms
