/-
# Intervals are listed whole or not at all

While a rule is read, every interval that passes is listed with all its numbers, in readings that
are given up as well as in those that count.  No list is longer than a hundred thousand numbers:
an interval with more of them is refused when its bounds are known, and nothing else
keeps an interval from being listed whose bounds stand in the rule.

What is read depends on these lists.  The interval of every relation that is read was listed on
the way, and a number lies in the interval exactly if it is in the list.  So it makes no
difference that a relation is judged by the bounds of its interval.
-/

import PluralForms.Proofs.Judgement.Fault
import PluralForms.Proofs.Spelling.Levels
import PluralForms.Proofs.Spelling.Listing

namespace PluralForms

open Rule Text

namespace Rule

/-- The interval of a relation, if it has one. -/
def Relation.interval? : Relation → Option Interval
  | equality .. => none
  | membership _ _ interval => some interval
  | within _ interval => some interval

/-- The intervals of a chain, in order. -/
def Condition.intervals (chain : Condition) : List Interval :=
  chain.relations.filterMap Relation.interval?

@[simp]
theorem Condition.mem_intervals_relation {only : Relation} {enclosed : Interval} :
    enclosed ∈ (Condition.relation only).intervals ↔ only.interval? = some enclosed := by
  simp [intervals, relations]

@[simp]
theorem Condition.mem_intervals_joined {first : Relation} {connective : Connective}
    {rest : Condition} {enclosed : Interval} :
    enclosed ∈ (Condition.joined first connective rest).intervals ↔
      first.interval? = some enclosed ∨ enclosed ∈ rest.intervals := by
  simp [intervals, relations]

/-- The list has the numbers of the interval one after the other, and no others.  An integer is
looked up in it with the same result as between the bounds. -/
structure IsListOf (enclosed : Interval) (list : List Nat) : Prop where
  getElem_eq : ∀ (i : Nat) (inside : i < list.length), list[i] = enclosed.first + i
  length_eq : (list.length : Int) = max 0 ((enclosed.last : Int) - enclosed.first + 1)
  eq_nil : enclosed.last < enclosed.first → list = []
  mem_iff : ∀ x : Int, x ∈ (list.map Nat.cast : List Int) ↔ enclosed.first ≤ x ∧ x ≤ enclosed.last
  contains_eq : ∀ x : Int, enclosed.contains x = decide (x ∈ (list.map Nat.cast : List Int))

theorem Interval.mem_members_cast (enclosed : Interval) (x : Int) :
    x ∈ (enclosed.members.map Nat.cast : List Int) ↔ enclosed.first ≤ x ∧ x ≤ enclosed.last := by
  simp only [List.mem_map, mem_members]
  constructor
  · rintro ⟨member, inside, rfl⟩
    omega
  · rintro ⟨lower, upper⟩
    exact ⟨x.toNat, by omega, by omega⟩

/-- The members of an interval are its list. -/
theorem isListOf_members (enclosed : Interval) : IsListOf enclosed enclosed.members where
  getElem_eq i inside := by simp [Interval.members]
  length_eq := by
    rw [Interval.length_members, Interval.size]
    omega
  eq_nil reversed := by
    rw [← List.length_eq_zero_iff, Interval.length_members, Interval.size]
    omega
  mem_iff := enclosed.mem_members_cast
  contains_eq x := by
    rw [Bool.eq_iff_iff, decide_eq_true_iff, enclosed.mem_members_cast]
    simp [Interval.contains]

/-- Only a permitted interval has a list that is not too long. -/
theorem Interval.permitted_iff_length (enclosed : Interval) :
    enclosed.Permitted ↔ enclosed.members.length ≤ 100000 := by
  rw [enclosed.permitted_iff, Interval.length_members, mostMembers]

namespace Reader

/-- If what the reader accepts has an interval, it has been listed on the way. -/
structure Lists (reader : Reader Relation) : Prop where
  of_accepted : ∀ {head only moved enclosed}, (reader head).ending = .accepted only moved →
    only.interval? = some enclosed →
    ∃ offset, .passed .interval offset (.members enclosed) ∈ (reader head).log

section Composed

variable {α : Type} {first : Reader α} {next : α → Reader Relation}
variable {reader second : Reader Relation} {only : Relation}

theorem lists_accept (nothing : only.interval? = none) : Lists (accept only) := by
  constructor
  intro head found moved enclosed accepted isInterval
  cases accepted
  exact nomatch nothing.symm.trans isInterval

theorem lists_interval {make : Interval → Relation}
    (made : ∀ enclosed, (make enclosed).interval? = some enclosed) :
    Lists (interval >>= fun enclosed => accept (make enclosed)) := by
  constructor
  intro head found moved enclosed accepted isInterval
  obtain ⟨listed, between, intervalRead, finished⟩ := bind_accepted_iff.1 accepted
  cases finished
  obtain rfl := Option.some.inj ((made listed).symm.trans isInterval)
  rw [interval_eq, ending_logged] at intervalRead
  refine ⟨head.offset, ?_⟩
  rw [log_bind_of_accepted (by rw [interval_eq, ending_logged]; exact intervalRead), interval_eq,
    log_logged_of_accepted _ _ intervalRead]
  simp

theorem Lists.behind (lists : ∀ value, Lists (next value)) : Lists (first >>= next) := by
  constructor
  intro head found moved enclosed accepted isInterval
  obtain ⟨value, between, firstRead, nextRead⟩ := bind_accepted_iff.1 accepted
  obtain ⟨offset, mem⟩ := (lists value).of_accepted nextRead isInterval
  rw [log_bind_of_accepted firstRead]
  exact ⟨offset, List.mem_append_right _ mem⟩

theorem Lists.orElse (lists : Lists reader) (listsToo : Lists second) :
    Lists (reader <|> second) := by
  constructor
  intro head found moved enclosed accepted isInterval
  rcases orElse_accepted_iff.1 accepted with accepted | ⟨refused, accepted⟩
  · rw [orElse_of_accepted accepted]
    exact lists.of_accepted accepted isInterval
  · obtain ⟨offset, mem⟩ := listsToo.of_accepted accepted isInterval
    rw [log_orElse_of_refused refused]
    exact ⟨offset, List.mem_append_right _ mem⟩

theorem Lists.logged (lists : Lists reader) (construct : Construct)
    (finding : Relation → Finding) : Lists (logged construct finding reader) := by
  constructor
  intro head found moved enclosed accepted isInterval
  rw [ending_logged] at accepted
  obtain ⟨offset, mem⟩ := lists.of_accepted accepted isInterval
  exact ⟨offset, mem_log_logged_of_mem construct finding mem⟩

end Composed

section Constructs

variable (countable : Bool)

theorem lists_equality : Lists (equality countable) := by
  apply Lists.logged
  apply Lists.behind
  intro subject
  exact .behind fun _ => .behind fun _ => .behind fun _ => .behind fun _ => .behind fun _ =>
    lists_accept rfl

theorem lists_membership : Lists (membership countable) := by
  apply Lists.logged
  apply Lists.behind
  intro subject
  exact .behind fun _ => .behind fun _ => .behind fun _ => .behind fun _ =>
    lists_interval fun _ => rfl

theorem lists_within : Lists (within countable) := by
  apply Lists.logged
  apply Lists.behind
  intro subject
  exact .behind fun _ => .behind fun _ => .behind fun _ => lists_interval fun _ => rfl

theorem lists_relation : Lists (relation countable) :=
  (lists_equality countable).orElse ((lists_membership countable).orElse (lists_within countable))

/-- The intervals of a condition that is read have all been listed, each at its level. -/
theorem exists_passed_of_mem_intervals {levels : Nat} {head moved : Head} {chain : Condition}
    {enclosed : Interval}
    (accepted : (condition countable levels head).ending = .accepted chain moved)
    (mem : enclosed ∈ chain.intervals) :
    ∃ offset, .passed .interval offset (.members enclosed) ∈
      (condition countable levels head).log := by
  induction levels generalizing head chain moved with
  | zero => cases accepted
  | succ levels ih =>
      rw [condition_succ] at accepted ⊢
      cases level_cases countable (condition countable levels) head with
      | alone log_eq ending_eq =>
          rw [ending_eq] at accepted
          obtain ⟨only, between, relationRead, finished⟩ := bind_accepted_iff.1 accepted
          cases finished
          obtain ⟨offset, listed⟩ := (lists_relation countable).of_accepted relationRead
            (Condition.mem_intervals_relation.1 mem)
          exact ⟨offset, by simp [log_eq, messagesAlone, listed]⟩
      | @followed first connective between behind relationRead stands log_eq ending_eq =>
          rw [ending_eq] at accepted
          have ofFirst (isInterval : first.interval? = some enclosed) :
              ∃ offset, .passed .interval offset (.members enclosed) ∈
                (level countable (condition countable levels) head).log := by
            obtain ⟨offset, listed⟩ :=
              (lists_relation countable).of_accepted relationRead isInterval
            exact ⟨offset, by cases connective <;> simp [log_eq, messagesInFront, listed]⟩
          cases found : (condition countable levels behind).ending with
          | accepted rest last =>
              rw [found] at accepted
              cases accepted
              rcases Condition.mem_intervals_joined.1 mem with isInterval | mem
              · exact ofFirst isInterval
              · obtain ⟨offset, listed⟩ := ih found mem
                exact ⟨offset, by simp [log_eq, listed]⟩
          | refused =>
              rw [found] at accepted
              cases accepted
              exact ofFirst (Condition.mem_intervals_relation.1 mem)
          | tooDeep =>
              rw [found] at accepted
              cases accepted

end Constructs

end Reader

/-- What stands ahead of a place on a text is the text from there on. -/
theorem Head.Passes.ahead_eq_drop {text part : List Char} {place : Head}
    (passes : (Head.start text).Passes part place) : place.ahead = text.drop place.offset := by
  have behind := passes.drop (Nat.le_refl place.offset)
  rw [Nat.sub_self, List.drop_zero] at behind
  exact behind.symm

end Rule

namespace Interpreter

variable {interpreter : Interpreter} {rule : String} {event : Event} {offset : Nat}
variable {enclosed : Interval}

/-- A message about an interval is what the interval reader logs at its place in the rule. -/
theorem exists_log_interval_of_about (mem : event ∈ (interpreter.attempt rule).log)
    (about : event.about? = some (.interval, offset)) :
    ∃ place : Head, place.offset = offset ∧ place.ahead = rule.toList.drop offset ∧
      (Reader.interval place).log = [event] := by
  obtain ⟨part, place, passes, rfl, single⟩ :=
    (Reader.tells_condition _ _ _).message event mem offset about
  exact ⟨place, rfl, passes.ahead_eq_drop, single⟩

/-- An interval is met as too large only where it has failed. -/
theorem exists_failed_of_oversized (met : .oversized enclosed ∈ interpreter.faultsMet rule) :
    ∃ offset, BoundsAhead enclosed (rule.toList.drop offset) ∧
      .failed .interval offset ∈ (interpreter.attempt rule).log := by
  obtain ⟨part, place, passes, ahead, mem⟩ :=
    (Reader.tells_condition _ _ _).fault enclosed (fault_of_mem_faultsMet met)
  rw [passes.ahead_eq_drop] at ahead
  exact ⟨place.offset, ahead, mem⟩

end Interpreter

/-- Every interval that passes while a rule is read is listed as a whole: its list has the numbers
from the first to the last of the two numerals at its place, one after the other, and not more than
a hundred thousand.  Where the numerals stand, the interval fails if there would be more and passes
otherwise, and wherever it is read it is refused for no other reason.  The intervals of the
condition that is read are among those that were listed, and those that were met as too large are
among those that failed. -/
theorem intervals_listed_whole (interpreter : Interpreter) (rule : String) :
    let log := (interpreter.read rule).1.log
    (∀ offset finding, .passed .interval offset finding ∈ log →
      ∃ enclosed, finding = .members enclosed ∧ BoundsAhead enclosed (rule.toList.drop offset) ∧
        IsListOf enclosed enclosed.members ∧ enclosed.members.length ≤ 100000) ∧
    (∀ event ∈ log, ∀ offset, event.about? = some (.interval, offset) →
      ∀ enclosed, BoundsAhead enclosed (rule.toList.drop offset) →
        event = if 100000 < (enclosed.last : Int) - enclosed.first + 1
          then .failed .interval offset else .passed .interval offset (.members enclosed)) ∧
    (∀ head enclosed, BoundsAhead enclosed head.ahead →
      ((Reader.interval head).ending = .refused ↔
        100000 < (enclosed.last : Int) - enclosed.first + 1) ∧
      ((Reader.interval head).fault = some (.oversized enclosed) ↔
        100000 < (enclosed.last : Int) - enclosed.first + 1)) ∧
    (∀ chain stop, (interpreter.attempt rule).ending = .accepted chain stop →
      ∀ enclosed ∈ chain.intervals, ∃ offset,
        .passed .interval offset (.members enclosed) ∈ log) ∧
    ∀ enclosed, .oversized enclosed ∈ interpreter.faultsMet rule → ∃ offset,
      BoundsAhead enclosed (rule.toList.drop offset) ∧ .failed .interval offset ∈ log := by
  intro log
  have forbidden_iff (enclosed : Interval) : ¬ enclosed.Permitted ↔
      100000 < (enclosed.last : Int) - enclosed.first + 1 := Int.not_le
  refine ⟨?_, ?_, ?_, ?_, fun enclosed => Interpreter.exists_failed_of_oversized⟩
  · intro offset finding passed
    obtain ⟨place, rfl, ahead_eq, single⟩ :=
      Interpreter.exists_log_interval_of_about passed rfl
    obtain ⟨enclosed, found, ahead, permitted⟩ := (Reader.interval_tried place).of_passed single
    rw [ahead_eq] at ahead
    exact ⟨enclosed, found, ahead, isListOf_members enclosed,
      enclosed.permitted_iff_length.1 permitted⟩
  · intro event mem offset about enclosed ahead
    obtain ⟨place, rfl, ahead_eq, single⟩ := Interpreter.exists_log_interval_of_about mem about
    rw [← ahead_eq] at ahead
    have tried := Reader.interval_tried place
    apply List.singleton_inj.1
    split
    · rename_i exceeds
      exact single.symm.trans (tried.log_of_forbidden ahead ((forbidden_iff enclosed).2 exceeds))
    · rename_i fits
      have permitted : enclosed.Permitted := not_not.1 (mt (forbidden_iff enclosed).1 fits)
      exact single.symm.trans (tried.log_of_permitted ahead permitted)
  · intro head enclosed ahead
    rw [← forbidden_iff]
    exact (Reader.interval_tried head).refused_iff ahead
  · intro chain stop accepted enclosed mem
    exact Reader.exists_passed_of_mem_intervals _ accepted mem

/-- A list is shown where its interval stands, empty if the bounds are reversed.  One number more
than a hundred thousand is too many. -/
example :
    let lines := let interpreter := Interpreter.new .standard (.integer 5) 100
      interpreter.trace (interpreter.read "n in 2..4 or n in 4..2 or n in 0..100000").1
    "passed range at 5: [2, 3, 4]" ∈ lines ∧ "passed range at 18: []" ∈ lines ∧
      "failed range at 31" ∈ lines := by
  decide +kernel

end PluralForms
