/-
# Counting what a reading logs

A level of a reading leaves its own messages, and at most one condition is tried behind its
connective, at least ten characters further on: a relation takes six characters, and a
connective between gaps takes four.  The messages of its own are those of three readings of
the relation and one for each connective.

So the levels of a reading stand ten characters apart from one another, and both the levels and
the messages are bounded by the length of the text, whatever the limit on nesting is.
-/

import PluralForms.Proofs.Judgement.Cutting
import PluralForms.Proofs.Spelling.Levels

namespace PluralForms.Rule

open Text

/-- A block takes ten characters at least. -/
theorem Blocks.ten_mul_le_length {count : Nat} {run : List Char} (blocks : Blocks count run) :
    10 * count ≤ run.length := by
  induction blocks with
  | nil => exact Nat.le_refl 0
  | cons spelled _ gapBefore connective gapAfter _ ih =>
      have six := spelled.six_le_length
      have front := gapBefore.length_pos
      have back := gapAfter.length_pos
      have two : 2 ≤ connective.letters.length := by cases connective <;> decide
      simp only [List.length_append]
      omega

/-- One block more in front of a run of blocks. -/
theorem Blocks.append {count : Nat} {block run : List Char} (one : Blocks 1 block)
    (blocks : Blocks count run) : Blocks (count + 1) (block ++ run) := by
  cases one with
  | cons spelled permitted gapBefore connective gapAfter nothing =>
      cases nothing
      simpa using Blocks.cons spelled permitted gapBefore connective gapAfter blocks

namespace Reader

section Level

variable {countable : Bool} {head moved behind : Head} {first : Relation}
variable {connective : Connective}

/-- The other head stands one block further on, and no blank is left in front of it. -/
structure BlockAhead (head behind : Head) : Prop where
  exists_block : ∃ block, Blocks 1 block ∧ head.Passes block behind
  clear : ClearOf isBlank behind.ahead

/-- A relation and a connective behind it are a block, and the condition behind them stands
where the block ends. -/
theorem blockAhead_of_stands (accepted : (relation countable head).ending = .accepted first moved)
    (stands : StandsBetween connective moved behind) : BlockAhead head behind := by
  obtain ⟨text, spelled, permitted, passes⟩ := spelled_of_relation accepted
  obtain ⟨before, after, gapBefore, gapAfter, passesConnective⟩ := stands.exists_gaps
  refine ⟨⟨_, .cons spelled permitted gapBefore connective gapAfter .nil, ?_⟩, stands.clear⟩
  rw [List.append_nil]
  exact passes.trans passesConnective

/-- The condition behind a connective stands ten characters further on, and the text ends where
it did. -/
theorem BlockAhead.ten_le (ahead : BlockAhead head behind) :
    head.offset + 10 ≤ behind.offset ∧
      behind.offset + behind.ahead.length = head.offset + head.ahead.length := by
  obtain ⟨block, blocks, ahead_eq, offset_eq⟩ := ahead.exists_block
  have ten := blocks.ten_mul_le_length
  have whole := congrArg List.length ahead_eq
  rw [List.length_append] at whole
  omega

/-- Messages of one level: they open nothing, there are forty-one at most, they are about
places on the text ahead, and each connective has one at most, at the start. -/
structure IsOwn (own : List Event) (head : Head) : Prop where
  openings_eq_nil : openings own = []
  length_le : (subjects own).length ≤ 41
  offset_le : ∀ about ∈ subjects own,
    head.offset ≤ about.2 ∧ about.2 ≤ head.offset + head.ahead.length
  count_le : ∀ construct : Construct, construct.joins = true → ∀ offset,
    (subjects own).count (construct, offset) ≤ [head.offset].count offset

variable (countable head)

theorem length_subjects_relation_le : (subjects (relation countable head).log).length ≤ 13 :=
  (List.length_filterMap_le _ _).trans ((modest_relation countable).length_le head)

/-- The messages of a relation are about places on the text ahead. -/
theorem offset_le_of_mem_subjects {about : Construct × Nat}
    (mem : about ∈ subjects (relation countable head).log) :
    head.offset ≤ about.2 ∧ about.2 ≤ head.offset + head.ahead.length := by
  obtain ⟨event, inLog, isAbout⟩ := List.mem_filterMap.1 mem
  obtain ⟨construct, offset, isAbout', lower, upper⟩ :=
    (plain_relation countable).exists_about inLog
  obtain rfl := Option.some.inj (isAbout'.symm.trans isAbout)
  exact ⟨lower, upper⟩

/-- So is the place where the relation itself is tried. -/
theorem offset_le_of_tried {about : Construct × Nat}
    (tried : about ∈ subjects (relation countable head).log ∨ about.2 = head.offset) :
    head.offset ≤ about.2 ∧ about.2 ≤ head.offset + head.ahead.length := by
  rcases tried with mem | start
  · exact offset_le_of_mem_subjects countable head mem
  · rw [start]
    exact ⟨Nat.le_refl _, Nat.le_add_right _ _⟩

/-- None of them is about a connective. -/
theorem not_mem_subjects_relation {construct : Construct} (joins : construct.joins = true)
    (offset : Nat) : (construct, offset) ∉ subjects (relation countable head).log := by
  intro mem
  have single := (modest_relation countable).joins_eq_false head _ mem
  exact Bool.false_ne_true (single.symm.trans joins)

theorem isOwn_messagesAlone :
    IsOwn (messagesAlone (relation countable head).log head.offset) head := by
  have nothing := (plain_relation countable).openings_eq_nil head
  have few := length_subjects_relation_le countable head
  constructor
  · simp [messagesAlone, nothing]
  · simp only [messagesAlone, subjects_append, subjects_failed, List.length_append,
      List.length_cons]
    omega
  · intro about mem
    apply offset_le_of_tried countable
    simp [messagesAlone] at mem
    grind
  · intro construct joins offset
    have none := List.count_eq_zero.2 (not_mem_subjects_relation countable head joins offset)
    cases construct <;> simp [messagesAlone, none, List.count_cons, Construct.joins] at joins ⊢

theorem isOwn_messagesAround (first : Relation) (connective : Connective)
    (ending : Ending Condition) :
    IsOwn (messagesInFront (relation countable head).log head.offset connective ++
      (connectiveMessage head.offset first connective ending ++
        messagesOfRetry (relation countable head).log head.offset connective ending)) head := by
  have nothing := (plain_relation countable).openings_eq_nil head
  have few := length_subjects_relation_le countable head
  constructor
  · cases connective <;> cases ending <;>
      simp [messagesInFront, connectiveMessage, messagesOfRetry, nothing]
  · cases connective <;> cases ending <;>
      simp [messagesInFront, connectiveMessage, messagesOfRetry] <;> omega
  · intro about mem
    apply offset_le_of_tried countable
    cases connective <;> cases ending <;>
      simp [messagesInFront, connectiveMessage, messagesOfRetry] at mem <;> grind
  · intro construct joins offset
    have none := List.count_eq_zero.2 (not_mem_subjects_relation countable head joins offset)
    cases construct <;> cases connective <;> cases ending <;>
      simp [messagesInFront, connectiveMessage, messagesOfRetry, connectiveConstruct, none,
        List.count_cons, Construct.joins] at joins ⊢

end Level

section Run

variable (countable : Bool) (levels : Nat) (head : Head)

/-- A level logs messages of its own around the log of a condition one block further on, and is
stopped where that condition is, or it logs them around nothing and is not stopped. -/
theorem exists_own :
    ∃ own inner, IsOwn own head ∧
      openings (condition countable (levels + 1) head).log = head.offset :: openings inner ∧
      (subjects (condition countable (levels + 1) head).log).Perm
        (subjects own ++ subjects inner) ∧
      (inner = [] ∧ (condition countable (levels + 1) head).ending ≠ .tooDeep ∨
        ∃ behind, BlockAhead head behind ∧ inner = (condition countable levels behind).log ∧
          ((condition countable (levels + 1) head).ending = .tooDeep →
            (condition countable levels behind).ending = .tooDeep)) := by
  cases level_cases countable (condition countable levels) head with
  | alone log_eq ending_eq =>
      have isOwn := isOwn_messagesAlone countable head
      have settled := ((plain_relation countable).bind fun only =>
        Plain.accept (Condition.relation only)).settles head
      refine ⟨_, [], isOwn, ?_, ?_, .inl ⟨rfl, ?_⟩⟩
      · simp [condition_succ, log_eq, isOwn.openings_eq_nil]
      · simp [condition_succ, log_eq]
      · rw [condition_succ, ending_eq]
        exact settled
  | @followed first connective moved behind accepted stands log_eq ending_eq =>
      have isOwn := isOwn_messagesAround countable head first connective
        (condition countable levels behind).ending
      have ahead := blockAhead_of_stands accepted stands
      refine ⟨_, _, isOwn, ?_, ?_, .inr ⟨behind, ahead, rfl, ?_⟩⟩
      · have nothing := isOwn.openings_eq_nil
        simp only [openings_append, List.append_eq_nil_iff] at nothing
        simp [condition_succ, log_eq, nothing]
      · simp only [condition_succ, log_eq, subjects_opened, subjects_append, subjects_closed,
          subjects_nil, List.append_nil, List.append_assoc]
        apply List.Perm.append_left
        exact List.perm_append_comm.trans (by rw [List.append_assoc])
      · rw [condition_succ, ending_eq, Ending.behind_eq_tooDeep_iff]
        exact id

/-- The levels of a reading are opened ten characters apart, on the text ahead. -/
theorem openings_condition :
    (openings (condition countable levels head).log).Pairwise
        (fun opening later => opening + 10 ≤ later) ∧
      ∀ opening ∈ openings (condition countable levels head).log,
        head.offset ≤ opening ∧ opening ≤ head.offset + head.ahead.length := by
  induction levels generalizing head with
  | zero => exact ⟨.nil, nofun⟩
  | succ levels ih =>
      obtain ⟨own, inner, -, isOpenings, -, ⟨rfl, -⟩ | ⟨behind, ahead, rfl, -⟩⟩ :=
        exists_own countable levels head
      · simp [isOpenings]
      · obtain ⟨far, sameEnd⟩ := ahead.ten_le
        obtain ⟨apart, inside⟩ := ih behind
        rw [isOpenings, List.pairwise_cons]
        refine ⟨⟨fun opening mem => ?_, apart⟩, fun opening mem => ?_⟩
        · exact far.trans (inside opening mem).1
        · rcases List.mem_cons.1 mem with rfl | mem
          · exact ⟨Nat.le_refl _, Nat.le_add_right _ _⟩
          · have bounds := inside opening mem
            omega

/-- A reading that is stopped has passed as many blocks as there are levels, has opened a level
for each of them, and finds no level left behind the last one. -/
theorem blocks_of_tooDeep (stopped : (condition countable levels head).ending = .tooDeep) :
    ∃ run behind, Blocks levels run ∧ head.Passes run behind ∧
      (run ≠ [] → ClearOf isBlank behind.ahead) ∧
      (openings (condition countable levels head).log).length = levels ∧
      ∀ opening ∈ openings (condition countable levels head).log,
        opening + 10 ≤ behind.offset := by
  induction levels generalizing head with
  | zero => exact ⟨[], head, .nil, .refl head, nofun, rfl, nofun⟩
  | succ levels ih =>
      obtain ⟨own, inner, -, isOpenings, -, ⟨rfl, settled⟩ | ⟨between, ahead, rfl, innerStopped⟩⟩ :=
        exists_own countable levels head
      · exact absurd stopped settled
      obtain ⟨run, behind, blocks, passes, clear, opened, far⟩ := ih between (innerStopped stopped)
      obtain ⟨block, one, passesBlock⟩ := ahead.exists_block
      obtain ⟨start, -⟩ := ahead.ten_le
      rw [isOpenings]
      refine ⟨block ++ run, behind, one.append blocks, passesBlock.trans passes, fun _ => ?_,
        congrArg Nat.succ opened, fun opening mem => ?_⟩
      · by_cases nothing : run = []
        · obtain rfl : behind = between := by
            rw [nothing] at passes
            exact (Head.passes_iff_eq_move List.nil_prefix).1 passes
          exact ahead.clear
        · exact clear nothing
      · have later := passes.offset_eq
        rcases List.mem_cons.1 mem with rfl | mem
        · omega
        · exact far opening mem

/-- A reading leaves forty-one messages at most for each level that it opens. -/
theorem length_subjects_condition_le :
    (subjects (condition countable levels head).log).length ≤
      41 * (openings (condition countable levels head).log).length := by
  induction levels generalizing head with
  | zero => exact Nat.le_refl 0
  | succ levels ih =>
      obtain ⟨own, inner, isOwn, isOpenings, perm, ⟨rfl, -⟩ | ⟨behind, -, rfl, -⟩⟩ :=
        exists_own countable levels head
      · have few := isOwn.length_le
        simpa [isOpenings, perm.length_eq] using few
      · have few := isOwn.length_le
        have fewInside := ih behind
        rw [isOpenings, perm.length_eq, List.length_append, List.length_cons]
        omega

/-- A connective leaves one message at most for each level that is opened at its place. -/
theorem count_subjects_condition_le {construct : Construct} (joins : construct.joins = true)
    (offset : Nat) :
    (subjects (condition countable levels head).log).count (construct, offset) ≤
      (openings (condition countable levels head).log).count offset := by
  induction levels generalizing head with
  | zero => exact Nat.le_refl 0
  | succ levels ih =>
      obtain ⟨own, inner, isOwn, isOpenings, perm, ⟨rfl, -⟩ | ⟨behind, -, rfl, -⟩⟩ :=
        exists_own countable levels head
      · have few := isOwn.count_le construct joins offset
        simpa [isOpenings, perm.count_eq] using few
      · have few := isOwn.count_le construct joins offset
        have fewInside := ih behind
        rw [isOpenings, perm.count_eq, List.count_append, ← List.singleton_append,
          List.count_append]
        omega

/-- Every message is about a place on the text ahead. -/
theorem offset_le_of_mem_subjects_condition {about : Construct × Nat}
    (mem : about ∈ subjects (condition countable levels head).log) :
    head.offset ≤ about.2 ∧ about.2 ≤ head.offset + head.ahead.length := by
  induction levels generalizing head with
  | zero => cases mem
  | succ levels ih =>
      obtain ⟨own, inner, isOwn, -, perm, isInner⟩ := exists_own countable levels head
      rcases List.mem_append.1 (perm.mem_iff.1 mem) with mem | mem
      · exact isOwn.offset_le about mem
      rcases isInner with ⟨rfl, -⟩ | ⟨behind, ahead, rfl, -⟩
      · cases mem
      · obtain ⟨far, sameEnd⟩ := ahead.ten_le
        have bounds := ih behind mem
        omega

end Run

end Reader

end PluralForms.Rule
