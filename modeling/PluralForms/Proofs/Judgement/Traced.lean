/-
# What a trace tells about the answer

The trace of a reading is written while alternatives are tried, so it is full of messages
about readings that were given up.  Its last line is not: it says what the answer is.  A rule
that is judged ends its trace with the construct that the condition was read as and the truth
that was found, and a rule that could not be read ends it with the last form of a relation.

A reading that is stopped leaves no such line.  At each of its levels a connective is being read
when the last level is used up, and it leaves no message, so nothing with a connective has passed.
-/

import PluralForms.Proofs.Judgement.Cutting
import PluralForms.Proofs.Reader.Lines
import PluralForms.Proofs.Spelling.Counting
import PluralForms.Proofs.Spelling.GivingUp

namespace PluralForms

open Rule Text

namespace Rule

/-- The text starts with a permitted relation, and the connective stands between gaps behind
it. -/
inductive StartsJoined (connective : Connective) : List Char → Prop
  | intro {first : Relation} {relation before after rest : List Char}
      (spelled : first.SpelledBy relation) (permitted : first.Permitted)
      (gapBefore : IsGap before) (gapAfter : IsGap after) :
      StartsJoined connective (relation ++ (before ++ (connective.letters ++ (after ++ rest))))

/-- The message that a level ends with, by how it ends. -/
def lastMessage? (offset : Nat) : Ending Condition → Option Event
  | .accepted chain _ => some (.passed chain.construct offset (.truth chain))
  | .refused => some (.failed .within offset)
  | .tooDeep => none

namespace Reader

variable {countable : Bool} {next : Reader Condition} {head : Head} {tries : List Event}
variable {message : Event}

theorem getLast?_messagesAlone (last : tries.getLast? = some message) (offset : Nat) :
    (messagesAlone tries offset).getLast? = some message := by
  simp [messagesAlone, List.getLast?_append, List.getLast?_cons, last]

theorem getLast?_messagesOfRetry (last : tries.getLast? = some message) (front : List Event)
    (offset : Nat) (connective : Connective) :
    (front ++ messagesOfRetry tries offset connective .refused).getLast? = some message := by
  cases connective <;>
    simp [messagesOfRetry, List.getLast?_append, List.getLast?_cons, last]

/-- The last message of a level says how it ends, unless it is stopped. -/
theorem exists_messages (countable : Bool) (next : Reader Condition) (head : Head)
    (unstopped : (level countable next head).ending ≠ .tooDeep) :
    ∃ messages, (level countable next head).log =
        .opened head.offset :: (messages ++ [.closed]) ∧
      messages.getLast? = lastMessage? head.offset (level countable next head).ending := by
  cases level_cases countable next head with
  | alone log_eq ending_eq =>
      refine ⟨_, log_eq, ?_⟩
      rw [ending_eq]
      cases found : (relation countable head).ending with
      | accepted only moved =>
          rw [bind_of_accepted found]
          exact getLast?_messagesAlone (getLast?_log_relation_of_accepted found) _
      | refused =>
          rw [bind_of_refused found]
          exact getLast?_messagesAlone (getLast?_log_relation_of_refused found) _
      | tooDeep => exact absurd found ((plain_relation countable).settles head)
  | @followed first connective moved behind accepted stands log_eq ending_eq =>
      refine ⟨_, log_eq, ?_⟩
      rw [ending_eq] at unstopped ⊢
      cases found : (next behind).ending with
      | accepted rest last =>
          cases connective <;>
            simp [messagesOfRetry, connectiveMessage, lastMessage?, Ending.behind,
              Condition.construct]
      | refused =>
          exact getLast?_messagesOfRetry (getLast?_log_relation_of_accepted accepted) _ _ _
      | tooDeep =>
          rw [found] at unstopped
          exact absurd rfl unstopped

section Stopped

variable {construct : Construct} {offset : Nat} {connective : Connective}

variable (countable head connective) in
/-- Nothing with a connective passes in front of a connective. -/
theorem not_mem_messagesInFront (joins : construct.joins = true) (finding : Finding) :
    .passed construct offset finding ∉
      messagesInFront (relation countable head).log head.offset connective := by
  have inRelation : .passed construct offset finding ∉ (relation countable head).log := fun mem =>
    not_mem_subjects_relation countable head joins offset (List.mem_filterMap.2 ⟨_, mem, rfl⟩)
  cases connective <;> simp [messagesInFront, inRelation]

/-- In front of a connective there is at most a message about the other one, at the start. -/
theorem eq_of_mem_subjects_messagesInFront {other : Connective}
    (mem : (connectiveConstruct other, offset) ∈
      subjects (messagesInFront (relation countable head).log head.offset connective)) :
    other ≠ connective ∧ offset = head.offset := by
  have inRelation : (connectiveConstruct other, offset) ∉
      subjects (relation countable head).log :=
    not_mem_subjects_relation countable head (by cases other <;> rfl) offset
  cases connective <;> cases other <;>
    simp_all [messagesInFront, connectiveConstruct]

/-- A log in which nothing with a connective has passed, and in which nothing is said about the
connective that stands where a level is opened. -/
structure Unfinished (head : Head) (log : List Event) : Prop where
  not_passed : ∀ construct : Construct, construct.joins = true → ∀ offset finding,
    .passed construct offset finding ∉ log
  unsaid : ∀ opening ∈ openings log, ∃ connective,
    StartsJoined connective (head.ahead.drop (opening - head.offset)) ∧
      (connectiveConstruct connective, opening) ∉ subjects log

theorem startsJoined_of_stands {moved behind : Head} {first : Relation}
    (accepted : (relation countable head).ending = .accepted first moved)
    (stands : StandsBetween connective moved behind) : StartsJoined connective head.ahead := by
  obtain ⟨text, spelled, permitted, passes⟩ := spelled_of_relation accepted
  obtain ⟨before, after, gapBefore, gapAfter, passesConnective⟩ := stands.exists_gaps
  rw [passes.ahead_eq, passesConnective.ahead_eq, List.append_assoc, List.append_assoc]
  exact .intro spelled permitted gapBefore gapAfter

/-- A level is unfinished as long as the condition behind its connective is. -/
theorem Unfinished.level {levels : Nat} {moved behind : Head} {first : Relation}
    (accepted : (relation countable head).ending = .accepted first moved)
    (stands : StandsBetween connective moved behind)
    (unfinished : Unfinished behind (condition countable levels behind).log) :
    Unfinished head (.opened head.offset ::
      (messagesInFront (relation countable head).log head.offset connective ++
        (condition countable levels behind).log ++ [.closed])) := by
  have blockAhead := blockAhead_of_stands accepted stands
  obtain ⟨far, -⟩ := blockAhead.ten_le
  constructor
  · intro construct joins offset finding mem
    have notInside := unfinished.not_passed construct joins offset finding
    simp [not_mem_messagesInFront countable head connective joins finding, notInside] at mem
  · intro opening mem
    have nothing : openings (messagesInFront (relation countable head).log head.offset
        connective) = [] := by
      cases connective <;> simp [messagesInFront, (plain_relation countable).openings_eq_nil head]
    simp only [openings_opened, openings_append, nothing, openings_closed, openings_nil,
      List.nil_append, List.append_nil, List.mem_cons] at mem
    simp only [subjects_opened, subjects_append, subjects_closed, subjects_nil, List.append_nil,
      List.mem_append, not_or]
    rcases mem with rfl | mem
    · refine ⟨connective, ?_, fun said => (eq_of_mem_subjects_messagesInFront said).1 rfl,
        fun said => ?_⟩
      · rw [Nat.sub_self, List.drop_zero]
        exact startsJoined_of_stands accepted stands
      · have bounds := offset_le_of_mem_subjects_condition countable levels behind said
        omega
    · obtain ⟨other, starts, unsaid⟩ := unfinished.unsaid opening mem
      have behindConnective := ((openings_condition countable levels behind).2 opening mem).1
      obtain ⟨block, -, passes⟩ := blockAhead.exists_block
      rw [← passes.drop behindConnective] at starts
      refine ⟨other, starts, fun said => ?_, unsaid⟩
      have same := (eq_of_mem_subjects_messagesInFront said).2
      omega

end Stopped

/-- A reading that is stopped leaves an unfinished log. -/
theorem unfinished_of_tooDeep (countable : Bool) (levels : Nat) (head : Head)
    (stopped : (condition countable levels head).ending = .tooDeep) :
    Unfinished head (condition countable levels head).log := by
  induction levels generalizing head with
  | zero => exact ⟨nofun, nofun⟩
  | succ levels ih =>
      rw [condition_succ] at stopped ⊢
      cases level_cases countable (condition countable levels) head with
      | alone log_eq ending_eq =>
          rw [ending_eq] at stopped
          exact absurd stopped (((plain_relation countable).bind fun only =>
            Plain.accept (Condition.relation only)).settles head)
      | @followed first connective moved behind accepted stands log_eq ending_eq =>
          rw [ending_eq, Ending.behind_eq_tooDeep_iff] at stopped
          have noRetry : messagesOfRetry (relation countable head).log head.offset connective
              .tooDeep = [] := by cases connective <;> rfl
          rw [stopped, noRetry, connectiveMessage, List.append_nil, List.append_nil] at log_eq
          rw [log_eq]
          exact Unfinished.level accepted stands (ih behind stopped)

end Reader

/-- The construct of a condition is that of its first connective, if it has one. -/
theorem Condition.construct_eq_connectiveConstruct_iff (chain : Condition)
    (connective : Connective) :
    chain.construct = Reader.connectiveConstruct connective ↔
      ∃ first rest, chain = .joined first connective rest := by
  cases chain with
  | relation only => cases only <;> cases connective <;> simp [construct, Relation.construct,
      Reader.connectiveConstruct]
  | joined first other rest => cases other <;> cases connective <;> simp [construct,
      Reader.connectiveConstruct]

theorem Condition.construct_mem (chain : Condition) :
    chain.construct ∈
      [Construct.conjunction, .disjunction, .equality, .membership, .within] := by
  cases chain with
  | relation only => cases only <;> simp [construct, Relation.construct]
  | joined first connective rest =>
      cases connective <;> simp [construct, Reader.connectiveConstruct]

end Rule

namespace Interpreter

variable {interpreter : Interpreter} {rule line : String} {message : Event}

/-- The trace of a reading that is not stopped ends with the line of its last message. -/
theorem getLast?_trace_read
    (last : lastMessage? 0 (interpreter.attempt rule).ending = some message)
    (isLine : message.line? (interpreter.operand.count.getD 0) = some line) :
    (interpreter.trace (interpreter.read rule).1).getLast? = some line := by
  show (Rule.trace _ (interpreter.attempt rule).log).getLast? = _
  rw [attempt] at last ⊢
  cases levels : interpreter.gate.room with
  | zero =>
      rw [levels] at last
      cases last
  | succ levels' =>
      rw [levels, Reader.condition_succ] at last
      have unstopped : (Reader.level interpreter.operand.count.isSome
          (Reader.condition interpreter.operand.count.isSome levels')
          (Head.start rule.toList)).ending ≠ .tooDeep := by
        intro stopped
        rw [stopped] at last
        cases last
      obtain ⟨messages, log_eq, lastOfMessages⟩ := Reader.exists_messages _ _ _ unstopped
      rw [Reader.condition_succ, log_eq]
      exact getLast?_trace (lastOfMessages.trans last) isLine

/-- A rule that is neither judged nor stopped is refused. -/
theorem refused_of_unread (unread : (interpreter.read rule).1.reply = .unread) :
    (interpreter.attempt rule).ending = .refused := by
  cases found : (interpreter.attempt rule).ending with
  | accepted chain head =>
      obtain ⟨n, isCount⟩ := Option.isSome_iff_exists.1 (Reader.countable_of_condition found)
      have judged := reply_judged_iff.2 ⟨n, chain, head, isCount, found, rfl, rfl⟩
      exact nomatch unread.symm.trans judged
  | refused => rfl
  | tooDeep => exact nomatch unread.symm.trans (reply_tooDeep_iff.2 ⟨found, rfl⟩)

end Interpreter

/-- The trace agrees with the answer.  Its last line says as what the rule was read and
what its truth is, or that the last form of a relation failed; all lines are about places on the
rule; and if the reading is stopped, nothing is said about the connective of any level. -/
theorem trace_agrees (interpreter : Interpreter) (rule : String) :
    let reading := (interpreter.read rule).1
    let lines := interpreter.trace reading
    (∀ truth reached, reading.reply = .judged truth reached →
      ∃ (construct : Construct) (chain : Condition) (stop : Nat),
        reached = ⟨rule.toList, stop⟩ ∧
        construct ∈ [Construct.conjunction, .disjunction, .equality, .membership, .within] ∧
        lines.getLast? =
          some (s!"passed {construct.name} at 0: " ++ if truth then "True" else "False") ∧
        (∀ other : Condition, other.SpelledBy (rule.toList.take stop) ∧
          other.Permitted ↔ other = chain) ∧
        (construct = .conjunction ↔ ∃ first rest, chain = .joined first .both rest) ∧
        (construct = .disjunction ↔ ∃ first rest, chain = .joined first .either rest)) ∧
    (reading.reply = .unread → lines.getLast? = some "failed within at 0") ∧
    (∀ line ∈ lines, ∃ construct offset, IsLineAbout construct offset line ∧
      offset ≤ rule.toList.length) ∧
    ∀ limit, reading.reply = .tooDeep limit →
      (∀ (connective : Connective) (offset : Nat) (shown : String),
        s!"passed {(Reader.connectiveConstruct connective).name} at {offset}: {shown}" ∉ lines) ∧
      ∀ opening ∈ openings reading.log, ∃ connective,
        StartsJoined connective (rule.toList.drop opening) ∧
        ∀ line ∈ lines, ¬ IsLineAbout (Reader.connectiveConstruct connective) opening line := by
  intro reading lines
  refine ⟨?_, ?_, ?_, ?_⟩
  · intro truth reached judged
    obtain ⟨n, chain, head, isCount, accepted, rfl, rfl⟩ := Interpreter.reply_judged_iff.1 judged
    obtain ⟨text, spelled, permitted, -, whole, offset⟩ := Interpreter.spelled_of_accepted accepted
    have prefixed : rule.toList.take head.offset = text := by
      rw [whole, offset, List.take_left]
    refine ⟨chain.construct, chain, head.offset, rfl, chain.construct_mem, ?_, ?_,
      chain.construct_eq_connectiveConstruct_iff .both,
      chain.construct_eq_connectiveConstruct_iff .either⟩
    · apply Interpreter.getLast?_trace_read (by rw [accepted]; rfl)
      have atStart : " at 0: " = " at " ++ (Nat.repr 0 ++ ": ") := rfl
      simp [isCount, Event.line?, Finding.shown, toString, String.append_assoc, atStart]
    · rw [prefixed]
      intro other
      constructor
      · rintro ⟨spelledToo, permittedToo⟩
        exact spelledToo.unique permittedToo spelled permitted
      · rintro rfl
        exact ⟨spelled, permitted⟩
  · intro unread
    apply Interpreter.getLast?_trace_read (by rw [Interpreter.refused_of_unread unread]; rfl)
    rfl
  · intro line mem
    obtain ⟨construct, offset, inLog, isLine⟩ := exists_mem_subjects_of_mem_trace mem
    have bounds := (Reader.offset_le_of_mem_subjects_condition _ _ _ inLog).2
    exact ⟨construct, offset, isLine, by simpa [Head.start] using bounds⟩
  · intro limit stopped
    have unfinished : Reader.Unfinished (Head.start rule.toList) (interpreter.attempt rule).log :=
      Reader.unfinished_of_tooDeep _ _ _ (Interpreter.reply_tooDeep_iff.1 stopped).1
    constructor
    · intro connective offset shown mem
      obtain ⟨finding, inLog⟩ := exists_passed_of_mem_trace mem
      exact unfinished.not_passed _ (by cases connective <;> rfl) offset finding inLog
    · intro opening mem
      obtain ⟨connective, starts, unsaid⟩ := unfinished.unsaid opening mem
      refine ⟨connective, starts, fun line inTrace isLine => unsaid ?_⟩
      change line ∈ trace _ (interpreter.attempt rule).log at inTrace
      exact mem_subjects_of_isLineAbout inTrace isLine

end PluralForms
