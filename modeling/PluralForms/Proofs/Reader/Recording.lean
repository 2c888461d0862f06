/-
# Every fault on the way

An attempt leaves the latest fault only, so it cannot tell how many different
faults were met before.  A recorder reads as a reader does, but it keeps no log
and writes down every fault that it meets, also those met by a reading of the text
that was given up for another one.

There is a recorder for each construct of a rule.  It ends as the reader does, and
the last of the faults that it wrote down is the fault that the reader leaves.
Which faults are written down can be told from the parts of a recorder: a fault
belongs to two constructs in a row, or to two readings of one text, exactly if it
belongs to a part that is reached.
-/

import PluralForms.Proofs.Reader.Ending
import PluralForms.Proofs.Reader.Token
import PluralForms.Rule.Reading

namespace PluralForms.Rule

open Text

/-- What was met while reading: the faults, the earliest first, and the ending. -/
structure Account (α : Type) where
  faults : List Fault
  ending : Ending α

/-- A way to recognise a construct that writes down every fault. -/
def Recorder (α : Type) : Type := Head → Account α

namespace Recorder

variable {α β : Type}

/-- Reads as a reader does that never leaves a fault. -/
def quiet (reader : Reader α) : Recorder α :=
  fun head => ⟨[], (reader head).ending⟩

/-- Refuses a construct that was spelled correctly. -/
def reject (fault : Fault) : Recorder α :=
  fun _ => ⟨[fault], .refused⟩

/-- Reads on where the first recorder left off. -/
def andThen (first : Recorder α) (next : α → Recorder β) : Recorder β :=
  fun head =>
    let earlier := first head
    match earlier.ending with
    | .accepted value moved =>
        let later := next value moved
        ⟨earlier.faults ++ later.faults, later.ending⟩
    | .refused => ⟨earlier.faults, .refused⟩
    | .tooDeep => ⟨earlier.faults, .tooDeep⟩

instance : Monad Recorder where
  pure value := quiet (Reader.accept value)
  bind := andThen

/-- Tries another reading of the same text if the first one refuses it. -/
def orElse (first : Recorder α) (second : Unit → Recorder α) : Recorder α :=
  fun head =>
    let earlier := first head
    match earlier.ending with
    | .accepted _ _ => earlier
    | .refused =>
        let later := second () head
        ⟨earlier.faults ++ later.faults, later.ending⟩
    | .tooDeep => earlier

instance : OrElse (Recorder α) where
  orElse := orElse

section Constructs

variable (countable : Bool)

/-- Reads the word for the count. -/
def count : Recorder Expression := do
  quiet (Reader.word .count)
  if countable then pure .count else reject .noCount

/-- Reads the remainder of a division. -/
def remainder : Recorder Expression := do
  let _ ← count countable
  quiet Reader.blanks
  quiet (Reader.word .modulo)
  quiet Reader.blanks
  let divisor ← quiet Reader.numeral
  if divisor = 0 then reject .zeroDivisor else pure (.remainder divisor)

/-- Reads an expression. -/
def expression : Recorder Expression :=
  remainder countable <|> count countable

/-- Reads the two bounds of an interval. -/
def interval : Recorder Interval := do
  let first ← quiet Reader.numeral
  quiet (Reader.word .upTo)
  let last ← quiet Reader.numeral
  if Interval.mostMembers < (Interval.mk first last).size then reject (.oversized ⟨first, last⟩)
  else pure ⟨first, last⟩

/-- Reads an equality. -/
def equality : Recorder Relation := do
  let subject ← expression countable
  quiet Reader.blanks
  quiet (Reader.word .equals)
  let denied ← quiet Reader.denial
  quiet Reader.blanks
  let value ← quiet Reader.numeral
  pure (.equality subject denied value)

/-- Reads a membership. -/
def membership : Recorder Relation := do
  let subject ← expression countable
  let denied ← quiet Reader.denial
  quiet Reader.blanks
  quiet (Reader.word .member)
  quiet Reader.blanks
  let bounds ← interval
  pure (.membership subject denied bounds)

/-- Reads that an expression lies within an interval. -/
def within : Recorder Relation := do
  let subject ← expression countable
  quiet Reader.blanks
  quiet (Reader.word .within)
  quiet Reader.blanks
  let bounds ← interval
  pure (.within subject bounds)

/-- Reads a single relation. -/
def relation : Recorder Relation :=
  equality countable <|> membership countable <|> within countable

/-- Reads a relation, a connective, and what the connective joins to it. -/
def joined (connective : Connective) (rest : Recorder Condition) : Recorder Condition := do
  let first ← relation countable
  quiet Reader.blanks
  quiet (Reader.word (Reader.connectiveWord connective))
  quiet Reader.blanks
  let joinedTo ← rest
  pure (.joined first connective joinedTo)

/-- Reads a condition with room for so many levels of nesting. -/
def condition : Nat → Recorder Condition
  | 0 => quiet Reader.giveUp
  | levels + 1 =>
      let rest : Recorder Condition := fun head => condition levels head
      joined countable .both rest <|>
      joined countable .either rest <|>
      (do let only ← relation countable; pure (.relation only))

end Constructs

/-- The recorder ends as the reader does, and writes down last what the reader
leaves. -/
def Follows (recorder : Recorder α) (reader : Reader α) : Prop :=
  ∀ head, (recorder head).ending = (reader head).ending ∧
    (recorder head).faults.getLast? = (reader head).fault

section Composed

variable {recorder first second : Recorder α} {reader first' second' : Reader α}
variable {next : α → Recorder β} {next' : α → Reader β} {head : Head} {fault : Fault}

theorem follows_quiet (noFault : ∀ head, (reader head).fault = none) :
    Follows (quiet reader) reader :=
  fun head => ⟨rfl, (noFault head).symm⟩

theorem follows_pure (value : α) : Follows (pure value) (Reader.accept value) :=
  follows_quiet fun _ => rfl

theorem follows_reject (fault : Fault) :
    Follows (reject fault : Recorder α) (Reader.reject fault) :=
  fun _ => ⟨rfl, rfl⟩

theorem Follows.bind (follows : Follows first first')
    (followsNext : ∀ value, Follows (next value) (next' value)) :
    Follows (first >>= next) (first' >>= next') := by
  intro head
  obtain ⟨ending, fault⟩ := follows head
  show (andThen first next head).ending = _ ∧ (andThen first next head).faults.getLast? = _
  cases found : (first' head).ending with
  | accepted value moved =>
      obtain ⟨endingNext, faultNext⟩ := followsNext value moved
      rw [Reader.bind_of_accepted found]
      simp [andThen, Attempt.after, ending, fault, found, endingNext, faultNext,
        List.getLast?_append]
  | refused =>
      rw [Reader.bind_of_refused found]
      simp [andThen, Attempt.after, ending, fault, found]
  | tooDeep =>
      rw [Reader.bind_of_tooDeep found]
      simp [andThen, Attempt.after, ending, fault, found]

theorem Follows.orElse (follows : Follows first first') (followsToo : Follows second second') :
    Follows (first <|> second) (first' <|> second') := by
  intro head
  obtain ⟨ending, fault⟩ := follows head
  obtain ⟨endingToo, faultToo⟩ := followsToo head
  show (Recorder.orElse first (fun _ => second) head).ending = _ ∧
    (Recorder.orElse first (fun _ => second) head).faults.getLast? = _
  cases found : (first' head).ending with
  | accepted value moved =>
      rw [Reader.orElse_of_accepted found]
      simp [Recorder.orElse, ending, fault, found]
  | refused =>
      rw [Reader.orElse_of_refused found]
      simp [Recorder.orElse, Attempt.after, ending, fault, found, endingToo, faultToo,
        List.getLast?_append]
  | tooDeep =>
      rw [Reader.orElse_of_tooDeep found]
      simp [Recorder.orElse, ending, fault, found]

theorem Follows.logged (follows : Follows recorder reader) (construct : Construct)
    (finding : α → Finding) : Follows recorder (Reader.logged construct finding reader) := by
  intro head
  rw [Reader.ending_logged, Reader.fault_logged]
  exact follows head

@[simp]
theorem not_mem_faults_quiet (reader : Reader α) : fault ∉ (quiet reader head).faults :=
  List.not_mem_nil

@[simp]
theorem not_mem_faults_pure (value : α) : fault ∉ ((pure value : Recorder α) head).faults :=
  List.not_mem_nil

@[simp]
theorem mem_faults_reject {rejected : Fault} :
    fault ∈ (reject rejected head : Account α).faults ↔ fault = rejected :=
  List.mem_singleton

/-- A fault of two constructs in a row belongs to the first one, or to the second
one where the first one ended. -/
theorem mem_faults_bind :
    fault ∈ ((first >>= next) head).faults ↔ fault ∈ (first head).faults ∨
      ∃ value moved, (first head).ending = .accepted value moved ∧
        fault ∈ (next value moved).faults := by
  show fault ∈ (andThen first next head).faults ↔ _
  cases found : (first head).ending <;> simp [andThen, found, and_assoc]

/-- A fault behind a part without faults. -/
theorem mem_faults_quiet_bind {reader : Reader α} :
    fault ∈ ((quiet reader >>= next) head).faults ↔
      ∃ value moved, (reader head).ending = .accepted value moved ∧
        fault ∈ (next value moved).faults := by
  simp [mem_faults_bind, quiet]

/-- A fault of two readings of a text belongs to the first one, or to the second one
if the first one is refused. -/
theorem mem_faults_orElse :
    fault ∈ ((first <|> second) head).faults ↔ fault ∈ (first head).faults ∨
      (first head).ending = .refused ∧ fault ∈ (second head).faults := by
  show fault ∈ (Recorder.orElse first (fun _ => second) head).faults ↔ _
  cases found : (first head).ending <;> simp [Recorder.orElse, found]

/-- A fault behind a word between blanks. -/
theorem exists_gaps_of_mem_faults {expected : Word} {next : Recorder α}
    (met : fault ∈ ((do quiet Reader.blanks; quiet (Reader.word expected); quiet Reader.blanks
                        next : Recorder α) head).faults) :
    ∃ before after behind, IsGap before ∧ IsGap after ∧ ClearOf isBlank behind.ahead ∧
      head.Passes (before ++ (expected.letters ++ after)) behind ∧
      fault ∈ (next behind).faults := by
  obtain ⟨_, _, gapRead, met⟩ := mem_faults_quiet_bind.1 met
  obtain ⟨_, _, wordRead, met⟩ := mem_faults_quiet_bind.1 met
  obtain ⟨_, behind, gapRead', met⟩ := mem_faults_quiet_bind.1 met
  obtain ⟨before, gapBefore, -, passesBefore⟩ := Reader.blanks_accepted_iff.1 gapRead
  obtain ⟨after, gapAfter, clear, passesAfter⟩ := Reader.blanks_accepted_iff.1 gapRead'
  exact ⟨before, after, behind, gapBefore, gapAfter, clear,
    passesBefore.trans ((Reader.word_accepted_iff.1 wordRead).trans passesAfter), met⟩

end Composed

section Grammar

variable (countable : Bool)

theorem follows_word (expected : Word) :
    Follows (quiet (Reader.word expected)) (Reader.word expected) :=
  follows_quiet (Reader.fault_word expected)

theorem follows_blanks : Follows (quiet Reader.blanks) Reader.blanks :=
  follows_quiet Reader.fault_blanks

theorem follows_numeral : Follows (quiet Reader.numeral) Reader.numeral :=
  follows_quiet Reader.fault_numeral

theorem follows_denial : Follows (quiet Reader.denial) Reader.denial := by
  apply follows_quiet
  intro head
  apply Reader.fault_orElse_eq_none _ rfl
  apply Reader.fault_bind_eq_none (Reader.fault_blanks head)
  intro _ between
  exact Reader.fault_bind_eq_none (Reader.fault_word .denial between) fun _ _ => rfl

/-- Recorders of what stands behind the same word between blanks. -/
theorem Follows.spaced {next : Recorder α} {next' : Reader α} (follows : Follows next next')
    (expected : Word) :
    Follows (do quiet Reader.blanks; quiet (Reader.word expected); quiet Reader.blanks; next)
      (do Reader.blanks; Reader.word expected; Reader.blanks; next') :=
  follows_blanks.bind fun _ => (follows_word expected).bind fun _ => follows_blanks.bind fun _ =>
    follows

theorem follows_count : Follows (count countable) (Reader.count countable) := by
  apply Follows.logged
  apply (follows_word .count).bind
  intro _
  cases countable with
  | true => exact follows_pure _
  | false => exact follows_reject _

theorem follows_remainder : Follows (remainder countable) (Reader.remainder countable) := by
  apply Follows.logged
  apply (follows_count countable).bind
  intro _
  apply Follows.spaced
  apply follows_numeral.bind
  intro divisor
  split
  · exact follows_reject _
  · exact follows_pure _

theorem follows_expression : Follows (expression countable) (Reader.expression countable) :=
  (follows_remainder countable).orElse (follows_count countable)

theorem follows_interval : Follows interval Reader.interval := by
  apply Follows.logged
  apply follows_numeral.bind
  intro first
  apply (follows_word .upTo).bind
  intro _
  apply follows_numeral.bind
  intro last
  dsimp only
  split
  · exact follows_reject _
  · exact follows_pure _

theorem follows_equality : Follows (equality countable) (Reader.equality countable) := by
  apply Follows.logged
  apply (follows_expression countable).bind
  intro subject
  apply follows_blanks.bind
  intro _
  apply (follows_word .equals).bind
  intro _
  apply follows_denial.bind
  intro denied
  apply follows_blanks.bind
  intro _
  exact follows_numeral.bind fun _ => follows_pure _

theorem follows_membership : Follows (membership countable) (Reader.membership countable) := by
  apply Follows.logged
  apply (follows_expression countable).bind
  intro subject
  apply follows_denial.bind
  intro denied
  apply Follows.spaced
  exact follows_interval.bind fun _ => follows_pure _

theorem follows_within : Follows (within countable) (Reader.within countable) := by
  apply Follows.logged
  apply (follows_expression countable).bind
  intro subject
  apply Follows.spaced
  exact follows_interval.bind fun _ => follows_pure _

theorem follows_relation : Follows (relation countable) (Reader.relation countable) :=
  (follows_equality countable).orElse ((follows_membership countable).orElse
    (follows_within countable))

end Grammar

end Recorder

end PluralForms.Rule
