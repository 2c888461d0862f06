/-
# How many messages a relation leaves

Messages are counted from word to word: two constructs in a row, or two readings of one text,
leave no more than both of them together, and a logged construct leaves one more.  A relation
is tried in three forms, each of which reads its expression anew.  This would come to fourteen
messages, but the word that leads a membership to its interval is not the one that leads to
what lies within, so one of the two forms never logs an interval and thirteen are left.

The last message of a relation says what became of it: the form that passed, or the last form,
which failed.
-/

import PluralForms.Proofs.Reader.Logging
import PluralForms.Proofs.Spelling.Chain
import PluralForms.Proofs.Spelling.Outcome

namespace PluralForms.Rule.Reader

open Text

variable {α β : Type}

/-- The reader leaves so many messages at most, and none about a condition with a
connective. -/
structure Modest (reader : Reader α) (most : Nat) : Prop where
  length_le : ∀ head, (reader head).log.length ≤ most
  joins_eq_false : ∀ head, ∀ about ∈ subjects (reader head).log, about.1.joins = false

section Composed

variable {first second reader : Reader α} {next : α → Reader β} {most more : Nat}

theorem Modest.bind (modest : Modest first most) (modestNext : ∀ value, Modest (next value) more) :
    Modest (first >>= next) (most + more) := by
  constructor <;> intro head
  · have few := modest.length_le head
    cases found : (first head).ending with
    | accepted value between =>
        have fewNext := (modestNext value).length_le between
        rw [log_bind_of_accepted found, List.length_append]
        omega
    | refused =>
        rw [log_bind_of_refused found]
        omega
    | tooDeep =>
        rw [log_bind_of_tooDeep found]
        omega
  · intro about mem
    obtain ⟨event, inLog, isAbout⟩ := List.mem_filterMap.1 mem
    rcases mem_log_bind inLog with inFirst | ⟨value, between, -, inNext⟩
    · exact modest.joins_eq_false head about (List.mem_filterMap.2 ⟨event, inFirst, isAbout⟩)
    · exact (modestNext value).joins_eq_false between about
        (List.mem_filterMap.2 ⟨event, inNext, isAbout⟩)

theorem Modest.orElse (modest : Modest first most) (modestToo : Modest second more) :
    Modest (first <|> second) (most + more) := by
  constructor <;> intro head
  · exact length_log_orElse_le.trans
      (Nat.add_le_add (modest.length_le head) (modestToo.length_le head))
  · intro about mem
    obtain ⟨event, inLog, isAbout⟩ := List.mem_filterMap.1 mem
    rcases mem_log_orElse inLog with inFirst | inSecond
    · exact modest.joins_eq_false head about (List.mem_filterMap.2 ⟨event, inFirst, isAbout⟩)
    · exact modestToo.joins_eq_false head about (List.mem_filterMap.2 ⟨event, inSecond, isAbout⟩)

theorem Modest.logged (modest : Modest reader most) {construct : Construct}
    (finding : α → Finding) (single : construct.joins = false) :
    Modest (logged construct finding reader) (most + 1) := by
  constructor <;> intro head
  · exact (length_log_logged_le construct finding).trans
      (Nat.add_le_add_right (modest.length_le head) 1)
  · intro about mem
    obtain ⟨event, inLog, isAbout⟩ := List.mem_filterMap.1 mem
    rcases mem_log_logged construct finding inLog with inReader | isMessage
    · exact modest.joins_eq_false head about (List.mem_filterMap.2 ⟨event, inReader, isAbout⟩)
    · obtain rfl := Option.some.inj (isMessage.symm.trans isAbout)
      exact single

/-- A reader that logs nothing is modest. -/
theorem modest_of_silent (nothing : ∀ head, (reader head).log = []) : Modest reader 0 := by
  constructor <;> intro head
  · rw [nothing head]
    exact Nat.le_refl 0
  · rw [nothing head]
    exact nofun

theorem modest_accept (value : α) : Modest (accept value) 0 :=
  modest_of_silent fun _ => rfl

theorem modest_reject (fault : Fault) : Modest (reject fault : Reader α) 0 :=
  modest_of_silent fun _ => rfl

/-- What is read in front without a message does not count. -/
theorem Modest.behind {next : α → Reader β} (modestNext : ∀ value, Modest (next value) more)
    (modest : Modest first 0) : Modest (first >>= next) more := by
  simpa only [Nat.zero_add] using modest.bind modestNext

/-- What is read behind without a message does not count. -/
theorem Modest.before (modest : Modest first most) (modestNext : ∀ value, Modest (next value) 0) :
    Modest (first >>= next) most :=
  modest.bind modestNext

theorem Modest.behind_word {next : Unit → Reader α} (modest : Modest (next ()) most)
    (expected : Word) : Modest (word expected >>= next) most :=
  Modest.behind (fun _ => modest) (modest_of_silent (log_word expected))

theorem Modest.behind_blanks {next : Unit → Reader α} (modest : Modest (next ()) most) :
    Modest (blanks >>= next) most :=
  Modest.behind (fun _ => modest) (modest_of_silent log_blanks)

theorem Modest.behind_numeral {next : Nat → Reader α} (modest : ∀ value, Modest (next value) most) :
    Modest (numeral >>= next) most :=
  Modest.behind modest (modest_of_silent log_numeral)

/-- A word between blanks leaves no message. -/
theorem Modest.spaced (modest : Modest reader most) (expected : Word) :
    Modest (do blanks; word expected; blanks; reader) most := by
  apply Modest.behind_blanks
  apply Modest.behind_word
  exact modest.behind_blanks

end Composed

section Constructs

variable (countable : Bool)

theorem modest_count : Modest (count countable) 1 := by
  apply Modest.logged _ _ rfl
  apply Modest.behind_word
  split
  · exact modest_accept _
  · exact modest_reject _

theorem modest_remainder : Modest (remainder countable) 2 := by
  apply Modest.logged _ _ rfl
  apply (modest_count countable).before
  intro _
  apply Modest.spaced
  apply Modest.behind_numeral
  intro divisor
  split
  · exact modest_reject _
  · exact modest_accept _

theorem modest_expression : Modest (expression countable) 3 :=
  (modest_remainder countable).orElse (modest_count countable)

theorem modest_interval : Modest interval 1 := by
  apply Modest.logged _ _ rfl
  apply Modest.behind_numeral
  intro first
  apply Modest.behind_word
  apply Modest.behind_numeral
  intro last
  dsimp only
  split
  · exact modest_reject _
  · exact modest_accept _

theorem modest_denial : Modest denial 0 :=
  ((modest_accept true).behind_word .denial).behind_blanks.orElse (modest_accept false)

/-- What an equality goes on with behind its expression. -/
def equalityBehind (subject : Expression) : Reader Relation := do
  blanks
  word .equals
  let denied ← denial
  blanks
  let value ← numeral
  accept (.equality subject denied value)

/-- What a membership goes on with behind its expression. -/
def membershipBehind (subject : Expression) : Reader Relation := do
  let denied ← denial
  blanks
  word .member
  blanks
  let bounds ← interval
  accept (.membership subject denied bounds)

/-- What goes on behind an expression that lies within an interval. -/
def withinBehind (subject : Expression) : Reader Relation := do
  blanks
  word .within
  blanks
  let bounds ← interval
  accept (.within subject bounds)

theorem modest_equalityBehind (subject : Expression) : Modest (equalityBehind subject) 0 := by
  apply Modest.behind_blanks
  apply Modest.behind_word
  apply modest_denial.before
  intro denied
  apply Modest.behind_blanks
  apply Modest.behind_numeral
  exact fun _ => modest_accept _

theorem modest_membershipBehind (subject : Expression) :
    Modest (membershipBehind subject) 1 :=
  Modest.behind (fun _ => (modest_interval.before fun _ => modest_accept _).spaced _)
    modest_denial

theorem modest_withinBehind (subject : Expression) : Modest (withinBehind subject) 1 :=
  (modest_interval.before fun _ => modest_accept _).spaced _

theorem modest_equality : Modest (equality countable) 4 :=
  ((modest_expression countable).before modest_equalityBehind).logged _ rfl

theorem modest_membership : Modest (membership countable) 5 :=
  ((modest_expression countable).bind modest_membershipBehind).logged _ rfl

theorem modest_within : Modest (within countable) 5 :=
  ((modest_expression countable).bind modest_withinBehind).logged _ rfl

/-- An interval is reached behind the word of a membership or behind `within`, never behind
both. -/
theorem membershipBehind_or_withinBehind_silent (subject : Expression) (head : Head) :
    (membershipBehind subject head).log = [] ∨ (withinBehind subject head).log = [] := by
  rcases spaced_cases .within
    (interval >>= fun bounds => accept (Relation.within subject bounds)) head with
    refused | ⟨before, after, behind, gapBefore, -, -, ⟨ahead_eq, -⟩, -⟩
  · right
    exact congrArg Attempt.log refused
  left
  have clear : ClearOf isBlank (Word.within.letters ++ (after ++ behind.ahead)) :=
    clearOf_isBlank_word .within _
  have undenied := takes_denial .absent gapBefore clear (by simp [Word.letters])
  have same : head.ahead = before ++ (Word.within.letters ++ (after ++ behind.ahead)) := by
    simpa using ahead_eq
  rw [List.nil_append, ← same] at undenied
  have accepted : (denial head).ending = .accepted false head := by
    simpa using undenied.ending head.offset
  have noDenial : (denial head).log = [] :=
    List.eq_nil_of_length_eq_zero (Nat.le_zero.1 (modest_denial.length_le head))
  rw [membershipBehind, log_bind_of_accepted accepted, noDenial, List.nil_append]
  rcases spaced_cases .member
    (interval >>= fun bounds => accept (Relation.membership subject false bounds)) head with
    refused | ⟨before', after', behind', gapBefore', -, -, ⟨ahead_eq', -⟩, -⟩
  · exact congrArg Attempt.log refused
  · have clear' : ClearOf isBlank (Word.member.letters ++ (after' ++ behind'.ahead)) :=
      clearOf_isBlank_word .member _
    have same' : head.ahead = before' ++ (Word.member.letters ++ (after' ++ behind'.ahead)) := by
      simpa using ahead_eq'
    obtain ⟨-, sameWord⟩ := gap_append_inj gapBefore gapBefore' clear clear' (same.symm.trans same')
    simp [Word.letters] at sameWord

/-- A form of a relation leaves the messages of its expression, those behind it, and one
more. -/
theorem length_log_form_le {countable : Bool} {construct : Construct} {head moved : Head}
    {subject : Expression} (next : Expression → Reader Relation)
    (accepted : (expression countable head).ending = .accepted subject moved) :
    (logged construct relationFinding (expression countable >>= next) head).log.length ≤
      3 + (next subject moved).log.length + 1 := by
  have few := (modest_expression countable).length_le head
  have one : (logged construct relationFinding (expression countable >>= next) head).log.length ≤
      ((expression countable >>= next) head).log.length + 1 :=
    length_log_logged_le construct relationFinding
  rw [log_bind_of_accepted accepted, List.length_append] at one
  omega

/-- A relation leaves thirteen messages at most. -/
theorem modest_relation : Modest (relation countable) 13 := by
  have loose := (modest_equality countable).orElse
    ((modest_membership countable).orElse (modest_within countable))
  refine ⟨fun head => ?_, loose.joins_eq_false⟩
  have forms : (relation countable head).log.length ≤ (equality countable head).log.length +
      ((membership countable head).log.length + (within countable head).log.length) :=
    length_log_orElse_le.trans (Nat.add_le_add_left length_log_orElse_le _)
  have fewEquality := (modest_equality countable).length_le head
  cases found : (expression countable head).ending with
  | accepted subject moved =>
      have fewMembership : (membership countable head).log.length ≤ _ :=
        length_log_form_le membershipBehind found
      have fewWithin : (within countable head).log.length ≤ _ :=
        length_log_form_le withinBehind found
      have oneMembership := (modest_membershipBehind subject).length_le moved
      have oneWithin := (modest_withinBehind subject).length_le moved
      rcases membershipBehind_or_withinBehind_silent subject moved with silent | silent
      · rw [silent, List.length_nil] at fewMembership
        omega
      · rw [silent, List.length_nil] at fewWithin
        omega
  | refused =>
      have few := (modest_expression countable).length_le head
      have fewMembership : (membership countable head).log.length ≤ _ :=
        length_log_logged_le .membership relationFinding
      have fewWithin : (within countable head).log.length ≤ _ :=
        length_log_logged_le .within relationFinding
      rw [log_bind_of_refused found] at fewMembership fewWithin
      omega
  | tooDeep => exact absurd found ((plain_expression countable).settles head)

end Constructs

section Last

variable {countable : Bool} {head moved : Head} {only : Relation}

/-- A construct that is accepted says so in its last message. -/
theorem getLast?_log_logged_of_accepted {reader : Reader α} {value : α} (construct : Construct)
    (finding : α → Finding) (accepted : (reader head).ending = .accepted value moved) :
    (logged construct finding reader head).log.getLast? =
      some (.passed construct head.offset (finding value)) := by
  rw [log_logged_of_accepted construct finding accepted, List.getLast?_concat]

theorem getLast?_log_orElse {first second : Reader α} {message : Event}
    (refused : (first head).ending = .refused)
    (last : (second head).log.getLast? = some message) :
    ((first <|> second) head).log.getLast? = some message := by
  rw [log_orElse_of_refused refused, List.getLast?_append, last]
  rfl

/-- Whatever the reader accepts has the property. -/
structure Yields (reader : Reader α) (property : α → Prop) : Prop where
  of_accepted : ∀ {head value moved}, (reader head).ending = .accepted value moved → property value

theorem yields_accept {property : α → Prop} {value : α} (has : property value) :
    Yields (accept value) property := by
  constructor
  intro head found moved accepted
  cases accepted
  exact has

/-- What is accepted in a row is what the last reader accepts. -/
theorem Yields.behind {first : Reader α} {next : α → Reader β} {property : β → Prop}
    (yields : ∀ value, Yields (next value) property) : Yields (first >>= next) property := by
  constructor
  intro head result moved accepted
  obtain ⟨value, between, -, nextRead⟩ := bind_accepted_iff.1 accepted
  exact (yields value).of_accepted nextRead

theorem Yields.logged {reader : Reader α} {property : α → Prop} (yields : Yields reader property)
    (construct : Construct) (finding : α → Finding) :
    Yields (logged construct finding reader) property := by
  constructor
  intro head value moved accepted
  rw [ending_logged] at accepted
  exact yields.of_accepted accepted

theorem yields_equality : Yields (equality countable) fun only => only.construct = .equality := by
  apply Yields.logged
  apply Yields.behind
  intro subject
  exact .behind fun _ => .behind fun _ => .behind fun _ => .behind fun _ => .behind fun _ =>
    yields_accept rfl

theorem yields_membership :
    Yields (membership countable) fun only => only.construct = .membership := by
  apply Yields.logged
  apply Yields.behind
  intro subject
  exact .behind fun _ => .behind fun _ => .behind fun _ => .behind fun _ => .behind fun _ =>
    yields_accept rfl

theorem yields_within : Yields (within countable) fun only => only.construct = .within := by
  apply Yields.logged
  apply Yields.behind
  intro subject
  exact .behind fun _ => .behind fun _ => .behind fun _ => .behind fun _ => yields_accept rfl

/-- The last message of a relation that is read tells its form and what was read. -/
theorem getLast?_log_relation_of_accepted
    (accepted : (relation countable head).ending = .accepted only moved) :
    (relation countable head).log.getLast? =
      some (.passed only.construct head.offset (.truth (.relation only))) := by
  rcases orElse_accepted_iff.1 accepted with equalityRead | ⟨noEquality, accepted⟩
  · have whole : relation countable head = equality countable head :=
      orElse_of_accepted equalityRead
    rw [whole, yields_equality.of_accepted equalityRead]
    rw [equality, ending_logged] at equalityRead
    exact getLast?_log_logged_of_accepted _ _ equalityRead
  apply getLast?_log_orElse noEquality
  rcases orElse_accepted_iff.1 accepted with membershipRead | ⟨noMembership, withinRead⟩
  · have rest : (membership countable <|> within countable) head = membership countable head :=
      orElse_of_accepted membershipRead
    rw [rest, yields_membership.of_accepted membershipRead]
    rw [membership, ending_logged] at membershipRead
    exact getLast?_log_logged_of_accepted _ _ membershipRead
  · apply getLast?_log_orElse noMembership
    rw [yields_within.of_accepted withinRead]
    rw [within, ending_logged] at withinRead
    exact getLast?_log_logged_of_accepted _ _ withinRead

/-- A choice is refused where both of its readings are, and the second one is the last to be
tried. -/
theorem orElse_refused_iff {first second : Reader α} :
    ((first <|> second) head).ending = .refused ↔
      (first head).ending = .refused ∧ (second head).ending = .refused := by
  cases found : (first head).ending with
  | accepted value between => simp [orElse_of_accepted found, found]
  | refused => simp [orElse_of_refused found, Attempt.after]
  | tooDeep => simp [orElse_of_tooDeep found, found]

/-- Where no relation is read, the last form of a relation is the last to fail. -/
theorem getLast?_log_relation_of_refused
    (refused : (relation countable head).ending = .refused) :
    (relation countable head).log.getLast? = some (.failed .within head.offset) := by
  obtain ⟨noEquality, others⟩ := orElse_refused_iff.1 refused
  obtain ⟨noMembership, noWithin⟩ := orElse_refused_iff.1 others
  apply getLast?_log_orElse noEquality
  apply getLast?_log_orElse noMembership
  rw [within, ending_logged] at noWithin
  rw [within, log_logged_of_refused _ _ noWithin, List.getLast?_concat]

end Last

end PluralForms.Rule.Reader
