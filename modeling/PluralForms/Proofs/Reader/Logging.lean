/-
# What readers log

The log of a composite reader is made of the logs of its parts, in the order in which they
are tried.  Tokens log nothing, and a construct adds one message: what it is, where it was
tried, and whether it passed.

A reader that nests nothing therefore leaves messages only, all of them about places on the
text ahead.  A word between gaps leaves none: it is refused where it does not stand, and what
follows it is all that counts where it does.
-/

import PluralForms.Proofs.Reader.Plain
import PluralForms.Proofs.Reader.Token

namespace PluralForms.Rule

open Text

/-- What a message is about: a construct, and the offset at which it was tried. -/
def Event.about? : Event → Option (Construct × Nat)
  | passed construct offset _ => some (construct, offset)
  | failed construct offset => some (construct, offset)
  | opened _ => none
  | closed => none

/-- The offset at which a level of nesting is opened. -/
def Event.opening? : Event → Option Nat
  | opened offset => some offset
  | _ => none

/-- What the messages of a log are about, in order. -/
def subjects (log : List Event) : List (Construct × Nat) :=
  log.filterMap Event.about?

/-- Where the levels of a log are opened, in order. -/
def openings (log : List Event) : List Nat :=
  log.filterMap Event.opening?

/-- The construct is a condition with a connective. -/
def Construct.joins : Construct → Bool
  | conjunction => true
  | disjunction => true
  | _ => false

/-- The construct that a relation is read as. -/
def Relation.construct : Relation → Construct
  | equality .. => .equality
  | membership .. => .membership
  | within .. => .within

/-- The construct that a condition is read as: the form of its only relation, or what its first
connective makes. -/
def Condition.construct : Condition → Construct
  | relation only => only.construct
  | joined _ connective _ => Reader.connectiveConstruct connective

section Logs

variable {log more : List Event} {construct : Construct} {offset : Nat} {finding : Finding}

@[simp]
theorem subjects_nil : subjects [] = [] := rfl

@[simp]
theorem subjects_passed :
    subjects (.passed construct offset finding :: log) = (construct, offset) :: subjects log := rfl

@[simp]
theorem subjects_failed :
    subjects (.failed construct offset :: log) = (construct, offset) :: subjects log := rfl

@[simp]
theorem subjects_opened : subjects (.opened offset :: log) = subjects log := rfl

@[simp]
theorem subjects_closed : subjects (.closed :: log) = subjects log := rfl

@[simp]
theorem openings_nil : openings [] = [] := rfl

@[simp]
theorem openings_passed : openings (.passed construct offset finding :: log) = openings log := rfl

@[simp]
theorem openings_failed : openings (.failed construct offset :: log) = openings log := rfl

@[simp]
theorem openings_opened : openings (.opened offset :: log) = offset :: openings log := rfl

@[simp]
theorem openings_closed : openings (.closed :: log) = openings log := rfl

@[simp]
theorem subjects_append : subjects (log ++ more) = subjects log ++ subjects more :=
  List.filterMap_append

@[simp]
theorem openings_append : openings (log ++ more) = openings log ++ openings more :=
  List.filterMap_append

end Logs

/-- Behind an attempt that logged nothing and left no fault comes the next one as it is. -/
theorem Attempt.after_of_silent {α β : Type} {earlier : Attempt β} (later : Attempt α)
    (nothing : earlier.log = []) (faultless : earlier.fault = none) :
    earlier.after later = later := by
  simp [after, nothing, faultless]

namespace Reader

section Composed

variable {α β : Type} {first second reader : Reader α} {next : α → Reader β}
variable {head between : Head} {value : α} {event : Event}

theorem log_bind_of_accepted (accepted : (first head).ending = .accepted value between) :
    ((first >>= next) head).log = (first head).log ++ (next value between).log :=
  congrArg Attempt.log (bind_of_accepted accepted)

theorem log_bind_of_refused (refused : (first head).ending = .refused) :
    ((first >>= next) head).log = (first head).log := by
  rw [bind_of_refused refused]
  exact List.append_nil _

theorem log_bind_of_tooDeep (stopped : (first head).ending = .tooDeep) :
    ((first >>= next) head).log = (first head).log := by
  rw [bind_of_tooDeep stopped]
  exact List.append_nil _

theorem log_orElse_of_refused (refused : (first head).ending = .refused) :
    ((first <|> second) head).log = (first head).log ++ (second head).log :=
  congrArg Attempt.log (orElse_of_refused refused)

section Logged

variable (construct : Construct) (finding : α → Finding)

theorem log_logged_of_accepted (accepted : (reader head).ending = .accepted value between) :
    (logged construct finding reader head).log =
      (reader head).log ++ [.passed construct head.offset (finding value)] := by
  simp [logged, accepted]

theorem log_logged_of_refused (refused : (reader head).ending = .refused) :
    (logged construct finding reader head).log =
      (reader head).log ++ [.failed construct head.offset] := by
  simp [logged, refused]

/-- A construct that is still being read when reading stops leaves no message. -/
theorem log_logged_of_tooDeep (stopped : (reader head).ending = .tooDeep) :
    (logged construct finding reader head).log = (reader head).log := by
  simp [logged, stopped]

/-- A construct leaves one message at most besides those of its parts. -/
theorem mem_log_logged (mem : event ∈ (logged construct finding reader head).log) :
    event ∈ (reader head).log ∨ event.about? = some (construct, head.offset) := by
  cases found : (reader head).ending with
  | accepted value between =>
      rw [log_logged_of_accepted _ _ found, List.mem_append, List.mem_singleton] at mem
      rcases mem with mem | rfl
      · exact .inl mem
      · exact .inr rfl
  | refused =>
      rw [log_logged_of_refused _ _ found, List.mem_append, List.mem_singleton] at mem
      rcases mem with mem | rfl
      · exact .inl mem
      · exact .inr rfl
  | tooDeep =>
      rw [log_logged_of_tooDeep _ _ found] at mem
      exact .inl mem

/-- Logging a construct keeps the messages of its parts. -/
theorem mem_log_logged_of_mem (mem : event ∈ (reader head).log) :
    event ∈ (logged construct finding reader head).log := by
  cases found : (reader head).ending with
  | accepted value between =>
      rw [log_logged_of_accepted _ _ found]
      exact List.mem_append_left _ mem
  | refused =>
      rw [log_logged_of_refused _ _ found]
      exact List.mem_append_left _ mem
  | tooDeep =>
      rw [log_logged_of_tooDeep _ _ found]
      exact mem

theorem length_log_logged_le :
    (logged construct finding reader head).log.length ≤ (reader head).log.length + 1 := by
  cases found : (reader head).ending with
  | accepted value between => simp [log_logged_of_accepted _ _ found]
  | refused => simp [log_logged_of_refused _ _ found]
  | tooDeep => simp [log_logged_of_tooDeep _ _ found]

end Logged

/-- What two constructs in a row log belongs to the first one, or to the second one where
the first one ended. -/
theorem mem_log_bind (mem : event ∈ ((first >>= next) head).log) :
    event ∈ (first head).log ∨ ∃ value between, (first head).ending = .accepted value between ∧
      event ∈ (next value between).log := by
  cases found : (first head).ending with
  | accepted value between =>
      rw [log_bind_of_accepted found, List.mem_append] at mem
      exact mem.imp_right fun later => ⟨value, between, rfl, later⟩
  | refused =>
      rw [log_bind_of_refused found] at mem
      exact .inl mem
  | tooDeep =>
      rw [log_bind_of_tooDeep found] at mem
      exact .inl mem

theorem mem_log_orElse (mem : event ∈ ((first <|> second) head).log) :
    event ∈ (first head).log ∨ event ∈ (second head).log := by
  cases found : (first head).ending with
  | accepted value between =>
      rw [orElse_of_accepted found] at mem
      exact .inl mem
  | refused =>
      rw [log_orElse_of_refused found] at mem
      exact List.mem_append.1 mem
  | tooDeep =>
      rw [orElse_of_tooDeep found] at mem
      exact .inl mem

theorem length_log_orElse_le :
    ((first <|> second) head).log.length ≤
      (first head).log.length + (second head).log.length := by
  cases found : (first head).ending with
  | accepted value between =>
      rw [orElse_of_accepted found]
      exact Nat.le_add_right _ _
  | refused =>
      rw [log_orElse_of_refused found]
      exact Nat.le_of_eq List.length_append
  | tooDeep =>
      rw [orElse_of_tooDeep found]
      exact Nat.le_add_right _ _

end Composed

section Tokens

@[simp]
theorem log_word (expected : Word) (head : Head) : (word expected head).log = [] := by
  rw [word_eq]
  split <;> rfl

@[simp]
theorem log_blanks (head : Head) : (blanks head).log = [] := by
  rw [blanks_eq]
  split <;> rfl

@[simp]
theorem log_numeral (head : Head) : (numeral head).log = [] := by
  rw [numeral_eq]
  split <;> rfl

variable {α β : Type} {head : Head}

/-- Where a reader that leaves nothing behind is not refused, what follows it is all that
counts. -/
theorem silent_bind_cases {first : Reader β} (next : β → Reader α)
    (nothing : (first head).log = []) (faultless : (first head).fault = none)
    (settled : (first head).ending ≠ .tooDeep) :
    (first >>= next) head = refuse head ∨
      ∃ value behind, (first head).ending = .accepted value behind ∧
        (first >>= next) head = next value behind := by
  cases found : (first head).ending with
  | accepted value behind =>
      rw [bind_of_accepted found]
      exact .inr ⟨value, behind, rfl, Attempt.after_of_silent _ nothing faultless⟩
  | refused =>
      rw [bind_of_refused found]
      exact .inl (Attempt.after_of_silent _ nothing faultless)
  | tooDeep => exact absurd found settled

theorem word_bind_cases (expected : Word) (next : Unit → Reader α) (head : Head) :
    (word expected >>= next) head = refuse head ∨
      ∃ behind, head.Passes expected.letters behind ∧
        (word expected >>= next) head = next () behind := by
  have settled : (word expected head).ending ≠ .tooDeep := by
    rw [word_eq]
    split <;> exact nofun
  rcases silent_bind_cases next (log_word expected head) (fault_word expected head) settled with
    refused | ⟨_, behind, accepted, same⟩
  · exact .inl refused
  · exact .inr ⟨behind, word_accepted_iff.1 accepted, same⟩

theorem blanks_bind_cases (next : Unit → Reader α) (head : Head) :
    (blanks >>= next) head = refuse head ∨
      ∃ gap behind, IsGap gap ∧ ClearOf isBlank behind.ahead ∧ head.Passes gap behind ∧
        (blanks >>= next) head = next () behind := by
  have settled : (blanks head).ending ≠ .tooDeep := by
    rw [blanks_eq]
    split <;> exact nofun
  rcases silent_bind_cases next (log_blanks head) (fault_blanks head) settled with
    refused | ⟨_, behind, accepted, same⟩
  · exact .inl refused
  · obtain ⟨gap, isGap, clear, passes⟩ := blanks_accepted_iff.1 accepted
    exact .inr ⟨gap, behind, isGap, clear, passes, same⟩

theorem numeral_bind_cases (next : Nat → Reader α) (head : Head) :
    (numeral >>= next) head = refuse head ∨
      ∃ value digits behind, IsNumeral value digits ∧ Longest digits behind.ahead ∧
        head.Passes digits behind ∧ (numeral >>= next) head = next value behind := by
  have settled : (numeral head).ending ≠ .tooDeep := by
    rw [numeral_eq]
    split <;> exact nofun
  rcases silent_bind_cases next (log_numeral head) (fault_numeral head) settled with
    refused | ⟨value, behind, accepted, same⟩
  · exact .inl refused
  · obtain ⟨digits, isNumeral, longest, passes⟩ := numeral_accepted_iff.1 accepted
    exact .inr ⟨value, digits, behind, isNumeral, longest, passes, same⟩

/-- Where a word between two gaps stands, what follows it is all that counts, and nothing is
read or logged elsewhere. -/
theorem spaced_cases (expected : Word) (next : Reader α) (head : Head) :
    (do blanks; word expected; blanks; next : Reader α) head = refuse head ∨
      ∃ before after behind, IsGap before ∧ IsGap after ∧ ClearOf isBlank behind.ahead ∧
        head.Passes (before ++ (expected.letters ++ after)) behind ∧
        (do blanks; word expected; blanks; next : Reader α) head = next behind := by
  rcases blanks_bind_cases (fun _ => do word expected; blanks; next) head with
    refused | ⟨before, start, gapBefore, -, passesBefore, same⟩
  · exact .inl refused
  rcases word_bind_cases expected (fun _ => do blanks; next) start with
    refused | ⟨stop, passesWord, sameWord⟩
  · exact .inl (same.trans refused)
  rcases blanks_bind_cases (fun _ => next) stop with
    refused | ⟨after, behind, gapAfter, clear, passesAfter, sameAfter⟩
  · exact .inl ((same.trans sameWord).trans refused)
  exact .inr ⟨before, after, behind, gapBefore, gapAfter, clear,
    passesBefore.trans (passesWord.trans passesAfter), (same.trans sameWord).trans sameAfter⟩

end Tokens

section Plain

variable {α : Type} {reader : Reader α} {head moved : Head} {value : α} {event : Event}

/-- What a plain reader accepts is a text that stands ahead. -/
theorem Plain.passes (plain : Plain reader)
    (accepted : (reader head).ending = .accepted value moved) :
    ∃ text, head.Passes text moved := by
  induction plain generalizing head moved with
  | accept found =>
      cases accepted
      exact ⟨[], .refl head⟩
  | reject fault => cases accepted
  | word expected => exact ⟨_, word_accepted_iff.1 accepted⟩
  | blanks =>
      obtain ⟨gap, -, -, passes⟩ := blanks_accepted_iff.1 accepted
      exact ⟨gap, passes⟩
  | numeral =>
      obtain ⟨digits, -, -, passes⟩ := numeral_accepted_iff.1 accepted
      exact ⟨digits, passes⟩
  | bind _ _ ih ihNext =>
      obtain ⟨found, between, firstRead, nextRead⟩ := bind_accepted_iff.1 accepted
      obtain ⟨text, passes⟩ := ih firstRead
      obtain ⟨more, passesMore⟩ := ihNext found nextRead
      exact ⟨text ++ more, passes.trans passesMore⟩
  | orElse _ _ ih ihToo =>
      rcases orElse_accepted_iff.1 accepted with accepted | ⟨-, accepted⟩
      · exact ih accepted
      · exact ihToo accepted
  | logged _ construct finding ih =>
      rw [ending_logged] at accepted
      exact ih accepted

/-- A plain reader logs messages only, and they are about places on the text ahead. -/
theorem Plain.exists_about (plain : Plain reader) (mem : event ∈ (reader head).log) :
    ∃ construct offset, event.about? = some (construct, offset) ∧ head.offset ≤ offset ∧
      offset ≤ head.offset + head.ahead.length := by
  induction plain generalizing head with
  | accept value => cases mem
  | reject fault => cases mem
  | word expected =>
      rw [log_word] at mem
      cases mem
  | blanks =>
      rw [log_blanks] at mem
      cases mem
  | numeral =>
      rw [log_numeral] at mem
      cases mem
  | bind plain _ ih ihNext =>
      rcases mem_log_bind mem with mem | ⟨value, between, firstRead, mem⟩
      · exact ih mem
      · obtain ⟨text, ahead_eq, offset_eq⟩ := plain.passes firstRead
        obtain ⟨construct, offset, about, lower, upper⟩ := ihNext value mem
        have length : head.ahead.length = text.length + between.ahead.length := by
          rw [ahead_eq, List.length_append]
        exact ⟨construct, offset, about, by omega, by omega⟩
  | orElse _ _ ih ihToo =>
      rcases mem_log_orElse mem with mem | mem
      · exact ih mem
      · exact ihToo mem
  | logged _ construct finding ih =>
      rcases mem_log_logged construct finding mem with mem | about
      · exact ih mem
      · exact ⟨construct, head.offset, about, Nat.le_refl _, Nat.le_add_right _ _⟩

/-- A plain reader opens no level of nesting. -/
theorem Plain.openings_eq_nil (plain : Plain reader) (head : Head) :
    openings (reader head).log = [] := by
  rw [openings, List.filterMap_eq_nil_iff]
  intro event mem
  obtain ⟨construct, offset, about, -, -⟩ := plain.exists_about mem
  cases event with
  | opened offset => cases about
  | _ => rfl

end Plain

end Reader

end PluralForms.Rule
