/-
# What is told about intervals

A reader that tries an interval tells of it: the interval is listed, with all its numbers, or it
fails.  Where two numerals stand around the dots, it fails only because the interval has too many
members, and then a fault is left; where they do not, it fails without one.

A longer construct tells nothing else about intervals.  Whatever it logs about one is what the
interval reader logs somewhere on the text ahead, and an interval that it calls too large has
failed there.  Both are kept by every way of putting readers together, so they hold of a
condition with all the readings of it that were given up for another one.
-/

import PluralForms.Proofs.Reader.Logging
import PluralForms.Proofs.Spelling.Complete

namespace PluralForms.Rule

open Text

/-- The text starts with the numerals of the bounds around two dots.  They have all the digits
that are ahead, as many as fit into a numeral. -/
inductive BoundsAhead : Interval → List Char → Prop
  | intro {first last : Nat} {firstDigits lastDigits rest : List Char}
      (firstNumeral : IsNumeral first firstDigits) (lastNumeral : IsNumeral last lastDigits)
      (longest : Longest lastDigits rest) :
      BoundsAhead ⟨first, last⟩ (firstDigits ++ (['.', '.'] ++ (lastDigits ++ rest)))

/-- One text has one pair of bounds. -/
theorem BoundsAhead.unique {enclosed other : Interval} {text : List Char}
    (ahead : BoundsAhead enclosed text) (ahead' : BoundsAhead other text) : enclosed = other := by
  cases ahead with
  | @intro first last firstDigits lastDigits rest firstNumeral lastNumeral longest =>
    generalize same : firstDigits ++ (['.', '.'] ++ (lastDigits ++ rest)) = text at ahead'
    cases ahead' with
    | @intro first' last' firstDigits' lastDigits' rest' firstNumeral' lastNumeral' longest' =>
      obtain ⟨sameFirst, behind⟩ := append_inj_of_clearOf firstNumeral.digit firstNumeral'.digit
        (clearOf_cons.2 rfl) (clearOf_cons.2 rfl) same
      have behindDots : lastDigits ++ rest = lastDigits' ++ rest' := by simpa using behind
      have sameLast := congrArg numeralDigits behindDots
      rw [numeralDigits_append lastNumeral longest, numeralDigits_append lastNumeral' longest']
        at sameLast
      rw [← firstNumeral.value_eq, ← lastNumeral.value_eq, sameFirst, sameLast,
        firstNumeral'.value_eq, lastNumeral'.value_eq]

/-- What comes of an interval where it is tried: it is listed, it has too many members, or its
numerals are not there. -/
inductive Tried (head : Head) : Attempt Interval → Prop
  | listed {enclosed : Interval} {moved : Head} (ahead : BoundsAhead enclosed head.ahead)
      (permitted : enclosed.Permitted) :
      Tried head
        ⟨[.passed .interval head.offset (.members enclosed)], none, .accepted enclosed moved⟩
  | oversized {enclosed : Interval} (ahead : BoundsAhead enclosed head.ahead)
      (forbidden : ¬ enclosed.Permitted) :
      Tried head ⟨[.failed .interval head.offset], some (.oversized enclosed), .refused⟩
  | missing (nothing : ∀ enclosed, ¬ BoundsAhead enclosed head.ahead) :
      Tried head ⟨[.failed .interval head.offset], none, .refused⟩

namespace Tried

variable {head : Head} {attempt : Attempt Interval} {enclosed : Interval} {offset : Nat}
variable {finding : Finding}

/-- Whatever comes of an interval, there is one message about it. -/
theorem exists_message (tried : Tried head attempt) :
    ∃ message, attempt.log = [message] ∧ message.about? = some (.interval, head.offset) := by
  cases tried with
  | listed => exact ⟨_, rfl, rfl⟩
  | oversized => exact ⟨_, rfl, rfl⟩
  | missing => exact ⟨_, rfl, rfl⟩

/-- A fault is left by an interval that fails, and it names the bounds that stand ahead. -/
theorem of_fault (tried : Tried head attempt)
    (faulty : attempt.fault = some (.oversized enclosed)) :
    BoundsAhead enclosed head.ahead ∧ attempt.log = [.failed .interval head.offset] := by
  cases tried with
  | listed => cases faulty
  | oversized ahead forbidden =>
    cases faulty
    exact ⟨ahead, rfl⟩
  | missing => cases faulty

/-- An interval that passes is listed between the bounds that stand ahead. -/
theorem of_passed (tried : Tried head attempt)
    (passed : attempt.log = [.passed .interval offset finding]) :
    ∃ enclosed, finding = .members enclosed ∧ BoundsAhead enclosed head.ahead ∧
      enclosed.Permitted := by
  cases tried with
  | listed ahead permitted =>
    cases passed
    exact ⟨_, rfl, ahead, permitted⟩
  | oversized => cases passed
  | missing => cases passed

/-- Where the bounds stand ahead, an interval that has not too many members passes with them. -/
theorem log_of_permitted (tried : Tried head attempt) (ahead : BoundsAhead enclosed head.ahead)
    (permitted : enclosed.Permitted) :
    attempt.log = [.passed .interval head.offset (.members enclosed)] := by
  cases tried with
  | listed ahead' =>
    obtain rfl := ahead.unique ahead'
    rfl
  | oversized ahead' forbidden =>
    obtain rfl := ahead.unique ahead'
    exact absurd permitted forbidden
  | missing nothing => exact absurd ahead (nothing _)

/-- One that has too many fails. -/
theorem log_of_forbidden (tried : Tried head attempt) (ahead : BoundsAhead enclosed head.ahead)
    (forbidden : ¬ enclosed.Permitted) : attempt.log = [.failed .interval head.offset] := by
  cases tried with
  | listed ahead' permitted =>
    obtain rfl := ahead.unique ahead'
    exact absurd permitted forbidden
  | oversized => rfl
  | missing => rfl

/-- Where the bounds stand ahead, an interval is refused only if it has too many members, and then
it leaves a fault. -/
theorem refused_iff (tried : Tried head attempt) (ahead : BoundsAhead enclosed head.ahead) :
    (attempt.ending = .refused ↔ ¬ enclosed.Permitted) ∧
      (attempt.fault = some (.oversized enclosed) ↔ ¬ enclosed.Permitted) := by
  cases tried with
  | listed ahead' permitted =>
    obtain rfl := ahead.unique ahead'
    simp [permitted]
  | oversized ahead' forbidden =>
    obtain rfl := ahead.unique ahead'
    simp [forbidden]
  | missing nothing => exact absurd ahead (nothing _)

end Tried

namespace Reader

/-- Refuses an interval with too many members. -/
def sized (enclosed : Interval) : Reader Interval :=
  if Interval.mostMembers < enclosed.size then reject (.oversized enclosed) else accept enclosed

/-- Reads two numerals around two dots. -/
def bounds : Reader Interval := do
  let first ← numeral
  word .upTo
  let last ← numeral
  sized ⟨first, last⟩

theorem interval_eq : interval = logged .interval .members bounds := rfl

/-- Where the numerals of an interval stand, all is up to its size. -/
theorem bounds_cases (head : Head) :
    (∃ stop, bounds head = refuse stop) ∨
      ∃ enclosed moved, BoundsAhead enclosed head.ahead ∧ bounds head = sized enclosed moved := by
  rcases numeral_bind_cases (fun first => do
      word .upTo
      let last ← numeral
      sized ⟨first, last⟩) head with
    refused | ⟨first, firstDigits, start, firstNumeral, -, passesFirst, same⟩
  · exact .inl ⟨head, refused⟩
  rcases word_bind_cases .upTo (fun _ => do
      let last ← numeral
      sized ⟨first, last⟩) start with
    refused | ⟨stop, passesWord, sameWord⟩
  · exact .inl ⟨start, same.trans refused⟩
  rcases numeral_bind_cases (fun last => sized ⟨first, last⟩) stop with
    refused | ⟨last, lastDigits, moved, lastNumeral, longest, passesLast, sameLast⟩
  · exact .inl ⟨stop, (same.trans sameWord).trans refused⟩
  refine .inr ⟨⟨first, last⟩, moved, ?_, (same.trans sameWord).trans sameLast⟩
  rw [passesFirst.ahead_eq, passesWord.ahead_eq, passesLast.ahead_eq]
  exact .intro firstNumeral lastNumeral longest

/-- An interval that is refused without a fault is not spelled there. -/
theorem not_boundsAhead {head : Head} (refused : (interval head).ending = .refused)
    (faultless : (interval head).fault = none) (enclosed : Interval) :
    ¬ BoundsAhead enclosed head.ahead := by
  obtain ⟨offset, text⟩ := head
  intro ahead
  by_cases permitted : enclosed.Permitted
  · obtain ⟨firstNumeral, lastNumeral, longest⟩ := ahead
    have accepted := (takes_interval firstNumeral lastNumeral longest permitted).ending offset
    exact nomatch refused.symm.trans accepted
  · obtain ⟨firstNumeral, lastNumeral, longest⟩ := ahead
    have faulty := (refuses_interval firstNumeral lastNumeral longest permitted).fault offset
    exact nomatch faultless.symm.trans faulty

/-- Every attempt at an interval leaves one message, and a fault only if it is refused for its
size. -/
theorem interval_tried (head : Head) : Tried head (interval head) := by
  rcases bounds_cases head with ⟨stop, refused⟩ | ⟨enclosed, moved, ahead, same⟩
  · have whole : interval head = ⟨[.failed .interval head.offset], none, .refused⟩ := by
      rw [interval_eq, logged, refused]
      rfl
    rw [whole]
    exact .missing (not_boundsAhead (by rw [whole]) (by rw [whole]))
  by_cases permitted : enclosed.Permitted
  · have fits := Nat.not_lt.2 (enclosed.permitted_iff.1 permitted)
    rw [interval_eq, logged, same, sized, if_neg fits]
    exact .listed ahead permitted
  · have exceeds := Nat.not_le.1 (mt enclosed.permitted_iff.2 permitted)
    rw [interval_eq, logged, same, sized, if_pos exceeds]
    exact .oversized ahead permitted

end Reader

/-- What an attempt tells about intervals is what the interval reader does at places on the text
ahead of the head: each message about one is logged there, and one that is called too large has
failed there. -/
structure Attempt.Tells {α : Type} (head : Head) (attempt : Attempt α) : Prop where
  message : ∀ event ∈ attempt.log, ∀ offset, event.about? = some (.interval, offset) →
    ∃ text place, head.Passes text place ∧ place.offset = offset ∧
      (Reader.interval place).log = [event]
  fault : ∀ enclosed, attempt.fault = some (.oversized enclosed) →
    ∃ text place, head.Passes text place ∧ BoundsAhead enclosed place.ahead ∧
      .failed .interval place.offset ∈ attempt.log

namespace Attempt.Tells

variable {α β : Type} {head between : Head} {text : List Char} {earlier : Attempt β}
variable {attempt : Attempt α}

/-- An attempt that does not get to an interval tells nothing. -/
theorem of_silent (nothing : attempt.log = [])
    (others : ∀ enclosed, attempt.fault ≠ some (.oversized enclosed)) : attempt.Tells head where
  message := by
    rw [nothing]
    exact nofun
  fault enclosed faulty := absurd faulty (others enclosed)

/-- What stands ahead of a place that was reached stood ahead before. -/
theorem behind (passes : head.Passes text between) (tells : attempt.Tells between) :
    attempt.Tells head where
  message event mem offset about := by
    obtain ⟨more, place, passesMore, found⟩ := tells.message event mem offset about
    exact ⟨text ++ more, place, passes.trans passesMore, found⟩
  fault enclosed faulty := by
    obtain ⟨more, place, passesMore, found⟩ := tells.fault enclosed faulty
    exact ⟨text ++ more, place, passes.trans passesMore, found⟩

theorem after (tells : earlier.Tells head) (tellsToo : attempt.Tells head) :
    (earlier.after attempt).Tells head where
  message event mem offset about := by
    rcases List.mem_append.1 mem with mem | mem
    · exact tells.message event mem offset about
    · exact tellsToo.message event mem offset about
  fault enclosed faulty := by
    rcases Option.or_eq_some_iff.1 faulty with faulty | ⟨-, faulty⟩
    · obtain ⟨text, place, passes, ahead, mem⟩ := tellsToo.fault enclosed faulty
      exact ⟨text, place, passes, ahead, List.mem_append_right _ mem⟩
    · obtain ⟨text, place, passes, ahead, mem⟩ := tells.fault enclosed faulty
      exact ⟨text, place, passes, ahead, List.mem_append_left _ mem⟩

end Attempt.Tells

namespace Reader

/-- Wherever the reader is tried, it tells of intervals what comes of them. -/
def Tells {α : Type} (reader : Reader α) : Prop :=
  ∀ head, (reader head).Tells head

section Composed

variable {α β : Type} {first second reader : Reader α} {next : α → Reader β}

theorem tells_accept (value : α) : Tells (accept value) :=
  fun _ => .of_silent rfl nofun

theorem tells_reject {fault : Fault} (other : ∀ enclosed, fault ≠ .oversized enclosed) :
    Tells (reject fault : Reader α) :=
  fun _ => .of_silent rfl fun enclosed faulty => other enclosed (Option.some.inj faulty)

theorem tells_word (expected : Word) : Tells (word expected) :=
  fun head => .of_silent (log_word expected head) (by simp)

theorem tells_blanks : Tells blanks :=
  fun head => .of_silent (log_blanks head) (by simp)

theorem tells_numeral : Tells numeral :=
  fun head => .of_silent (log_numeral head) (by simp)

/-- Two readers in a row tell what each of them tells, if the second one does so seen from where
the first one started. -/
theorem Tells.bind (tells : Tells first)
    (tellsNext : ∀ {head value between}, (first head).ending = .accepted value between →
      (next value between).Tells head) : Tells (first >>= next) := by
  intro head
  cases found : (first head).ending with
  | accepted value between =>
      rw [bind_of_accepted found]
      exact (tells head).after (tellsNext found)
  | refused =>
      rw [bind_of_refused found]
      exact (tells head).after (.of_silent rfl nofun)
  | tooDeep =>
      rw [bind_of_tooDeep found]
      exact (tells head).after (.of_silent rfl nofun)

/-- Behind a plain reader the second one is tried on the text that is left. -/
theorem Plain.tells_bind (plain : Plain first) (tells : Tells first)
    (tellsNext : ∀ value, Tells (next value)) : Tells (first >>= next) := by
  apply tells.bind
  intro head value between accepted
  obtain ⟨text, passes⟩ := plain.passes accepted
  exact (tellsNext value between).behind passes

/-- What is made of the value of a reader tells nothing more. -/
theorem Tells.bind_accept (tells : Tells first) (make : α → β) :
    Tells (first >>= fun value => accept (make value)) :=
  tells.bind fun _ => .of_silent rfl nofun

theorem Tells.orElse (tells : Tells first) (tellsToo : Tells second) :
    Tells (first <|> second) := by
  intro head
  cases found : (first head).ending with
  | accepted value between =>
      rw [orElse_of_accepted found]
      exact tells head
  | refused =>
      rw [orElse_of_refused found]
      exact (tells head).after (tellsToo head)
  | tooDeep =>
      rw [orElse_of_tooDeep found]
      exact tells head

/-- A message about another construct tells nothing about intervals. -/
theorem Tells.logged (tells : Tells reader) {construct : Construct} (finding : α → Finding)
    (other : construct ≠ .interval) : Tells (logged construct finding reader) := by
  intro head
  constructor
  · intro event mem offset about
    rcases mem_log_logged construct finding mem with mem | isMessage
    · exact (tells head).message event mem offset about
    · have same := Option.some.inj (isMessage.symm.trans about)
      exact absurd (congrArg Prod.fst same) other
  · intro enclosed faulty
    rw [fault_logged] at faulty
    obtain ⟨text, place, passes, ahead, mem⟩ := (tells head).fault enclosed faulty
    exact ⟨text, place, passes, ahead, mem_log_logged_of_mem construct finding mem⟩

theorem Tells.nested (tells : Tells reader) : Tells (nested reader) := by
  intro head
  constructor
  · intro event mem offset about
    rcases List.mem_cons.1 mem with rfl | mem
    · cases about
    rcases List.mem_append.1 mem with mem | mem
    · exact (tells head).message event mem offset about
    · rw [List.mem_singleton.1 mem] at about
      cases about
  · intro enclosed faulty
    obtain ⟨text, place, passes, ahead, mem⟩ := (tells head).fault enclosed faulty
    exact ⟨text, place, passes, ahead, List.mem_cons_of_mem _ (List.mem_append_left _ mem)⟩

theorem Tells.spaced (tells : Tells reader) (expected : Word) :
    Tells (do blanks; word expected; blanks; reader) :=
  Plain.blanks.tells_bind tells_blanks fun _ =>
    (Plain.word expected).tells_bind (tells_word expected) fun _ =>
      Plain.blanks.tells_bind tells_blanks fun _ => tells

end Composed

/-- An interval tells of itself. -/
theorem tells_interval : Tells interval := by
  intro head
  have tried := interval_tried head
  constructor
  · intro event mem offset about
    obtain ⟨message, single, isAbout⟩ := tried.exists_message
    rw [single, List.mem_singleton] at mem
    subst mem
    cases isAbout.symm.trans about
    exact ⟨[], head, .refl head, rfl, single⟩
  · intro enclosed faulty
    obtain ⟨ahead, single⟩ := tried.of_fault faulty
    exact ⟨[], head, .refl head, ahead, single ▸ List.mem_singleton.2 rfl⟩

section Constructs

variable (countable : Bool)

theorem tells_denial : Tells denial := by
  apply Tells.orElse _ (tells_accept _)
  apply Plain.blanks.tells_bind tells_blanks
  intro _
  exact (tells_word _).bind_accept _

theorem tells_count : Tells (count countable) := by
  apply Tells.logged _ _ (by decide)
  apply (Plain.word _).tells_bind (tells_word _)
  intro _
  split
  · exact tells_accept _
  · exact tells_reject nofun

theorem tells_remainder : Tells (remainder countable) := by
  apply Tells.logged _ _ (by decide)
  apply (plain_count countable).tells_bind (tells_count countable)
  intro _
  apply Tells.spaced
  apply Plain.numeral.tells_bind tells_numeral
  intro divisor
  split
  · exact tells_reject nofun
  · exact tells_accept _

theorem tells_expression : Tells (expression countable) :=
  (tells_remainder countable).orElse (tells_count countable)

theorem tells_equality : Tells (equality countable) := by
  apply Tells.logged _ _ (by decide)
  apply (plain_expression countable).tells_bind (tells_expression countable)
  intro subject
  apply Plain.blanks.tells_bind tells_blanks
  intro _
  apply (Plain.word _).tells_bind (tells_word _)
  intro _
  apply plain_denial.tells_bind tells_denial
  intro denied
  apply Plain.blanks.tells_bind tells_blanks
  intro _
  exact tells_numeral.bind_accept _

theorem tells_membership : Tells (membership countable) := by
  apply Tells.logged _ _ (by decide)
  apply (plain_expression countable).tells_bind (tells_expression countable)
  intro subject
  apply plain_denial.tells_bind tells_denial
  intro denied
  exact (tells_interval.bind_accept _).spaced _

theorem tells_within : Tells (within countable) := by
  apply Tells.logged _ _ (by decide)
  apply (plain_expression countable).tells_bind (tells_expression countable)
  intro subject
  exact (tells_interval.bind_accept _).spaced _

theorem tells_relation : Tells (relation countable) :=
  (tells_equality countable).orElse ((tells_membership countable).orElse (tells_within countable))

theorem tells_joined {rest : Reader Condition} (connective : Connective) (tells : Tells rest) :
    Tells (joined countable connective rest) := by
  apply Tells.logged _ _ (by cases connective <;> decide)
  apply (plain_relation countable).tells_bind (tells_relation countable)
  intro first
  exact (tells.bind_accept _).spaced _

/-- A condition tells of every interval that is tried in it, with any room for nesting. -/
theorem tells_condition (levels : Nat) : Tells (condition countable levels) := by
  induction levels with
  | zero => exact fun _ => .of_silent rfl nofun
  | succ levels ih =>
      apply Tells.nested
      apply (tells_joined countable .both ih).orElse
      apply (tells_joined countable .either ih).orElse
      exact (tells_relation countable).bind_accept _

end Constructs

end Reader

end PluralForms.Rule
