/-
# What the readers of tokens accept

Words, gaps and numerals are read greedily.  Each reader accepts exactly one
way of cutting the text: a gap or a numeral runs as far as it can, which the
condition on what is left ahead expresses.  A reader of tokens never leaves a
fault and never stops reading altogether.
-/

import Mathlib.Data.List.TakeWhile
import PluralForms.Proofs.Reader.Ending
import PluralForms.Proofs.Spelling.Basic
import PluralForms.Rule.Token

namespace PluralForms.Rule

open Number Text

/-- The text does not start with a character of this class. -/
def ClearOf (p : Char → Bool) (text : List Char) : Prop :=
  ∀ c ∈ text.head?, p c = false

/-- No digit ahead would still be read as part of the numeral: none follows, or
the numeral is full. -/
def Longest (digits text : List Char) : Prop :=
  digits.length = 64 ∨ ClearOf Char.isDigit text

section ClearOf

variable {p : Char → Bool} {run text : List Char} {c : Char}

@[simp]
theorem clearOf_nil : ClearOf p [] := by
  simp [ClearOf]

@[simp]
theorem clearOf_cons : ClearOf p (c :: text) ↔ p c = false := by
  simp [ClearOf]

theorem clearOf_dropWhile (p : Char → Bool) (text : List Char) :
    ClearOf p (text.dropWhile p) := by
  have stop := List.head?_dropWhile_not p text
  intro c first
  rw [Option.mem_def] at first
  simpa [first] using stop

/-- Behind the longest run comes what is left when it is dropped. -/
theorem drop_length_takeWhile (p : Char → Bool) (text : List Char) :
    text.drop (text.takeWhile p).length = text.dropWhile p :=
  List.append_cancel_left ((List.prefix_iff_eq_append.1 (List.takeWhile_prefix p)).trans
    List.takeWhile_append_dropWhile.symm)

/-- A run that nothing ahead continues is the longest one. -/
theorem takeWhile_append_of_clearOf (inRun : ∀ c ∈ run, p c = true) (clear : ClearOf p text) :
    (run ++ text).takeWhile p = run := by
  rw [List.takeWhile_append_of_pos inRun]
  cases text with
  | nil => simp
  | cons c text => simp [clearOf_cons.1 clear]

/-- A text starts with one longest run only. -/
theorem append_inj_of_clearOf {other rest : List Char} (inRun : ∀ c ∈ run, p c = true)
    (inOther : ∀ c ∈ other, p c = true) (clear : ClearOf p text) (clear' : ClearOf p rest)
    (same : run ++ text = other ++ rest) : run = other ∧ text = rest := by
  have sameRun : run = other := by
    rw [← takeWhile_append_of_clearOf inRun clear, same,
      takeWhile_append_of_clearOf inOther clear']
  exact ⟨sameRun, List.append_cancel_left (sameRun ▸ same)⟩

/-- Behind the digits of a numeral comes no digit, unless the numeral is full. -/
theorem numeralDigits_longest (text : List Char) :
    Longest (numeralDigits text) (text.drop (numeralDigits text).length) := by
  by_cases fits : (text.takeWhile Char.isDigit).length ≤ 64
  · right
    rw [numeralDigits, mostDigits, List.take_of_length_le fits, drop_length_takeWhile]
    exact clearOf_dropWhile Char.isDigit text
  · left
    rw [numeralDigits, List.length_take, mostDigits]
    omega

/-- A numeral that nothing ahead continues, or that is full, is read whole. -/
theorem numeralDigits_append {value : Nat} {digits : List Char} (isNumeral : IsNumeral value digits)
    (longest : Longest digits text) : numeralDigits (digits ++ text) = digits := by
  rcases longest with full | clear
  · rw [numeralDigits, List.takeWhile_append_of_pos isNumeral.digit, mostDigits, ← full,
      List.take_left]
  · rw [numeralDigits, takeWhile_append_of_clearOf isNumeral.digit clear]
    exact List.take_of_length_le isNumeral.length_le

/-- A numeral grows with the digits ahead until it is the longest. -/
theorem IsNumeral.exists_longest {value : Nat} {digits : List Char}
    (isNumeral : IsNumeral value digits) (text : List Char) :
    ∃ more rest grown, text = more ++ rest ∧ IsNumeral grown (digits ++ more) ∧
      Longest (digits ++ more) rest := by
  have run : numeralDigits (digits ++ text) =
      digits ++ (text.takeWhile Char.isDigit).take (64 - digits.length) := by
    rw [numeralDigits, List.takeWhile_append_of_pos isNumeral.digit, mostDigits, List.take_append,
      List.take_of_length_le isNumeral.length_le]
  generalize isMore : (text.takeWhile Char.isDigit).take (64 - digits.length) = more at run
  have prefixed : more <+: text :=
    isMore ▸ (List.take_prefix _ _).trans (List.takeWhile_prefix _)
  obtain ⟨rest, rfl⟩ := prefixed
  refine ⟨more, rest, _, rfl, ⟨by simp [isNumeral.nonempty], ?_, ?_, rfl⟩, ?_⟩
  · rw [← run]
    exact List.length_take_le _ _
  · intro c inDigits
    rw [← run] at inDigits
    exact List.mem_takeWhile_imp (List.mem_of_mem_take inDigits)
  · have longest := numeralDigits_longest (digits ++ (more ++ rest))
    rw [run, ← List.append_assoc, List.drop_left] at longest
    exact longest

/-- A word is missing where the text is clear of a class with its first letter. -/
theorem not_prefix_of_clearOf {letters : List Char} (first : p c = true) (clear : ClearOf p text) :
    ¬ (c :: letters) <+: text := by
  rintro ⟨rest, rfl⟩
  simp [first] at clear

/-- A text that starts with a numeral is clear of every class without digits. -/
theorem IsNumeral.clearOf {value : Nat} {digits : List Char} (numeral : IsNumeral value digits)
    (noDigit : ∀ c : Char, c.isDigit = true → p c = false) (text : List Char) :
    ClearOf p (digits ++ text) := by
  obtain ⟨nonempty, -, digit, -⟩ := numeral
  cases digits with
  | nil => exact absurd rfl nonempty
  | cons d digits => exact clearOf_cons.2 (noDigit d (digit d (by simp)))

theorem isBlank_eq_false_of_isDigit (isDigit : c.isDigit = true) : isBlank c = false :=
  isBlank_eq_false_of_isAlphanum (by simp [Char.isAlphanum, isDigit])

theorem IsNumeral.clearOf_isBlank {value : Nat} {digits : List Char}
    (numeral : IsNumeral value digits) (text : List Char) : ClearOf isBlank (digits ++ text) :=
  numeral.clearOf (fun _ => isBlank_eq_false_of_isDigit) text

/-- A text is clear of digits if it starts with a gap. -/
theorem IsGap.clearOf_isDigit {gap : List Char} (isGap : IsGap gap) (text : List Char) :
    ClearOf Char.isDigit (gap ++ text) := by
  obtain ⟨nonempty, blank⟩ := isGap
  cases gap with
  | nil => exact absurd rfl nonempty
  | cons b gap =>
    rw [List.cons_append, clearOf_cons, ← Bool.not_eq_true]
    intro isDigit
    have notBlank := isBlank_eq_false_of_isDigit isDigit
    simp [blank b (by simp)] at notBlank

end ClearOf

/-- The head has moved over the text. -/
structure Head.Passes (head : Head) (text : List Char) (moved : Head) : Prop where
  ahead_eq : head.ahead = text ++ moved.ahead
  offset_eq : moved.offset = head.offset + text.length

namespace Head

variable {head between moved : Head} {text more : List Char}

theorem Passes.refl (head : Head) : head.Passes [] head := ⟨rfl, rfl⟩

theorem Passes.trans (h : head.Passes text between) (h' : between.Passes more moved) :
    head.Passes (text ++ more) moved := by
  constructor
  · rw [h.ahead_eq, h'.ahead_eq, List.append_assoc]
  · rw [h'.offset_eq, h.offset_eq, List.length_append, Nat.add_assoc]

/-- What stands somewhere behind a text stands there in front of it too. -/
theorem Passes.drop {place : Nat} (passes : head.Passes text moved)
    (behind : moved.offset ≤ place) :
    head.ahead.drop (place - head.offset) = moved.ahead.drop (place - moved.offset) := by
  have together : place - head.offset = text.length + (place - moved.offset) := by
    have moves := passes.offset_eq
    omega
  rw [passes.ahead_eq, together, List.drop_length_add_append]

/-- There is one place behind a text. -/
theorem passes_iff_eq_move (prefixed : text <+: head.ahead) :
    head.Passes text moved ↔ moved = head.move text.length := by
  obtain ⟨rest, whole⟩ := prefixed
  constructor
  · rintro ⟨ahead_eq, offset_eq⟩
    cases moved
    simp_all [move]
  · rintro rfl
    constructor <;> simp [move, ← whole]

end Head

namespace Reader

variable {head moved : Head}

theorem word_eq (expected : Word) (head : Head) :
    word expected head =
      if expected.letters.isPrefixOf head.ahead then
        ⟨[], none, .accepted () (head.move expected.letters.length)⟩
      else ⟨[], none, .refused⟩ := rfl

theorem blanks_eq (head : Head) :
    blanks head =
      if (head.ahead.takeWhile isBlank).isEmpty then ⟨[], none, .refused⟩
      else ⟨[], none, .accepted () (head.move (head.ahead.takeWhile isBlank).length)⟩ := rfl

theorem numeral_eq (head : Head) :
    numeral head =
      if (numeralDigits head.ahead).isEmpty then ⟨[], none, .refused⟩
      else ⟨[], none, .accepted (numeralValue (numeralDigits head.ahead))
        (head.move (numeralDigits head.ahead).length)⟩ := rfl

@[simp]
theorem fault_word (expected : Word) (head : Head) : (word expected head).fault = none := by
  rw [word_eq]
  split <;> rfl

@[simp]
theorem fault_blanks (head : Head) : (blanks head).fault = none := by
  rw [blanks_eq]
  split <;> rfl

@[simp]
theorem fault_numeral (head : Head) : (numeral head).fault = none := by
  rw [numeral_eq]
  split <;> rfl

/-- A word is accepted where the text goes on with its letters. -/
theorem word_accepted_iff {expected : Word} :
    (word expected head).ending = .accepted () moved ↔ head.Passes expected.letters moved := by
  rw [word_eq]
  split
  · rename_i found
    rw [Head.passes_iff_eq_move (List.isPrefixOf_iff_prefix.1 found)]
    simp [eq_comm]
  · rename_i missing
    apply iff_of_false (by simp)
    intro passes
    exact missing (List.isPrefixOf_iff_prefix.2 ⟨_, passes.ahead_eq.symm⟩)

/-- Blanks are accepted up to the next visible character. -/
theorem blanks_accepted_iff :
    (blanks head).ending = .accepted () moved ↔
      ∃ gap, IsGap gap ∧ ClearOf isBlank moved.ahead ∧ head.Passes gap moved := by
  have prefixed : head.ahead.takeWhile isBlank <+: head.ahead := List.takeWhile_prefix _
  rw [blanks_eq]
  constructor
  · split
    · intro refused
      cases refused
    · rename_i found
      intro accepted
      cases accepted
      refine ⟨_, ⟨mt List.isEmpty_iff.2 found, fun c hc => List.mem_takeWhile_imp hc⟩, ?_,
        (Head.passes_iff_eq_move prefixed).2 rfl⟩
      simpa only [Head.move, drop_length_takeWhile] using clearOf_dropWhile isBlank head.ahead
  · rintro ⟨gap, isGap, clear, passes⟩
    have run : head.ahead.takeWhile isBlank = gap := by
      rw [passes.ahead_eq]
      exact takeWhile_append_of_clearOf isGap.blank clear
    rw [run] at prefixed ⊢
    simp [isGap.nonempty, (Head.passes_iff_eq_move prefixed).1 passes]

/-- A numeral is accepted with all the digits that follow, or with as many as
it may have. -/
theorem numeral_accepted_iff {value : Nat} :
    (numeral head).ending = .accepted value moved ↔
      ∃ digits, IsNumeral value digits ∧ Longest digits moved.ahead ∧
        head.Passes digits moved := by
  have prefixed : numeralDigits head.ahead <+: head.ahead :=
    (List.take_prefix _ _).trans (List.takeWhile_prefix _)
  rw [numeral_eq]
  constructor
  · split
    · intro refused
      cases refused
    · rename_i found
      intro accepted
      cases accepted
      refine ⟨_, ⟨mt List.isEmpty_iff.2 found, List.length_take_le _ _, ?_, rfl⟩,
        numeralDigits_longest head.ahead, (Head.passes_iff_eq_move prefixed).2 rfl⟩
      intro c inDigits
      exact List.mem_takeWhile_imp (List.mem_of_mem_take inDigits)
  · rintro ⟨digits, isNumeral, longest, passes⟩
    have run : numeralDigits head.ahead = digits := by
      rw [passes.ahead_eq]
      exact numeralDigits_append isNumeral longest
    rw [run] at prefixed ⊢
    simp [isNumeral.nonempty, isNumeral.value_eq, (Head.passes_iff_eq_move prefixed).1 passes]

/-- A word that is read between blanks stands between two gaps. -/
theorem exists_gaps_of_spaced {α : Type} {expected : Word} {next : Reader α} {value : α}
    (accepted : ((do blanks; word expected; blanks; next : Reader α) head).ending =
      .accepted value moved) :
    ∃ before after behind, IsGap before ∧ IsGap after ∧
      head.Passes (before ++ (expected.letters ++ after)) behind ∧
      (next behind).ending = .accepted value moved := by
  obtain ⟨_, _, gapRead, accepted⟩ := bind_accepted_iff.1 accepted
  obtain ⟨_, _, wordRead, accepted⟩ := bind_accepted_iff.1 accepted
  obtain ⟨_, behind, gapRead', accepted⟩ := bind_accepted_iff.1 accepted
  obtain ⟨before, gapBefore, -, passesBefore⟩ := blanks_accepted_iff.1 gapRead
  obtain ⟨after, gapAfter, -, passesAfter⟩ := blanks_accepted_iff.1 gapRead'
  exact ⟨before, after, behind, gapBefore, gapAfter,
    passesBefore.trans ((word_accepted_iff.1 wordRead).trans passesAfter), accepted⟩

end Reader

end PluralForms.Rule
