/-
# Texts that differ in their gaps only

A text is respaced by putting some other gap in the place of every gap.  No gap is added
and none is left out, and the visible characters stay as they are.

Reading sees nothing of the change.  A word or a numeral has no blank in it, and blanks are
read up to the next visible character however many they are; so every token is found in
both texts or in neither, and behind it the one text is still the other one respaced.
-/

import PluralForms.Proofs.Reader.Grammar
import PluralForms.Proofs.Spelling.Chain
import PluralForms.Proofs.Spelling.Outcome

namespace PluralForms.Rule

open Text

/-- The second text is the first one with every run of blanks, as far as it goes, replaced by
another run of one blank or more. -/
inductive Respaced : List Char → List Char → Prop
  | nil : Respaced [] []
  | visible {c : Char} {text other : List Char} (seen : isBlank c = false)
      (rest : Respaced text other) : Respaced (c :: text) (c :: other)
  | gap {run run' text other : List Char} (isGap : IsGap run) (isGap' : IsGap run')
      (clear : ClearOf isBlank text) (rest : Respaced text other) :
      Respaced (run ++ text) (run' ++ other)

/-- The characters of a text that are not blank. -/
def visible (text : List Char) : List Char :=
  text.filter fun c => !isBlank c

theorem visible_append (text other : List Char) :
    visible (text ++ other) = visible text ++ visible other :=
  List.filter_append ..

theorem IsGap.visible_eq_nil {run : List Char} (isGap : IsGap run) : visible run = [] := by
  rw [visible, List.filter_eq_nil_iff]
  intro c inRun
  simp [isGap.blank c inRun]

namespace Respaced

variable {text other run rest : List Char} {c : Char}

/-- A text that starts visibly still does so when it is respaced. -/
theorem clearOf_isBlank (respaced : Respaced text other) (clear : ClearOf isBlank text) :
    ClearOf isBlank other := by
  cases respaced with
  | nil => exact clear
  | visible seen => exact clearOf_cons.2 seen
  | @gap run _ _ _ isGap =>
      obtain ⟨b, tail, rfl⟩ := List.exists_cons_of_ne_nil isGap.nonempty
      rw [List.cons_append, clearOf_cons, isGap.blank b List.mem_cons_self] at clear
      cases clear

/-- No digit comes to stand at the start. -/
theorem clearOf_isDigit (respaced : Respaced text other) (clear : ClearOf Char.isDigit text) :
    ClearOf Char.isDigit other := by
  cases respaced with
  | nil => exact clear
  | visible seen => exact clearOf_cons.2 (clearOf_cons.1 clear)
  | gap _ isGap' => exact isGap'.clearOf_isDigit _

theorem symm (respaced : Respaced text other) : Respaced other text := by
  induction respaced with
  | nil => exact .nil
  | visible seen _ ih => exact .visible seen ih
  | gap isGap isGap' clear rest ih => exact .gap isGap' isGap (rest.clearOf_isBlank clear) ih

theorem visible_eq (respaced : Respaced text other) :
    Rule.visible text = Rule.visible other := by
  induction respaced with
  | nil => rfl
  | visible seen _ ih => simpa [Rule.visible, seen] using ih
  | gap isGap isGap' _ _ ih =>
      rw [visible_append, visible_append, isGap.visible_eq_nil, isGap'.visible_eq_nil, ih]

theorem eq_nil_iff (respaced : Respaced text other) : text = [] ↔ other = [] := by
  cases respaced with
  | nil => exact Iff.rfl
  | visible => simp
  | gap isGap isGap' => simp [isGap.nonempty, isGap'.nonempty]

/-- A visible character in front stays where it is. -/
theorem exists_cons (respaced : Respaced (c :: text) other) (seen : isBlank c = false) :
    ∃ rest, other = c :: rest ∧ Respaced text rest := by
  generalize whole : c :: text = started at respaced
  cases respaced with
  | nil => cases whole
  | visible _ rest =>
      cases whole
      exact ⟨_, rfl, rest⟩
  | gap isGap =>
      obtain ⟨b, tail, rfl⟩ := List.exists_cons_of_ne_nil isGap.nonempty
      cases whole
      rw [isGap.blank c List.mem_cons_self] at seen
      cases seen

/-- Visible characters in front stay where they are. -/
theorem exists_append (respaced : Respaced (run ++ text) other)
    (seen : ∀ c ∈ run, isBlank c = false) : ∃ rest, other = run ++ rest ∧ Respaced text rest := by
  induction run generalizing other with
  | nil => exact ⟨other, rfl, respaced⟩
  | cons c run ih =>
      obtain ⟨tail, rfl, respacedTail⟩ := respaced.exists_cons (seen c List.mem_cons_self)
      obtain ⟨rest, rfl, respacedRest⟩ :=
        ih respacedTail fun d inRun => seen d (List.mem_cons_of_mem _ inRun)
      exact ⟨rest, rfl, respacedRest⟩

/-- In the place of a gap in front stands another one. -/
theorem exists_gap (respaced : Respaced (run ++ text) other) (isGap : IsGap run)
    (clear : ClearOf isBlank text) :
    ∃ run' rest, other = run' ++ rest ∧ IsGap run' ∧ Respaced text rest := by
  obtain ⟨b, tail, rfl⟩ := List.exists_cons_of_ne_nil isGap.nonempty
  generalize whole : b :: tail ++ text = started at respaced
  cases respaced with
  | nil => cases whole
  | visible seen =>
      cases whole
      rw [isGap.blank b List.mem_cons_self] at seen
      cases seen
  | gap isRun isRun' clearRest rest =>
      obtain ⟨-, rfl⟩ := Reader.gap_append_inj isGap isRun clear clearRest whole
      exact ⟨_, _, rfl, isRun', rest⟩

end Respaced

/-- What is ahead of the second head is what is ahead of the first one, respaced. -/
def Head.Respaced (head head' : Head) : Prop :=
  Rule.Respaced head.ahead head'.ahead

namespace Reader

/-- Readers that accept in both texts or in neither are parallel, unless they stop. -/
theorem parallel_of_accepted {α : Type} {reader : Reader α} (plain : Plain reader)
    (accepts : ∀ {head head' moved : Head} {value : α}, head.Respaced head' →
      (reader head).ending = .accepted value moved →
        ∃ moved', (reader head').ending = .accepted value moved' ∧ moved.Respaced moved')
    {head head' : Head} (respaced : head.Respaced head') :
    (reader head).ending.Parallel Head.Respaced Eq (reader head').ending := by
  cases found : (reader head).ending with
  | accepted value moved =>
      obtain ⟨moved', found', respacedMoved⟩ := accepts respaced found
      rw [found']
      exact .accepted rfl respacedMoved
  | refused =>
      cases found' : (reader head').ending with
      | accepted value moved' =>
          obtain ⟨moved, accepted, -⟩ := accepts respaced.symm found'
          rw [found] at accepted
          cases accepted
      | refused => exact .refused
      | tooDeep => exact absurd found' (plain.settles head')
  | tooDeep => exact absurd found (plain.settles head)

theorem isBlank_eq_false_of_mem_letters {expected : Word} {c : Char}
    (inWord : c ∈ expected.letters) : isBlank c = false := by
  have seen : expected.letters.all (fun c => !isBlank c) = true := by
    cases expected <;> decide
  simpa using List.all_eq_true.1 seen c inWord

/-- All tokens are found in a respaced text. -/
theorem keptByTokens_respaced : KeptByTokens Head.Respaced where
  word expected _ _ := by
    apply parallel_of_accepted (.word expected)
    intro head head' moved _ respaced accepted
    have passes := word_accepted_iff.1 accepted
    rw [Head.Respaced, passes.ahead_eq] at respaced
    obtain ⟨rest, ahead, respacedRest⟩ :=
      respaced.exists_append fun c inWord => isBlank_eq_false_of_mem_letters inWord
    exact ⟨⟨_, rest⟩, word_accepted_iff.2 ⟨ahead, rfl⟩, respacedRest⟩
  blanks {_ _} := by
    apply parallel_of_accepted .blanks
    intro head head' moved _ respaced accepted
    obtain ⟨run, isGap, clear, passes⟩ := blanks_accepted_iff.1 accepted
    rw [Head.Respaced, passes.ahead_eq] at respaced
    obtain ⟨run', rest, ahead, isGap', respacedRest⟩ := respaced.exists_gap isGap clear
    have clear' : ClearOf isBlank rest := respacedRest.clearOf_isBlank clear
    exact ⟨⟨_, rest⟩, blanks_accepted_iff.2 ⟨run', isGap', clear', ahead, rfl⟩, respacedRest⟩
  numeral {_ _} := by
    apply parallel_of_accepted .numeral
    intro head head' moved value respaced accepted
    obtain ⟨digits, numeral, longest, passes⟩ := numeral_accepted_iff.1 accepted
    rw [Head.Respaced, passes.ahead_eq] at respaced
    obtain ⟨rest, ahead, respacedRest⟩ := respaced.exists_append fun c inDigits =>
      isBlank_eq_false_of_isDigit (numeral.digit c inDigits)
    have longest' : Longest digits rest := longest.imp_right respacedRest.clearOf_isDigit
    exact ⟨⟨_, rest⟩, numeral_accepted_iff.2 ⟨digits, numeral, longest', ahead, rfl⟩,
      respacedRest⟩

end Reader

end PluralForms.Rule
