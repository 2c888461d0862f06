/-
# What a line tells

Every message of a log gives one line, and the line tells what the message is about: the name
of the construct stands between two spaces, and the digits of the offset run up to a colon or to
the end.  So what is known of the messages of a log is known of the lines of its trace.
-/

import PluralForms.Proofs.Number.Digits
import PluralForms.Proofs.Reader.Logging
import PluralForms.Rule.Trace

namespace PluralForms.Rule

open Number

/-- The line says of the construct that it passed or failed at the offset. -/
inductive IsLineAbout (construct : Construct) (offset : Nat) : String → Prop
  | passed (shown : String) :
      IsLineAbout construct offset s!"passed {construct.name} at {offset}: {shown}"
  | failed : IsLineAbout construct offset s!"failed {construct.name} at {offset}"

section Line

variable {construct other : Construct} {offset place : Nat} {line : String}

theorem Construct.name_injective (same : construct.name = other.name) : construct = other := by
  cases construct <;> cases other <;> first | rfl | exact absurd same (by decide)

/-- Behind its first word a line goes on with the name and the offset. -/
theorem IsLineAbout.toList_eq (isLine : IsLineAbout construct offset line) :
    ∃ word more, word.length = 7 ∧ ClearOf Char.isDigit more ∧ line.toList =
      word ++ (construct.name.toList ++ ([' ', 'a', 't', ' '] ++ (digits offset ++ more))) := by
  cases isLine with
  | passed shown =>
      exact ⟨"passed ".toList, ": ".toList ++ shown.toList, rfl, clearOf_cons.2 rfl,
        by simp [digits, toString]⟩
  | failed => exact ⟨"failed ".toList, [], rfl, clearOf_nil, by simp [digits, toString]⟩

/-- A line is about one construct at one offset. -/
theorem IsLineAbout.unique (isLine : IsLineAbout construct offset line)
    (isLine' : IsLineAbout other place line) : construct = other ∧ offset = place := by
  obtain ⟨word, more, length, clear, toList_eq⟩ := isLine.toList_eq
  obtain ⟨word', more', length', clear', toList_eq'⟩ := isLine'.toList_eq
  have behindWord := (List.append_inj (toList_eq.symm.trans toList_eq')
    (length.trans length'.symm)).2
  have noSpace (construct : Construct) : ∀ c ∈ construct.name.toList, (c != ' ') = true :=
    List.all_eq_true.1 (by cases construct <;> decide)
  obtain ⟨sameName, behindName⟩ := append_inj_of_clearOf (noSpace construct) (noSpace other)
    (clearOf_cons.2 rfl) (clearOf_cons.2 rfl) behindWord
  have behindGap : digits offset ++ more = digits place ++ more' := by simpa using behindName
  obtain ⟨sameDigits, -⟩ := append_inj_of_clearOf (fun _ => isDigit_of_mem_digits)
    (fun _ => isDigit_of_mem_digits) clear clear' behindGap
  exact ⟨Construct.name_injective (String.toList_injective sameName),
    digits_injective sameDigits⟩

end Line

section Trace

variable {n : Int} {log : List Event} {event : Event} {construct : Construct} {offset : Nat}
variable {line shown : String}

@[simp]
theorem trace_opened : trace n (.opened offset :: log) = trace n log := rfl

@[simp]
theorem trace_closed : trace n (.closed :: log) = trace n log := rfl

theorem trace_append (more : List Event) : trace n (log ++ more) = trace n log ++ trace n more :=
  List.filterMap_append

/-- The trace of a level ends with the line of its last message. -/
theorem getLast?_trace {message : Event} (last : log.getLast? = some message)
    (isLine : message.line? n = some line) :
    (trace n (.opened offset :: (log ++ [.closed]))).getLast? = some line := by
  obtain ⟨front, rfl⟩ := List.getLast?_eq_some_iff.1 last
  have single : trace n [message] = [line] := by
    rw [trace, List.filterMap_cons_some isLine, List.filterMap_nil]
  rw [trace_opened, trace_append, trace_append, single, trace_closed]
  simp [trace]

/-- The line of an event is about what the event is about. -/
theorem Event.exists_about_of_line? (isLine : event.line? n = some line) :
    ∃ construct offset, event.about? = some (construct, offset) ∧
      IsLineAbout construct offset line := by
  cases event with
  | opened offset => cases isLine
  | closed => cases isLine
  | passed construct offset finding =>
      obtain rfl := Option.some.inj isLine
      exact ⟨construct, offset, rfl, .passed _⟩
  | failed construct offset =>
      obtain rfl := Option.some.inj isLine
      exact ⟨construct, offset, rfl, .failed⟩

theorem Event.about?_of_isLineAbout (isLine : event.line? n = some line)
    (isAbout : IsLineAbout construct offset line) : event.about? = some (construct, offset) := by
  obtain ⟨construct', offset', about, isAbout'⟩ := exists_about_of_line? isLine
  obtain ⟨rfl, rfl⟩ := isAbout.unique isAbout'
  exact about

/-- Every message gives one line. -/
theorem length_trace (n : Int) (log : List Event) :
    (trace n log).length = (subjects log).length := by
  induction log with
  | nil => rfl
  | cons event log ih =>
      cases event with
      | opened offset => exact ih
      | closed => exact ih
      | passed construct offset finding => exact congrArg Nat.succ ih
      | failed construct offset => exact congrArg Nat.succ ih

/-- What a line of a trace is about is what a message is about. -/
theorem exists_mem_subjects_of_mem_trace (mem : line ∈ trace n log) :
    ∃ construct offset, (construct, offset) ∈ subjects log ∧ IsLineAbout construct offset line := by
  obtain ⟨event, inLog, isLine⟩ := List.mem_filterMap.1 mem
  obtain ⟨construct, offset, about, isAbout⟩ := Event.exists_about_of_line? isLine
  exact ⟨construct, offset, List.mem_filterMap.2 ⟨event, inLog, about⟩, isAbout⟩

/-- A line about a construct at an offset comes from a message about them. -/
theorem mem_subjects_of_isLineAbout (mem : line ∈ trace n log)
    (isAbout : IsLineAbout construct offset line) : (construct, offset) ∈ subjects log := by
  obtain ⟨event, inLog, isLine⟩ := List.mem_filterMap.1 mem
  exact List.mem_filterMap.2 ⟨event, inLog, Event.about?_of_isLineAbout isLine isAbout⟩

/-- Lines are kept apart as the messages are that they come from. -/
theorem pairwise_trace (n : Int) {apart : Construct × Nat → Construct × Nat → Prop}
    (pairwise : (subjects log).Pairwise apart) :
    (trace n log).Pairwise fun line later => ∀ construct offset, IsLineAbout construct offset line →
      ∀ other place, IsLineAbout other place later → apart (construct, offset) (other, place) := by
  rw [subjects, List.pairwise_filterMap] at pairwise
  rw [trace, List.pairwise_filterMap]
  apply pairwise.imp
  intro event later areApart line isLine laterLine isLaterLine construct offset isAbout other place
    isLaterAbout
  exact areApart _ (Event.about?_of_isLineAbout isLine isAbout) _
    (Event.about?_of_isLineAbout isLaterLine isLaterAbout)

/-- A line says that a construct passed only if a message does. -/
theorem exists_passed_of_mem_trace
    (mem : s!"passed {construct.name} at {offset}: {shown}" ∈ trace n log) :
    ∃ finding, Event.passed construct offset finding ∈ log := by
  obtain ⟨event, inLog, isLine⟩ := List.mem_filterMap.1 mem
  have about := Event.about?_of_isLineAbout isLine (.passed shown)
  cases event with
  | opened => cases about
  | closed => cases about
  | passed construct' offset' finding =>
      cases about
      exact ⟨finding, inLog⟩
  | failed construct' offset' =>
      have first := congrArg (fun line => line.toList.head?) (Option.some.inj isLine)
      simp [toString] at first

end Trace

end PluralForms.Rule
