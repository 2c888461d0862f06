/-
# Recognising without actions

A recogniser without actions loses nothing and adds nothing.  The texts in the value that it
yields, read from left to right through all lists, are the characters between the place where
it started and the place that it came to.

A literal and a pattern yield what they take.  Everything else hands on the values of its
parts in the order of the places between which they were taken.
-/

import PluralForms.Proofs.Recognizer.Ahead
import PluralForms.Proofs.Recognizer.Running

namespace PluralForms

namespace Text.Place

variable {start middle last : Place}

/-- Onward of a place, the characters in between are the first ones ahead. -/
theorem Onward.sliceTo_eq (onward : start.Onward last) :
    start.sliceTo last.offset = start.ahead.take (last.boundary - start.boundary) := by
  have sameBoundary : Text.boundary start.text.length last.offset = last.boundary := by
    rw [boundary, onward.sameText]
  rw [sliceTo, slice, sameBoundary, List.drop_take]
  rfl

/-- Onward of a place, what is ahead lacks the characters in between. -/
theorem Onward.ahead_eq (onward : start.Onward last) (inside : start.Inside) :
    last.ahead = start.ahead.drop (last.boundary - start.boundary) := by
  have here := boundary_eq_offset inside
  have there := boundary_eq_offset (onward.inside inside)
  have notBack := onward.notBack
  rw [ahead, ahead, onward.sameText, List.drop_drop]
  congr 1
  omega

theorem sliceTo_self (place : Place) : place.sliceTo place.offset = [] := by
  rw [sliceTo, slice, List.drop_take, Nat.sub_self, List.take_zero]

/-- The characters up to a place in between, and those from there on. -/
theorem Onward.sliceTo_append (first : start.Onward middle) (second : middle.Onward last)
    (inside : start.Inside) :
    start.sliceTo middle.offset ++ middle.sliceTo last.offset = start.sliceTo last.offset := by
  have insideToo := first.inside inside
  have here := boundary_eq_offset inside
  have there := boundary_eq_offset insideToo
  have beyond := boundary_eq_offset (second.inside insideToo)
  have notBack := first.notBack
  have notBackToo := second.notBack
  rw [first.sliceTo_eq, second.sliceTo_eq, first.ahead_eq inside,
    (first.trans second).sliceTo_eq, ← List.take_add]
  congr 1
  omega

/-- Advancing passes as many of the characters ahead, as long as there are any. -/
theorem sliceTo_advance {place : Place} (inside : place.Inside) (count : Nat) :
    place.sliceTo (place.advance count).offset = place.ahead.take count := by
  have onward := onward_advance inside (Int.natCast_nonneg count)
  have here := boundary_eq_offset inside
  have there := boundary_eq_offset (onward.inside inside)
  have size := length_ahead inside
  have advanced : (place.advance count).offset = min (place.offset + count) place.text.length := rfl
  rw [onward.sliceTo_eq, List.take_eq_take_iff]
  omega

end Text.Place

namespace Recognizer

open Text

mutual

/-- The texts that a value is made of, from left to right, one after another; none if it is
made of anything else. -/
def Value.fringe : Value → Option (List Char)
  | .text characters => some characters
  | .list items => fringeAll items
  | .truth _ => none
  | .number _ => none
  | .nothing => none
termination_by structural value => value

/-- The texts that several values are made of. -/
def Value.fringeAll : List Value → Option (List Char)
  | [] => some []
  | item :: rest =>
      match item.fringe, fringeAll rest with
      | some characters, some others => some (characters ++ others)
      | _, _ => none
termination_by structural items => items

end

theorem Value.fringe_cons {item : Value} {rest : List Value} {characters others : List Char}
    (first : item.fringe = some characters) (behind : (Value.list rest).fringe = some others) :
    (Value.list (item :: rest)).fringe = some (characters ++ others) := by
  rw [Value.fringe] at behind
  rw [Value.fringe, Value.fringeAll, first, behind]

mutual

/-- No part of the recogniser is an action. -/
def isVerbatim {ν : Type} : Recognizer ν → Bool
  | .literal _ => true
  | .pattern _ => true
  | .sequence items => areVerbatim items
  | .choice items => areVerbatim items
  | .repetition item _ _ => item.isVerbatim
  | .acting _ _ => false
  | .deferred _ => true
termination_by structural recognizer => recognizer

/-- No part of the recognisers is an action. -/
def areVerbatim {ν : Type} : List (Recognizer ν) → Bool
  | [] => true
  | item :: rest => item.isVerbatim && areVerbatim rest
termination_by structural items => items

end

theorem isVerbatim_of_mem {ν : Type} {items : List (Recognizer ν)} {item : Recognizer ν}
    (verbatim : areVerbatim items = true) (isItem : item ∈ items) : item.isVerbatim = true := by
  induction items with
  | nil => cases isItem
  | cons first rest ih =>
      rw [areVerbatim, Bool.and_eq_true] at verbatim
      rcases List.mem_cons.1 isItem with rfl | behind
      · exact verbatim.1
      · exact ih verbatim.2 behind

/-- A literal yields what it takes. -/
theorem fringe_of_matchLiteral {text : List Char} {start : Place} {found : Match}
    (here : matchLiteral text start = some found) (inside : start.Inside) :
    found.value.fringe = some (start.sliceTo found.place.offset) := by
  rw [matchLiteral_eq inside] at here
  split at here
  next isPrefix =>
    cases here
    have taken := List.prefix_iff_eq_take.1 (List.isPrefixOf_iff_prefix.1 isPrefix)
    rw [Place.sliceTo_advance inside, ← taken, Value.fringe]
  · cases here

/-- A pattern yields what it takes. -/
theorem fringe_of_matchPattern {form : Pattern} {start : Place} {found : Match}
    (here : matchPattern form start = some found) (inside : start.Inside) :
    found.value.fringe = some (start.sliceTo found.place.offset) := by
  rw [matchPattern_eq inside] at here
  split at here
  · cases here
  · split at here
    · cases here
    · cases here
      rw [Place.sliceTo_advance inside, Value.fringe]

/-- A success without actions is made of the characters that it took.  The parts of it took
them one behind the other. -/
theorem Yields.fringe_eq {ν : Type} {keeps : ν → Recognizer ν → Prop}
    {makes : Action → Value → Value → Prop} {recognizer : Recognizer ν} {start : Place}
    {found : Match} (yields : Yields keeps makes recognizer start found)
    (kept : ∀ label definition, keeps label definition → definition.isVerbatim = true)
    (verbatim : recognizer.isVerbatim = true) (inside : start.Inside) :
    found.value.fringe = some (start.sliceTo found.place.offset) := by
  induction yields with
  | literal here => exact fringe_of_matchLiteral here inside
  | pattern here => exact fringe_of_matchPattern here inside
  | nothing => rw [Place.sliceTo_self, Value.fringe, Value.fringeAll]
  | next head others first behind =>
      rw [isVerbatim, areVerbatim, Bool.and_eq_true] at verbatim
      have onward := head.onward inside
      have insideToo := onward.inside inside
      rw [← onward.sliceTo_append (others.onward insideToo) inside]
      exact Value.fringe_cons (first verbatim.1 inside) (behind verbatim.2 insideToo)
  | chosen offered success ih =>
      rw [isVerbatim] at verbatim
      exact ih (isVerbatim_of_mem verbatim offered) inside
  | enough => rw [Place.sliceTo_self, Value.fringe, Value.fringeAll]
  | again allowed head others first behind =>
      rw [isVerbatim] at verbatim
      have onward := head.onward inside
      have insideToo := onward.inside inside
      rw [← onward.sliceTo_append (others.onward insideToo) inside]
      exact Value.fringe_cons (first verbatim inside) (behind verbatim insideToo)
  | acted success made ih => cases verbatim
  | followed isKept success ih => exact ih (kept _ _ isKept) inside

mutual

/-- Numbering references brings in no action and takes none away. -/
theorem isVerbatim_number : ∀ (recognizer : Recognizer String) (next : Nat),
    (recognizer.number next).1.isVerbatim = recognizer.isVerbatim
  | .literal _, _ => rfl
  | .pattern _, _ => rfl
  | .sequence items, next => areVerbatim_numberAll items next
  | .choice items, next => areVerbatim_numberAll items next
  | .repetition item _ _, next => isVerbatim_number item next
  | .acting _ _, _ => rfl
  | .deferred _, _ => rfl
termination_by structural recognizer => recognizer

theorem areVerbatim_numberAll : ∀ (items : List (Recognizer String)) (next : Nat),
    areVerbatim (numberAll items next).1 = areVerbatim items
  | [], _ => rfl
  | item :: rest, next =>
      congrArg₂ and (isVerbatim_number item next) (areVerbatim_numberAll rest (item.number next).2)
termination_by structural items => items

end

/-- Neither the recogniser of the system nor a definition has an action. -/
def System.isVerbatim {ν : Type} (system : System ν) : Bool :=
  system.start.isVerbatim && system.definitions.all fun entry => entry.2.isVerbatim

theorem System.isVerbatim_labelled (system : System String) :
    system.labelled.isVerbatim = system.isVerbatim := by
  have definitions (entries : List (String × Recognizer String)) (next : Nat) :
      ((numberDefinitions entries next).1.all fun entry => entry.2.isVerbatim) =
        entries.all fun entry => entry.2.isVerbatim := by
    induction entries generalizing next with
    | nil => rfl
    | cons entry rest ih => exact congrArg₂ and (isVerbatim_number entry.2 next) (ih _)
  exact congrArg₂ and (isVerbatim_number system.start 0) (definitions system.definitions _)

/-- No definition that is kept has an action. -/
def Memory.IsVerbatim (memory : Memory) : Prop :=
  ∀ label definition, memory.Keeps label definition → definition.isVerbatim = true

theorem isVerbatim_of_definition {system : System Label} (verbatim : system.isVerbatim = true)
    {label : Label} {definition : Recognizer Label}
    (defined : system.definition label = .ok definition) : definition.isVerbatim = true := by
  rw [System.isVerbatim, Bool.and_eq_true, List.all_eq_true] at verbatim
  exact verbatim.2 _ (System.exists_entry_of_definition defined)

/-- A reference to a definition without actions keeps nothing else. -/
theorem preserves_consult {system : System Label} (verbatim : system.isVerbatim = true)
    (label : Label) : Preserves Memory.IsVerbatim (consult system label) :=
  fun _ _ _ isGood returned =>
    keepsOnly_of_consult (fun _ _ => isVerbatim_of_definition verbatim) isGood returned

/-- What look-ups preserve, runs on one place after another preserve. -/
theorem preserves_runEach {good : Memory → Prop} {system : System String}
    (lookUps : ∀ label, Preserves good (consult system.labelled label)) (places : List Place) :
    Preserves good (system.runEach places) := by
  have acts (action : Action) (value : Value) :
      Preserves good (perform action value : Run (Option Value)) := by
    unfold perform
    split
    · exact .pure
    · exact .throw _
  induction places with
  | nil => exact .pure
  | cons place rest ih =>
      unfold System.runEach System.run
      refine .bind (preserves_runToDepth acts lookUps _ _ place) fun found => ?_
      exact .bind ih fun others => .pure

/-- A system without actions that is run on one place after another loses nothing of what it
takes and adds nothing.  The value of every success is made of texts alone, and these are the
characters from its place to the place that it came to. -/
theorem fringe_of_runEach {system : System String} (verbatim : system.isVerbatim = true)
    {places : List Place} (inside : ∀ place ∈ places, place.Inside)
    {results : List (Option Match)} {after : Memory}
    (returned : system.runEach places .empty = .ok (results, after)) :
    List.Forall₂ (fun place result => ∀ found, result = some found →
      found.value.fringe = some (place.sliceTo found.place.offset)) places results := by
  rw [← system.isVerbatim_labelled] at verbatim
  have kept : after.IsVerbatim := by
    refine preserves_runEach (preserves_consult verbatim) places ?_ returned
    intro label definition isKept
    cases isKept
  obtain ⟨-, arises⟩ := gives_runEach after system places inside returned
  rw [System.isVerbatim, Bool.and_eq_true] at verbatim
  refine ((List.forall₂_and_left _ _).2 ⟨inside, arises (.refl after)⟩).imp ?_
  rintro place result ⟨insideHere, arisen⟩ found isFound
  exact (arisen found isFound).2.fringe_eq kept verbatim.1 insideHere

/-- A list with a list in it.  Letters are tried with an exclamation mark behind them first, and
a bracket that is not closed is given back. -/
theorem fringe_of_runEach_of_list :
    let letters : Recognizer String := .pattern ⟨[.lower], 1, none⟩
    let item : Recognizer String := .choice [.sequence [letters, .literal ['!']],
      .sequence [.literal ['('], .deferred "items", .literal [')']], letters]
    let items : Recognizer String :=
      .sequence [item, .repetition (.sequence [.literal [','], item]) 0 none]
    let system : System String := ⟨.optional (.deferred "items"), [("items", items)]⟩
    let place : Place := .ofString "ab,(c,d!),e" 0
    let unclosed : Place := .ofString "x(y" 1
    system.isVerbatim = true ∧ (∀ here ∈ [place, unclosed], here.Inside) ∧
      ∃ found nothing after,
        system.runEach [place, unclosed] .empty = .ok ([some found, some nothing], after) ∧
        found.place.offset = 11 ∧ found.value.fringe = some "ab,(c,d!),e".toList ∧
        nothing.place.offset = 1 ∧ nothing.value.fringe = some [] := by
  intro letters item items system place unclosed
  have verbatim : system.isVerbatim = true := rfl
  have inside : ∀ here ∈ [place, unclosed], here.Inside := by
    simp [place, unclosed, Place.ofString, Place.Inside]
  have computed : (system.runEach [place, unclosed] .empty).toOption.map
      (fun answer => answer.1.map (Option.map (·.place.offset))) = some [some 11, some 1] := by
    decide +kernel
  cases ran : system.runEach [place, unclosed] .empty with
  | error stop =>
      rw [ran] at computed
      cases computed
  | ok answer =>
      obtain ⟨results, after⟩ := answer
      rw [ran] at computed
      obtain ⟨nothing, found, rfl, offset, offset'⟩ : ∃ nothing found,
          results = [some found, some nothing] ∧ found.place.offset = 11 ∧
            nothing.place.offset = 1 := by
        simpa [Except.toOption, List.map_eq_cons_iff] using computed
      obtain ⟨spelled, spelled', -⟩ : _ ∧ _ ∧ True := by
        simpa using fringe_of_runEach verbatim inside ran
      refine ⟨verbatim, inside, found, nothing, after, rfl, offset, ?_, offset', ?_⟩
      · rw [spelled, offset]
        rfl
      · rw [spelled', offset']
        rfl

end Recognizer

end PluralForms
