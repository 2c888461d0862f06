/-
# Readers that run side by side

Two readers run in parallel if, from heads that belong together, they do the same: both
accept, with values and heads that belong together again, or both refuse, or both stop;
and they leave faults that belong together.

What belongs together is a parameter.  The ways of putting readers together keep readers
in parallel, so all that has to be shown of a relation between heads is that words, blanks
and numerals keep it.
-/

import PluralForms.Proofs.Reader.Token

namespace PluralForms.Rule

/-- Two endings of the same sort, whose values and heads belong together. -/
inductive Ending.Parallel {α β : Type} (heads : Head → Head → Prop) (values : α → β → Prop) :
    Ending α → Ending β → Prop
  | accepted {value : α} {other : β} {head head' : Head} (alike : values value other)
      (together : heads head head') :
      Parallel heads values (.accepted value head) (.accepted other head')
  | refused : Parallel heads values .refused .refused
  | tooDeep : Parallel heads values .tooDeep .tooDeep

/-- Two attempts that end alike and leave faults that belong together. -/
structure Attempt.Parallel {α β : Type} (heads : Head → Head → Prop)
    (faults : Fault → Fault → Prop) (values : α → β → Prop) (attempt : Attempt α)
    (other : Attempt β) : Prop where
  ending : attempt.ending.Parallel heads values other.ending
  fault : Option.Rel faults attempt.fault other.fault

variable {α β γ δ : Type} {heads : Head → Head → Prop} {faults : Fault → Fault → Prop}
variable {values : α → γ → Prop} {results : β → δ → Prop}

theorem eq_of_rel {fault other : Option Fault} (same : Option.Rel Eq fault other) :
    fault = other := by
  cases same with
  | some same => rw [same]
  | none => rfl

/-- The latest of two faults belongs to the latest of two others. -/
theorem rel_or {latest earlier latest' earlier' : Option Fault}
    (late : Option.Rel faults latest latest') (early : Option.Rel faults earlier earlier') :
    Option.Rel faults (latest.or earlier) (latest'.or earlier') := by
  cases late with
  | some alike => exact .some alike
  | none => exact early

/-- Values that belong together closely belong together. -/
theorem Ending.Parallel.mono {closer : α → γ → Prop} {ending : Ending α} {other : Ending γ}
    (parallel : ending.Parallel heads closer other)
    (alike : ∀ value value', closer value value' → values value value') :
    ending.Parallel heads values other := by
  cases parallel with
  | accepted closer together => exact .accepted (alike _ _ closer) together
  | refused => exact .refused
  | tooDeep => exact .tooDeep

theorem Ending.Parallel.refl (ending : Ending α) : ending.Parallel Eq Eq ending := by
  cases ending with
  | accepted value head => exact .accepted rfl rfl
  | refused => exact .refused
  | tooDeep => exact .tooDeep

/-- What comes after two attempts decides whether the whole is parallel, but for the faults
that they have left already. -/
theorem Attempt.Parallel.after {earlier : Attempt α} {earlier' : Attempt γ}
    {later : Attempt β} {later' : Attempt δ}
    (early : Option.Rel faults earlier.fault earlier'.fault)
    (late : later.Parallel heads faults results later') :
    (earlier.after later).Parallel heads faults results (earlier'.after later') :=
  ⟨late.ending, rel_or late.fault early⟩

namespace Reader

/-- The readers do the same from heads that belong together. -/
def Parallel (heads : Head → Head → Prop) (faults : Fault → Fault → Prop)
    (values : α → γ → Prop) (reader : Reader α) (other : Reader γ) : Prop :=
  ∀ head head', heads head head' → (reader head).Parallel heads faults values (other head')

namespace Parallel

variable {reader first second : Reader α} {other first' second' : Reader γ}
variable {next : α → Reader β} {next' : γ → Reader δ}

theorem accept {value : α} {found : γ} (alike : values value found) :
    Parallel heads faults values (accept value) (accept found) :=
  fun _ _ together => ⟨.accepted alike together, .none⟩

theorem refuse : Parallel heads faults values refuse refuse :=
  fun _ _ _ => ⟨.refused, .none⟩

theorem reject {fault fault' : Fault} (alike : faults fault fault') :
    Parallel heads faults values (reject fault) (reject fault') :=
  fun _ _ _ => ⟨.refused, .some alike⟩

theorem giveUp : Parallel heads faults values giveUp giveUp :=
  fun _ _ _ => ⟨.tooDeep, .none⟩

theorem mono {closer : α → γ → Prop} (parallel : Parallel heads faults closer reader other)
    (alike : ∀ value value', closer value value' → values value value') :
    Parallel heads faults values reader other :=
  fun head head' together =>
    ⟨(parallel head head' together).ending.mono alike, (parallel head head' together).fault⟩

/-- What one reader makes of its value may belong to the bare value of the other. -/
theorem map_left {closer : α → δ → Prop} {other : Reader δ}
    (parallel : Parallel heads faults closer reader other) (f : α → β)
    (alike : ∀ value value', closer value value' → results (f value) value') :
    Parallel heads faults results (reader >>= fun value => Reader.accept (f value)) other := by
  intro head head' together
  obtain ⟨ending, fault⟩ := parallel head head' together
  generalize isEnding : (reader head).ending = found at ending
  generalize isEnding' : (other head').ending = found' at ending
  cases ending with
  | accepted closer moved =>
      rw [bind_of_accepted isEnding]
      exact ⟨isEnding' ▸ .accepted (alike _ _ closer) moved, fault⟩
  | refused =>
      rw [bind_of_refused isEnding]
      exact ⟨isEnding' ▸ .refused, fault⟩
  | tooDeep =>
      rw [bind_of_tooDeep isEnding]
      exact ⟨isEnding' ▸ .tooDeep, fault⟩

theorem bind (parallel : Parallel heads faults values first first')
    (parallelNext : ∀ value value', values value value' →
      Parallel heads faults results (next value) (next' value')) :
    Parallel heads faults results (first >>= next) (first' >>= next') := by
  intro head head' together
  have early := parallel head head' together
  have alike := early.ending
  generalize isEnding : (first head).ending = ending at alike
  generalize isEnding' : (first' head').ending = ending' at alike
  cases alike with
  | accepted alike moved =>
      rw [bind_of_accepted isEnding, bind_of_accepted isEnding']
      exact .after early.fault (parallelNext _ _ alike _ _ moved)
  | refused =>
      rw [bind_of_refused isEnding, bind_of_refused isEnding']
      exact .after early.fault (Parallel.refuse head head' together)
  | tooDeep =>
      rw [bind_of_tooDeep isEnding, bind_of_tooDeep isEnding']
      exact .after early.fault (Parallel.giveUp head head' together)

/-- The usual case, where both have read the same value so far. -/
theorem bind_same {next' : α → Reader δ} {first' : Reader α}
    (parallel : Parallel heads faults Eq first first')
    (parallelNext : ∀ value, Parallel heads faults results (next value) (next' value)) :
    Parallel heads faults results (first >>= next) (first' >>= next') := by
  apply parallel.bind
  rintro value _ rfl
  exact parallelNext value

theorem orElse (parallel : Parallel heads faults values first first')
    (parallelToo : Parallel heads faults values second second') :
    Parallel heads faults values (first <|> second) (first' <|> second') := by
  intro head head' together
  have early := parallel head head' together
  have alike := early.ending
  generalize isEnding : (first head).ending = ending at alike
  generalize isEnding' : (first' head').ending = ending' at alike
  cases alike with
  | accepted alike moved =>
      rw [orElse_of_accepted isEnding, orElse_of_accepted isEnding']
      exact early
  | refused =>
      rw [orElse_of_refused isEnding, orElse_of_refused isEnding']
      exact .after early.fault (parallelToo head head' together)
  | tooDeep =>
      rw [orElse_of_tooDeep isEnding, orElse_of_tooDeep isEnding']
      exact early

/-- The log does not matter, so neither reader need keep one. -/
theorem logged_left (parallel : Parallel heads faults values reader other)
    (construct : Construct) (finding : α → Finding) :
    Parallel heads faults values (logged construct finding reader) other := by
  intro head head' together
  constructor
  · rw [ending_logged]
    exact (parallel head head' together).ending
  · rw [fault_logged]
    exact (parallel head head' together).fault

theorem logged (parallel : Parallel heads faults values reader other)
    (construct : Construct) (finding : α → Finding) (finding' : γ → Finding) :
    Parallel heads faults values (logged construct finding reader)
      (logged construct finding' other) := by
  intro head head' together
  obtain ⟨ending, fault⟩ := parallel.logged_left construct finding head head' together
  constructor
  · rw [ending_logged construct finding' other]
    exact ending
  · rw [fault_logged construct finding' other]
    exact fault

theorem nested_left (parallel : Parallel heads faults values reader other) :
    Parallel heads faults values (nested reader) other :=
  fun head head' together =>
    ⟨(parallel head head' together).ending, (parallel head head' together).fault⟩

theorem nested (parallel : Parallel heads faults values reader other) :
    Parallel heads faults values (nested reader) (nested other) :=
  fun head head' together =>
    ⟨(parallel head head' together).ending, (parallel head head' together).fault⟩

end Parallel

/-- From heads that belong together every token is found in both texts or in neither, and
the heads behind it belong together. -/
structure KeptByTokens (heads : Head → Head → Prop) : Prop where
  word : ∀ (expected : Word) {head head' : Head}, heads head head' →
    (word expected head).ending.Parallel heads Eq (word expected head').ending
  blanks : ∀ {head head' : Head}, heads head head' →
    (blanks head).ending.Parallel heads Eq (blanks head').ending
  numeral : ∀ {head head' : Head}, heads head head' →
    (numeral head).ending.Parallel heads Eq (numeral head').ending

/-- From one head every token does what it does. -/
theorem keptByTokens_eq : KeptByTokens Eq where
  word _ := by
    rintro _ _ rfl
    exact .refl _
  blanks := by
    rintro _ _ rfl
    exact .refl _
  numeral := by
    rintro _ _ rfl
    exact .refl _

section Tokens

variable (kept : KeptByTokens heads)

include kept

theorem parallel_word (expected : Word) :
    Parallel heads faults Eq (word expected) (word expected) := by
  intro head head' together
  refine ⟨kept.word expected together, ?_⟩
  rw [fault_word, fault_word]
  exact .none

theorem parallel_blanks : Parallel heads faults Eq blanks blanks := by
  intro head head' together
  refine ⟨kept.blanks together, ?_⟩
  rw [fault_blanks, fault_blanks]
  exact .none

theorem parallel_numeral : Parallel heads faults Eq numeral numeral := by
  intro head head' together
  refine ⟨kept.numeral together, ?_⟩
  rw [fault_numeral, fault_numeral]
  exact .none

/-- Readers of what stands behind the same word between blanks. -/
theorem Parallel.spaced {next : Reader β} {next' : Reader δ}
    (parallel : Parallel heads faults results next next') (expected : Word) :
    Parallel heads faults results (do blanks; word expected; blanks; next)
      (do blanks; word expected; blanks; next') := by
  apply (parallel_blanks kept).bind_same
  intro _
  apply (parallel_word kept expected).bind_same
  intro _
  apply (parallel_blanks kept).bind_same
  intro _
  exact parallel

end Tokens

end Reader

end PluralForms.Rule
