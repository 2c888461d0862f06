/-
# Following a reader through a text

A reader at a text reduces to another one at what is left of the text if both
end alike and leave the same fault, wherever the head stands.  What a grammar
rule does with a text is found by reducing it word by word, until it takes the
text up to a rest or refuses it.
-/

import PluralForms.Proofs.Reader.Token

namespace PluralForms.Rule.Reader

open Text

variable {α β : Type}

/-- Reading the text comes down to reading the rest with the other reader. -/
structure Reduces (reader : Reader α) (text : List Char) (other : Reader α) (rest : List Char) :
    Prop where
  suffix : rest <:+ text
  ending : ∀ offset, (reader ⟨offset, text⟩).ending =
    (other ⟨offset + (text.length - rest.length), rest⟩).ending
  fault : ∀ offset, (reader ⟨offset, text⟩).fault =
    (other ⟨offset + (text.length - rest.length), rest⟩).fault

/-- The reader accepts a value from the text and leaves the rest, and no fault. -/
def Takes (reader : Reader α) (text : List Char) (value : α) (rest : List Char) : Prop :=
  Reduces reader text (accept value) rest

/-- The reader accepts nothing of the text and leaves this fault. -/
structure Refuses (reader : Reader α) (text : List Char) (fault : Option Fault) : Prop where
  ending : ∀ offset, (reader ⟨offset, text⟩).ending = .refused
  fault : ∀ offset, (reader ⟨offset, text⟩).fault = fault

section Composed

variable {reader other third first second : Reader α} {next : α → Reader β}
variable {text between rest : List Char} {value : α} {result : β} {latest : Option Fault}

theorem Reduces.refl (reader : Reader α) (text : List Char) : Reduces reader text reader text :=
  ⟨List.suffix_rfl, fun _ => by simp, fun _ => by simp⟩

theorem Reduces.trans (reduced : Reduces reader text other between)
    (further : Reduces other between third rest) : Reduces reader text third rest := by
  have shorter := reduced.suffix.length_le
  have shorterStill := further.suffix.length_le
  have together (offset : Nat) : offset + (text.length - between.length) +
      (between.length - rest.length) = offset + (text.length - rest.length) := by
    omega
  refine ⟨further.suffix.trans reduced.suffix, ?_, ?_⟩
  · intro offset
    rw [reduced.ending, further.ending, together]
  · intro offset
    rw [reduced.fault, further.fault, together]

theorem Takes.ending (taken : Takes reader text value rest) (offset : Nat) :
    (reader ⟨offset, text⟩).ending =
      .accepted value ⟨offset + (text.length - rest.length), rest⟩ :=
  Reduces.ending taken offset

theorem Takes.fault (taken : Takes reader text value rest) (offset : Nat) :
    (reader ⟨offset, text⟩).fault = none :=
  Reduces.fault taken offset

/-- A reader that reduces to one that refuses does so too. -/
theorem Reduces.refuses (reduced : Reduces reader text other rest)
    (refused : Refuses other rest latest) : Refuses reader text latest :=
  ⟨fun offset => (reduced.ending offset).trans (refused.ending _),
    fun offset => (reduced.fault offset).trans (refused.fault _)⟩

/-- Behind a text that was taken everything is up to the next reader. -/
theorem Takes.reduces_bind (taken : Takes first text value rest) :
    Reduces (first >>= next) text (next value) rest := by
  refine ⟨taken.suffix, ?_, ?_⟩
  · intro offset
    rw [bind_of_accepted (taken.ending offset)]
    rfl
  · intro offset
    rw [bind_of_accepted (taken.ending offset)]
    simp [Attempt.after, taken.fault]

theorem Takes.bind (taken : Takes first text value between)
    (takenNext : Takes (next value) between result rest) :
    Takes (first >>= next) text result rest :=
  taken.reduces_bind.trans takenNext

theorem Takes.bind_refuses (taken : Takes first text value between)
    (refused : Refuses (next value) between latest) : Refuses (first >>= next) text latest :=
  taken.reduces_bind.refuses refused

theorem Refuses.bind (refused : Refuses first text latest) :
    Refuses (first >>= next) text latest := by
  constructor
  · intro offset
    rw [bind_of_refused (refused.ending offset)]
    rfl
  · intro offset
    rw [bind_of_refused (refused.ending offset)]
    simp [Attempt.after, refused.fault]

theorem Takes.orElse (taken : Takes first text value rest) :
    Takes (first <|> second) text value rest := by
  refine ⟨taken.suffix, ?_, ?_⟩
  · intro offset
    rw [orElse_of_accepted (taken.ending offset), Reduces.ending taken]
  · intro offset
    rw [orElse_of_accepted (taken.ending offset), Reduces.fault taken]

/-- Of a reading that is refused without a fault no trace is left. -/
theorem Refuses.reduces_orElse (refused : Refuses first text none) :
    Reduces (first <|> second) text second text := by
  refine ⟨List.suffix_rfl, ?_, ?_⟩
  · intro offset
    rw [orElse_of_refused (refused.ending offset), Nat.sub_self]
    rfl
  · intro offset
    rw [orElse_of_refused (refused.ending offset), Nat.sub_self]
    simp [Attempt.after, refused.fault]

theorem Refuses.orElse_takes (refused : Refuses first text none)
    (taken : Takes second text value rest) : Takes (first <|> second) text value rest :=
  refused.reduces_orElse.trans taken

/-- Two readings that are refused leave the later fault if there is one. -/
theorem Refuses.orElse {earlier : Option Fault} (refused : Refuses first text earlier)
    (refusedToo : Refuses second text latest) :
    Refuses (first <|> second) text (latest.or earlier) := by
  constructor
  · intro offset
    rw [orElse_of_refused (refused.ending offset)]
    exact refusedToo.ending offset
  · intro offset
    rw [orElse_of_refused (refused.ending offset)]
    simp [Attempt.after, refused.fault, refusedToo.fault]

/-- A reading that is refused with a fault leaves it behind even where the other
reading is accepted, and refused only by what comes next. -/
theorem Refuses.orElse_bind {earlier : Option Fault} (refused : Refuses first text earlier)
    (refusedNext : Refuses (second >>= next) text latest) :
    Refuses ((first <|> second) >>= next) text (latest.or earlier) := by
  have same (offset : Nat) : ((first <|> second) >>= next) ⟨offset, text⟩ =
      (first ⟨offset, text⟩).after ((second >>= next) ⟨offset, text⟩) := by
    show andThen (first <|> second) next _ = Attempt.after _ (andThen second next _)
    simp only [andThen, orElse_of_refused (refused.ending offset), Attempt.after]
    cases (second ⟨offset, text⟩).ending <;> simp [Option.or_assoc]
  constructor
  · intro offset
    rw [same]
    exact refusedNext.ending offset
  · intro offset
    rw [same]
    simp [Attempt.after, refused.fault, refusedNext.fault]

theorem reduces_logged (construct : Construct) (finding : α → Finding) (reader : Reader α)
    (text : List Char) : Reduces (logged construct finding reader) text reader text :=
  ⟨List.suffix_rfl, fun _ => by simp, fun _ => by simp⟩

theorem reduces_nested (reader : Reader α) (text : List Char) :
    Reduces (nested reader) text reader text :=
  ⟨List.suffix_rfl, fun _ => by simp, fun _ => by simp⟩

theorem Takes.logged {construct : Construct} {finding : α → Finding}
    (taken : Takes reader text value rest) :
    Takes (logged construct finding reader) text value rest :=
  (reduces_logged construct finding reader text).trans taken

theorem Refuses.logged {construct : Construct} {finding : α → Finding}
    (refused : Refuses reader text latest) :
    Refuses (logged construct finding reader) text latest :=
  (reduces_logged construct finding reader text).refuses refused

end Composed

section Tokens

theorem takes_accept (value : α) (text : List Char) : Takes (accept value) text value text :=
  Reduces.refl _ text

theorem refuses_reject (fault : Fault) (text : List Char) :
    Refuses (reject fault : Reader α) text (some fault) :=
  ⟨fun _ => rfl, fun _ => rfl⟩

theorem takes_word (expected : Word) (rest : List Char) :
    Takes (word expected) (expected.letters ++ rest) () rest := by
  refine ⟨List.suffix_append _ _, ?_, fun _ => fault_word _ _⟩
  intro offset
  exact word_accepted_iff.2 ⟨rfl, by simp⟩

theorem refuses_word {expected : Word} {text : List Char} (missing : ¬ expected.letters <+: text) :
    Refuses (word expected) text none := by
  refine ⟨?_, fun _ => fault_word _ _⟩
  intro offset
  rw [word_eq, if_neg]
  simpa [List.isPrefixOf_iff_prefix] using missing

theorem takes_blanks {gap rest : List Char} (isGap : IsGap gap) (clear : ClearOf isBlank rest) :
    Takes blanks (gap ++ rest) () rest := by
  refine ⟨List.suffix_append _ _, ?_, fun _ => fault_blanks _⟩
  intro offset
  exact blanks_accepted_iff.2 ⟨gap, isGap, clear, rfl, by simp⟩

theorem refuses_blanks {text : List Char} (clear : ClearOf isBlank text) :
    Refuses blanks text none := by
  refine ⟨?_, fun _ => fault_blanks _⟩
  intro offset
  have noRun : text.takeWhile isBlank = [] :=
    takeWhile_append_of_clearOf (List.forall_mem_nil _) clear
  rw [blanks_eq, if_pos (by simp [noRun])]

theorem takes_numeral {value : Nat} {digits rest : List Char} (isNumeral : IsNumeral value digits)
    (longest : Longest digits rest) : Takes numeral (digits ++ rest) value rest := by
  refine ⟨List.suffix_append _ _, ?_, fun _ => fault_numeral _⟩
  intro offset
  exact numeral_accepted_iff.2 ⟨digits, isNumeral, longest, rfl, by simp⟩

/-- No word starts with a blank. -/
theorem clearOf_isBlank_word (expected : Word) (text : List Char) :
    ClearOf isBlank (expected.letters ++ text) := by
  cases expected <;> exact clearOf_cons.2 (by decide)

/-- Behind a word between two gaps everything is up to the next reader. -/
theorem reduces_spaced {before after rest : List Char} (gapBefore : IsGap before)
    (expected : Word) (gapAfter : IsGap after) (clear : ClearOf isBlank rest) (next : Reader α) :
    Reduces (do blanks; word expected; blanks; next)
      (before ++ (expected.letters ++ (after ++ rest))) next rest := by
  apply (takes_blanks gapBefore (clearOf_isBlank_word expected _)).reduces_bind.trans
  apply (takes_word expected _).reduces_bind.trans
  exact (takes_blanks gapAfter clear).reduces_bind

/-- Behind a gap no word is read but the one that stands there. -/
theorem refuses_spaced {gap rest : List Char} (isGap : IsGap gap) (clear : ClearOf isBlank rest)
    (expected : Word) (missing : ¬ expected.letters <+: rest) (next : Reader α) :
    Refuses (do blanks; word expected; next) (gap ++ rest) none :=
  (takes_blanks isGap clear).bind_refuses (refuses_word missing).bind

end Tokens

end PluralForms.Rule.Reader
