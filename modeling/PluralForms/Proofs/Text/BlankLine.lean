/-
# Splitting at blank lines

A text is split at blank lines from its start: where two line feeds stand, a piece ends, and the
next one starts behind them.  Texts that are joined with blank lines between them can be told apart
again in this way if none of them has a blank line of its own and none of them ends with a line
feed, and only then.
-/

import PluralForms.Proofs.Text.Joined

namespace PluralForms.Text

/-- Two line feeds stand in the text, one right behind the other. -/
def HasBlankLine (text : List Char) : Prop :=
  ['\n', '\n'] <:+: text

/-- A character other than a line feed is the first of the text. -/
def StartsVisibly : List Char → Prop
  | [] => False
  | c :: _ => c ≠ '\n'

instance : DecidablePred StartsVisibly
  | [] => inferInstanceAs (Decidable False)
  | c :: _ => inferInstanceAs (Decidable (c ≠ '\n'))

instance (text : List Char) : Decidable (HasBlankLine text) :=
  inferInstanceAs (Decidable (_ <:+: _))

/-- The pieces of a text between its blank lines, found from the start. -/
def splitAtBlankLines : List Char → List (List Char)
  | '\n' :: '\n' :: rest => [] :: splitAtBlankLines rest
  | c :: rest => (splitAtBlankLines rest).modifyHead (c :: ·)
  | [] => [[]]

section Blank

variable {text more rest : List Char} {c : Char}

theorem StartsVisibly.append (visible : StartsVisibly text) (more : List Char) :
    StartsVisibly (text ++ more) := by
  cases text with
  | nil => exact visible.elim
  | cons c text => exact visible

theorem StartsVisibly.exists_cons (visible : StartsVisibly text) :
    ∃ c rest, text = c :: rest ∧ c ≠ '\n' := by
  cases text with
  | nil => exact visible.elim
  | cons c text => exact ⟨c, text, rfl, visible⟩

theorem not_hasBlankLine_nil : ¬ HasBlankLine [] := by
  simp [HasBlankLine]

theorem hasBlankLine_cons :
    HasBlankLine (c :: text) ↔ c = '\n' ∧ text.head? = some '\n' ∨ HasBlankLine text := by
  rw [HasBlankLine, List.infix_cons_iff]
  apply or_congr_left
  cases text with
  | nil => simp
  | cons d text => simp [eq_comm]

/-- A visible character keeps the line feeds before it and behind it apart. -/
theorem hasBlankLine_append_cons (visible : c ≠ '\n') :
    HasBlankLine (text ++ c :: rest) ↔ HasBlankLine text ∨ HasBlankLine rest := by
  induction text with
  | nil => simp [hasBlankLine_cons, visible, not_hasBlankLine_nil]
  | cons d text ih =>
      rw [List.cons_append, hasBlankLine_cons, hasBlankLine_cons, ih, or_assoc]
      cases text with
      | nil => simp [visible]
      | cons e text => simp

/-- Behind a text that does not end with a line feed, one line feed makes no blank line. -/
theorem hasBlankLine_concat (ends : text.getLast? ≠ some '\n') :
    HasBlankLine (text ++ ['\n']) ↔ HasBlankLine text := by
  rcases List.eq_nil_or_concat text with rfl | ⟨front, last, rfl⟩
  · simp [hasBlankLine_cons, not_hasBlankLine_nil]
  · have visible : last ≠ '\n' := by simpa using ends
    rw [List.concat_eq_append, List.append_assoc, List.singleton_append,
      hasBlankLine_append_cons visible, hasBlankLine_append_cons visible]
    simp [hasBlankLine_cons, not_hasBlankLine_nil]

theorem not_hasBlankLine_of_not_mem (single : '\n' ∉ text) : ¬ HasBlankLine text :=
  fun blank => single (blank.subset List.mem_cons_self)

/-- A text without line feeds has no blank line, even if one line feed follows. -/
theorem not_hasBlankLine_concat (single : '\n' ∉ text) : ¬ HasBlankLine (text ++ ['\n']) := by
  rw [hasBlankLine_concat fun last => single (List.mem_of_getLast? last)]
  exact not_hasBlankLine_of_not_mem single

/-- Lines of which each starts with a visible character have a blank line among them if one of
them has. -/
theorem hasBlankLine_lines {lines : List (List Char)} (nonempty : lines ≠ [])
    (visible : ∀ line ∈ lines, StartsVisibly line) :
    HasBlankLine (['\n'].intercalate lines ++ ['\n']) ↔
      ∃ line ∈ lines, HasBlankLine (line ++ ['\n']) := by
  induction lines using joined_induction with
  | none => exact absurd rfl nonempty
  | single line => simp
  | more first second others ih =>
      have inside := ih (List.cons_ne_nil _ _) fun line mem => visible line (.tail _ mem)
      rw [List.intercalate_cons_cons, List.append_assoc, List.exists_mem_cons_iff, ← inside]
      have behindFirst : StartsVisibly (['\n'].intercalate (second :: others) ++ ['\n']) := by
        have visibleSecond : StartsVisibly second := visible second (by simp)
        cases others with
        | nil =>
            rw [List.intercalate_singleton]
            exact visibleSecond.append _
        | cons third others =>
            rw [List.intercalate_cons_cons, List.append_assoc, List.append_assoc]
            exact visibleSecond.append _
      obtain ⟨c, rest, starts, isVisible⟩ := behindFirst.exists_cons
      rw [starts, hasBlankLine_append_cons isVisible, hasBlankLine_cons]
      simp [isVisible]

end Blank

section Split

variable {text piece rest : List Char} {c : Char}

theorem splitAtBlankLines_cons (noBlankLine : ¬ (c = '\n' ∧ rest.head? = some '\n')) :
    splitAtBlankLines (c :: rest) = (splitAtBlankLines rest).modifyHead (c :: ·) := by
  rw [splitAtBlankLines]
  rintro others rfl rfl
  exact noBlankLine ⟨rfl, rfl⟩

/-- The first piece starts the text. -/
theorem exists_splitAtBlankLines_eq_cons (text : List Char) :
    ∃ first others, splitAtBlankLines text = first :: others ∧ first <+: text := by
  induction text using splitAtBlankLines.induct with
  | case1 rest ih => exact ⟨[], _, rfl, List.nil_prefix⟩
  | case2 c rest noBlankLine ih =>
      obtain ⟨first, others, split, starts⟩ := ih
      refine ⟨c :: first, others, ?_, List.cons_prefix_cons.2 ⟨rfl, starts⟩⟩
      rw [splitAtBlankLines, split, List.modifyHead_cons]
      exact noBlankLine
  | case3 => exact ⟨[], [], rfl, List.nil_prefix⟩

/-- No piece has a blank line. -/
theorem not_hasBlankLine_of_mem (mem : piece ∈ splitAtBlankLines text) : ¬ HasBlankLine piece := by
  induction text using splitAtBlankLines.induct generalizing piece with
  | case1 rest ih =>
      rcases List.mem_cons.1 mem with rfl | mem
      · exact not_hasBlankLine_nil
      · exact ih mem
  | case2 c rest noBlankLine ih =>
      obtain ⟨first, others, split, starts⟩ := exists_splitAtBlankLines_eq_cons rest
      rw [splitAtBlankLines, split, List.modifyHead_cons] at mem
      · rw [split] at ih
        rcases List.mem_cons.1 mem with rfl | mem
        · rw [hasBlankLine_cons]
          rintro (⟨rfl, feed⟩ | inside)
          · obtain ⟨tail, isFirst⟩ := List.head?_eq_some_iff.1 feed
            obtain ⟨behind, rfl⟩ := starts
            exact noBlankLine (tail ++ behind) rfl (by rw [isFirst]; rfl)
          · exact ih List.mem_cons_self inside
        · exact ih (.tail _ mem)
      · exact noBlankLine
  | case3 =>
      rw [List.mem_singleton.1 mem]
      exact not_hasBlankLine_nil

/-- A text without a blank line is a piece of its own. -/
theorem splitAtBlankLines_of_not_hasBlankLine (whole : ¬ HasBlankLine text) :
    splitAtBlankLines text = [text] := by
  induction text with
  | nil => rfl
  | cons c text ih =>
      rw [hasBlankLine_cons, not_or] at whole
      rw [splitAtBlankLines_cons whole.1, ih whole.2, List.modifyHead_cons]

/-- A piece ends at the first blank line behind it. -/
theorem splitAtBlankLines_append (whole : ¬ HasBlankLine (piece ++ ['\n'])) (rest : List Char) :
    splitAtBlankLines (piece ++ (['\n', '\n'] ++ rest)) = piece :: splitAtBlankLines rest := by
  induction piece with
  | nil => rfl
  | cons c piece ih =>
      rw [List.cons_append, hasBlankLine_cons, not_or] at whole
      have noBlankLine :
          ¬ (c = '\n' ∧ (piece ++ (['\n', '\n'] ++ rest)).head? = some '\n') := by
        cases piece with
        | nil => simpa using whole.1
        | cons d piece => simpa using whole.1
      rw [List.cons_append, splitAtBlankLines_cons noBlankLine, ih whole.2, List.modifyHead_cons]

/-- Texts that do not end with a line feed are told apart exactly if none of them has a blank
line. -/
theorem splitAtBlankLines_intercalate_iff {texts : List (List Char)} (nonempty : texts ≠ [])
    (ends : ∀ text ∈ texts, text.getLast? ≠ some '\n') :
    splitAtBlankLines (['\n', '\n'].intercalate texts) = texts ↔
      ∀ text ∈ texts, ¬ HasBlankLine text := by
  constructor
  · intro split text mem
    rw [← split] at mem
    exact not_hasBlankLine_of_mem mem
  · intro whole
    induction texts using joined_induction with
    | none => exact absurd rfl nonempty
    | single text =>
        rw [List.intercalate_singleton]
        exact splitAtBlankLines_of_not_hasBlankLine (whole text List.mem_cons_self)
    | more first second others ih =>
        have wholeFirst : ¬ HasBlankLine (first ++ ['\n']) := by
          rw [hasBlankLine_concat (ends first List.mem_cons_self)]
          exact whole first List.mem_cons_self
        rw [List.intercalate_cons_cons, List.append_assoc, splitAtBlankLines_append wholeFirst,
          ih (List.cons_ne_nil _ _) (fun text mem => ends text (.tail _ mem))
            (fun text mem => whole text (.tail _ mem))]

end Split

end PluralForms.Text
