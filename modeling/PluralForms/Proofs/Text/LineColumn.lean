/-
# Lines and columns

Moving over one character goes on to the next column, and moving over a line feed to the start of
the next line.  Everything about lines and columns follows from that: on a text they start at one,
they tell any two offsets apart and keep their order, and with the start of the line an offset is
found again.
-/

import Mathlib.Data.List.Count
import Mathlib.Data.Prod.Lex
import PluralForms.Text.Place

namespace PluralForms.Text

/-- The offset at which a line starts: that of the text, or the one behind the line feed that ends
the line before. -/
def lineStart (text : List Char) : Nat → Nat
  | 0 | 1 => 0
  | line + 2 => text.idxOfNth '\n' line + 1

namespace Place

variable {text : List Char} {offset : Nat} {c : Char}

theorem behind_eq_take (inside : offset ≤ text.length) :
    (⟨text, offset⟩ : Place).behind = text.take offset := by
  rw [behind, boundary, boundary_natCast inside]

theorem line_eq (inside : offset ≤ text.length) :
    (⟨text, offset⟩ : Place).line = (text.take offset).count '\n' + 1 := by
  rw [line, behind_eq_take inside]

/-- On the text a column counts characters and nothing else. -/
theorem column_eq (inside : offset ≤ text.length) :
    (⟨text, offset⟩ : Place).column =
      (((text.take offset).reverse.takeWhile (· ≠ '\n')).length : Int) + 1 := by
  rw [column, lineSoFar, behind_eq_take inside, boundary_eq_offset ⟨by simp, by simpa⟩,
    List.length_reverse, Int.sub_self, Int.add_zero]

theorem advance_one (found : text[offset]? = some c) :
    (⟨text, offset⟩ : Place).advance 1 = ⟨text, (offset + 1 : Nat)⟩ := by
  have inside : offset < text.length := (List.getElem?_eq_some_iff.1 found).1
  have fits : (offset : Int) + 1 ≤ text.length := by omega
  rw [advance, Int.min_eq_left fits]
  rfl

theorem take_succ (found : text[offset]? = some c) :
    text.take (offset + 1) = text.take offset ++ [c] := by
  rw [List.take_add_one, found, Option.toList_some]

/-- A line feed ends a line, and no other character does. -/
theorem line_succ (found : text[offset]? = some c) :
    (⟨text, (offset + 1 : Nat)⟩ : Place).line =
      if c = '\n' then (⟨text, offset⟩ : Place).line + 1 else (⟨text, offset⟩ : Place).line := by
  have inside : offset < text.length := (List.getElem?_eq_some_iff.1 found).1
  rw [line_eq inside, line_eq (Nat.le_of_lt inside), take_succ found, List.count_append]
  split
  case isTrue feed => simp [feed]
  case isFalse other => simp [other]

/-- Behind a line feed columns start again. -/
theorem column_succ (found : text[offset]? = some c) :
    (⟨text, (offset + 1 : Nat)⟩ : Place).column =
      if c = '\n' then 1 else (⟨text, offset⟩ : Place).column + 1 := by
  have inside : offset < text.length := (List.getElem?_eq_some_iff.1 found).1
  rw [column_eq inside, column_eq (Nat.le_of_lt inside), take_succ found, List.reverse_concat]
  split
  case isTrue feed => simp [feed]
  case isFalse other => simp [other]

theorem line_column_zero (text : List Char) :
    (⟨text, (0 : Nat)⟩ : Place).line = 1 ∧ (⟨text, (0 : Nat)⟩ : Place).column = 1 := by
  rw [line_eq (Nat.zero_le _), column_eq (Nat.zero_le _)]
  exact ⟨rfl, rfl⟩

theorem one_le_column (inside : offset ≤ text.length) : 1 ≤ (⟨text, offset⟩ : Place).column := by
  rw [column_eq inside]
  omega

/-- A line starts with the text or behind a line feed. -/
theorem column_eq_one_iff (inside : offset ≤ text.length) :
    (⟨text, offset⟩ : Place).column = 1 ↔ offset = 0 ∨ text[offset - 1]? = some '\n' := by
  cases offset with
  | zero => exact iff_of_true (line_column_zero text).2 (.inl rfl)
  | succ offset =>
      have found := List.getElem?_eq_getElem inside
      have pos := one_le_column (Nat.le_of_lt inside)
      rw [column_succ found, Nat.add_sub_cancel, found, Option.some_inj]
      split
      case isTrue feed => exact iff_of_true rfl (.inr feed)
      case isFalse other => exact iff_of_false (by omega) (by simpa using other)

/-- The next place is shown behind this one. -/
theorem toLex_lt_succ (found : text[offset]? = some c) :
    let here : Place := ⟨text, offset⟩
    let next : Place := ⟨text, (offset + 1 : Nat)⟩
    toLex (here.line, here.column) < toLex (next.line, next.column) := by
  intro here next
  rw [line_succ found, column_succ found, Prod.Lex.toLex_lt_toLex]
  split
  · exact .inl (Nat.lt_succ_self _)
  · exact .inr ⟨rfl, Int.lt_succ _⟩

/-- Places are shown in their order. -/
theorem toLex_lt_of_lt {other : Nat} (before : offset < other) (inside : other ≤ text.length) :
    let here : Place := ⟨text, offset⟩
    let there : Place := ⟨text, other⟩
    toLex (here.line, here.column) < toLex (there.line, there.column) := by
  induction other, before using Nat.le_induction with
  | base => exact toLex_lt_succ (List.getElem?_eq_getElem inside)
  | succ other before ih =>
      exact (ih (Nat.le_of_lt inside)).trans (toLex_lt_succ (List.getElem?_eq_getElem inside))

/-- A character is found by how many of its kind stand before it. -/
theorem idxOfNth_count_take (found : text[offset]? = some c) :
    text.idxOfNth c ((text.take offset).count c) = offset := by
  obtain ⟨inside, rfl⟩ := List.getElem?_eq_some_iff.1 found
  rw [← List.countBefore_eq_count_take, List.idxOfNth_countBefore_getElem]

/-- With the start of its line an offset is found again. -/
theorem eq_lineStart_add (inside : offset ≤ text.length) :
    let here : Place := ⟨text, offset⟩
    (offset : Int) = lineStart text here.line + here.column - 1 := by
  induction offset with
  | zero =>
      obtain ⟨line, column⟩ := line_column_zero text
      intro here
      rw [line, column]
      rfl
  | succ offset ih =>
      have found := List.getElem?_eq_getElem inside
      have before := ih (Nat.le_of_lt inside)
      intro here
      rw [line_succ found, column_succ found]
      split
      case isTrue feed =>
          -- The line feed just passed is the one with as many before it as lines had ended.
          have start : lineStart text ((⟨text, offset⟩ : Place).line + 1) = offset + 1 := by
            rw [feed] at found
            rw [line_eq (Nat.le_of_lt inside), lineStart, idxOfNth_count_take found]
          rw [start]
          omega
      case isFalse other => omega

end Place

/-- Lines and columns, both counted from one, are a faithful image of the offsets of a text: they
keep their order, with the start of the line they give the offset back, the first column is behind
line feeds and at the start of the text only, and moving on by one character goes to the next
column, or to the next line if the character is a line feed. -/
theorem line_column_faithful (source : String) :
    let place (offset : Nat) : Place := .ofString source offset
    (∀ p q, p < q → q ≤ source.length →
      toLex ((place p).line, (place p).column) < toLex ((place q).line, (place q).column)) ∧
    ∀ p ≤ source.length,
      1 ≤ (place p).line ∧ 1 ≤ (place p).column ∧
      (p : Int) = lineStart source.toList (place p).line + (place p).column - 1 ∧
      ((place p).column = 1 ↔ p = 0 ∨ source.toList[p - 1]? = some '\n') ∧
      ∀ c, source.toList[p]? = some c →
        let next := (place p).advance 1
        (next.line, next.column) =
          if c = '\n' then ((place p).line + 1, 1) else ((place p).line, (place p).column + 1) := by
  intro place
  rw [← String.length_toList]
  refine ⟨fun p q before inside => Place.toLex_lt_of_lt before inside, fun p inside => ?_⟩
  refine ⟨Nat.le_add_left 1 _, Place.one_le_column inside, Place.eq_lineStart_add inside,
    Place.column_eq_one_iff inside, fun c found => ?_⟩
  intro next
  have moved : next = ⟨source.toList, (p + 1 : Nat)⟩ := Place.advance_one found
  rw [moved, Place.line_succ found, Place.column_succ found]
  split
  · rfl
  · rfl

/-- Behind two line feeds in a row the third line starts. -/
theorem line_column_behind_lineFeeds :
    let place (offset : Nat) : Place := .ofString "\n\nn" offset
    (1 : Nat) < 2 ∧ 2 ≤ "\n\nn".length ∧
      toLex ((place 1).line, (place 1).column) < toLex ((place 2).line, (place 2).column) ∧
      (2 : Int) = lineStart "\n\nn".toList (place 2).line + (place 2).column - 1 ∧
      (place 2).column = 1 ∧ "\n\nn".toList[2]? = some 'n' ∧
      (((place 2).advance 1).line, ((place 2).advance 1).column) =
        ((place 2).line, (place 2).column + 1) := by
  intro place
  have before : (1 : Nat) < 2 := by decide
  have inside : 2 ≤ "\n\nn".length := by decide
  have found : "\n\nn".toList[2]? = some 'n' := by decide
  obtain ⟨ordered, single⟩ := line_column_faithful "\n\nn"
  obtain ⟨-, -, offset, first, next⟩ := single 2 inside
  exact ⟨before, inside, ordered 1 2 before inside, offset, first.2 (.inr (by decide)), found,
    next 'n' found⟩

end PluralForms.Text
