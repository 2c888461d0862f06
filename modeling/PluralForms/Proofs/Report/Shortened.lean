/-
# Cutting before laying out

Laying a report out with a limit on its texts is the same as cutting the texts of the report first
and then laying it out without a limit.  Cutting never empties a text, so the same parts are shown
either way.  A limit that is not negative leaves a text that is cut three characters longer than
the limit, and cutting with it once more changes nothing.
-/

import PluralForms.Proofs.Report.Unambiguous

namespace PluralForms

open Text

namespace Text

variable {most : Int} {text : String}

/-- Of a text that is too long its first characters and three dots are left. -/
theorem shorten_of_lt (nonneg : 0 ≤ most) (long : most < text.length) :
    shorten most text = String.ofList (text.toList.take most.toNat) ++ "..." := by
  have front : slice text.toList 0 most = text.toList.take most.toNat := by
    have stop : boundary text.toList.length most = most.toNat := by
      rw [String.length_toList, boundary]
      split <;> omega
    have start : boundary text.toList.length 0 = 0 := by
      simp [boundary]
    rw [slice, start, stop, List.drop_zero]
  rw [shorten, if_pos long, front]

theorem length_shorten_of_lt (nonneg : 0 ≤ most) (long : most < text.length) :
    ((shorten most text).length : Int) = most + 3 := by
  have dots : "...".length = 3 := by decide
  rw [shorten_of_lt nonneg long, String.length_append, String.length_ofList, List.length_take,
    String.length_toList, dots]
  omega

theorem length_shorten_le (nonneg : 0 ≤ most) (text : String) :
    ((shorten most text).length : Int) ≤ most + 3 := by
  by_cases short : (text.length : Int) ≤ most
  · rw [shorten_eq_self short]
    omega
  · exact Int.le_of_eq (length_shorten_of_lt nonneg (Int.not_le.1 short))

/-- What was cut is cut at the same place again, and the dots are put back. -/
theorem shorten_shorten (nonneg : 0 ≤ most) (text : String) :
    shorten most (shorten most text) = shorten most text := by
  by_cases short : (text.length : Int) ≤ most
  · rw [shorten_eq_self short, shorten_eq_self short]
  · have long : most < text.length := Int.not_le.1 short
    have stillLong : most < (shorten most text).length := by
      rw [length_shorten_of_lt nonneg long]
      omega
    have front : (shorten most text).toList.take most.toNat = text.toList.take most.toNat := by
      rw [shorten_of_lt nonneg long, String.toList_append, String.toList_ofList,
        List.take_append_of_le_length, List.take_take, Nat.min_self]
      rw [List.length_take, String.length_toList]
      omega
    rw [shorten_of_lt nonneg stillLong, front, ← shorten_of_lt nonneg long]

/-- Cutting leaves at least the dots. -/
theorem shorten_ne_empty (nonempty : text ≠ "") (most : Int) : shorten most text ≠ "" := by
  unfold shorten
  split
  · simp
  · exact nonempty

/-- A text cut unless it is empty, which a negative limit does not excuse. -/
def shortenNonempty (most : Int) (text : String) : String :=
  if text = "" then text else shorten most text

theorem shortenNonempty_of_ne (nonempty : text ≠ "") (most : Int) :
    shortenNonempty most text = shorten most text :=
  if_neg nonempty

theorem shortenNonempty_shortenNonempty (nonneg : 0 ≤ most) (text : String) :
    shortenNonempty most (shortenNonempty most text) = shortenNonempty most text := by
  by_cases empty : text = ""
  · rw [empty]
    rfl
  · rw [shortenNonempty_of_ne empty, shortenNonempty_of_ne (shorten_ne_empty empty most),
      shorten_shorten nonneg]

end Text

/-- The report with its texts cut as a style shows them: a block shows the whole message, and a
hint that is empty is not shown at all. -/
def Report.cut (style : Style) (most : Int) (report : Report) : Report :=
  { report with
    message := if style = .block then report.message else shorten most report.message
    rule := report.rule.map (shorten most)
    hint := report.hint.map (shortenNonempty most) }

namespace Layout

/-- The parts that a report may lack, as far as a layout shows them: by the labels of lines or the
names of entries.  A single line shows none of them. -/
def parts (layout : Layout) (report : Report) : List String :=
  match layout.style with
  | .block => (present (layout.blockFields report)).map Prod.fst
  | .line => []
  | .json => (layout.jsonEntries report).map Prod.fst

variable (style : Style) (coloured : Bool) (most : Int) (report : Report)

/-- A hint is shown cut exactly if it is shown whole. -/
theorem nonempty_hint_cut :
    nonempty (report.cut style most).hint = (nonempty report.hint).map (shorten most) := by
  unfold Report.cut
  cases report.hint with
  | none => rfl
  | some hint =>
      by_cases empty : hint = ""
      · simp [nonempty, Option.filter, empty, shortenNonempty]
      · simp [nonempty, Option.filter, empty, shortenNonempty_of_ne, shorten_ne_empty empty]

theorem shown_of_limit :
    (⟨style, some most, coloured⟩ : Layout).shown = shorten most := rfl

theorem shown_of_noLimit : (⟨style, none, coloured⟩ : Layout).shown = id := rfl

theorem blockFields_cut :
    (⟨style, some most, coloured⟩ : Layout).blockFields report =
      (⟨style, none, coloured⟩ : Layout).blockFields (report.cut style most) := by
  rw [blockFields, blockFields, nonempty_hint_cut, shown_of_limit, shown_of_noLimit,
    Option.map_id_fun, id, id]
  rfl

theorem jsonEntries_cut :
    (⟨.json, some most, coloured⟩ : Layout).jsonEntries report =
      (⟨.json, none, coloured⟩ : Layout).jsonEntries (report.cut .json most) := by
  rw [jsonEntries, jsonEntries, nonempty_hint_cut, shown_of_limit, shown_of_noLimit, Option.map_map]
  simp only [Report.cut, Option.map_map, reduceCtorEq, if_false]
  rfl

/-- A limit on texts leaves the same parts to be shown. -/
theorem parts_cut :
    (⟨style, some most, coloured⟩ : Layout).parts report =
      (⟨style, none, coloured⟩ : Layout).parts report := by
  unfold parts
  cases style with
  | block =>
      simp only [blockFields]
      cases report.span <;> cases report.rule <;> cases nonempty report.hint <;>
        cases nonempty report.helpUrl <;> rfl
  | line => rfl
  | json =>
      simp only [jsonEntries]
      cases report.span <;> cases report.rule <;> cases nonempty report.hint <;>
        cases nonempty report.helpUrl <;> rfl

theorem cut_cut (nonneg : 0 ≤ most) :
    (report.cut style most).cut style most = report.cut style most := by
  have message :
      ((report.cut style most).cut style most).message = (report.cut style most).message := by
    by_cases isBlock : style = .block
    · simp [Report.cut, isBlock]
    · simp [Report.cut, isBlock, shorten_shorten nonneg]
  have twice : shorten most ∘ shorten most = shorten most := funext (shorten_shorten nonneg)
  have twiceToo : shortenNonempty most ∘ shortenNonempty most = shortenNonempty most :=
    funext (shortenNonempty_shortenNonempty nonneg)
  simp only [Report.cut, Option.map_map, twice, twiceToo] at message ⊢
  rw [message]

end Layout

/-- Limits on texts act on the report and not on what is laid out: the texts are cut, each of those
that the style cuts, and all parts stay. -/
theorem render_eq_render_cut (style : Style) (coloured : Bool) (most : Int) (report : Report) :
    let cutting : Layout := ⟨style, some most, coloured⟩
    let whole : Layout := ⟨style, none, coloured⟩
    cutting.render report = whole.render (report.cut style most) ∧
      cutting.parts report = whole.parts report ∧
      (0 ≤ most →
        (report.cut style most).cut style most = report.cut style most ∧
        ∀ text : String,
          shorten most text =
            (if (text.length : Int) ≤ most then text
              else String.ofList (text.toList.take most.toNat) ++ "...") ∧
          ((shorten most text).length : Int) ≤ most + 3 ∧
          shorten most (shorten most text) = shorten most text) := by
  intro cutting whole
  refine ⟨?_, Layout.parts_cut style coloured most report, fun nonneg => ⟨?_, fun text => ?_⟩⟩
  · cases style with
    | block =>
        have lines : cutting.blockLines report = whole.blockLines (report.cut .block most) := by
          rw [Layout.blockLines_eq, Layout.blockLines_eq, Layout.blockFields_cut]
          rfl
        exact congrArg ("\n".intercalate ·) lines
    | line => rfl
    | json => exact congrArg Json.object (Layout.jsonEntries_cut coloured most report)
  · exact Layout.cut_cut style most report nonneg
  · refine ⟨?_, length_shorten_le nonneg text, shorten_shorten nonneg text⟩
    split
    case isTrue short => exact shorten_eq_self short
    case isFalse long => exact shorten_of_lt nonneg (by omega)

/-- With no room at all the dots are left of a text, and stay; an empty rule stays empty. -/
theorem shorten_to_dots :
    let report : Report := ⟨.modulusZero, "Divisor", none, some "", none, some "", "note"⟩
    (0 : Int) ≤ 0 ∧ (report.cut .json 0).cut .json 0 = report.cut .json 0 ∧
      (report.cut .json 0).rule = some "" ∧ shorten 0 report.message = "..." ∧
      shorten 0 (shorten 0 report.message) = "..." := by
  intro report
  have noRoom : (0 : Int) ≤ 0 := Int.le_refl 0
  obtain ⟨twice, texts⟩ := (render_eq_render_cut .json false 0 report).2.2 noRoom
  obtain ⟨once, -, again⟩ := texts report.message
  have dots : shorten 0 report.message = "..." := once.trans (by decide)
  exact ⟨noRoom, twice, by decide, dots, again.trans dots⟩

end PluralForms
