/-
# Telling reports apart

Several reports are laid out with a blank line between two of them, and are told apart by their
blank lines again.  As lines and as JSON they always are.  In a block the rule is shown as
it was given, so a rule with a blank line in it, or one that ends with a line feed, tears its own
report in two.  Nothing else does: all other lines of a block are single lines, each of them
starts with a visible character, and the last one is a hint or a page with help.
-/

import PluralForms.Proofs.Judgement.Cutting
import PluralForms.Proofs.Report.Decoded
import PluralForms.Proofs.Report.OneLine
import PluralForms.Proofs.Text.BlankLine

namespace PluralForms

open Rule Text

namespace Text

variable {text : String}

/-- The pieces of a text between its blank lines. -/
def pieces (text : String) : List String :=
  (splitAtBlankLines text.toList).map String.ofList

theorem OneLine.not_hasBlankLine (single : OneLine text) : ¬ HasBlankLine text.toList :=
  not_hasBlankLine_of_not_mem single

theorem OneLine.not_hasBlankLine_concat (single : OneLine text) :
    ¬ HasBlankLine (text.toList ++ ['\n']) :=
  Text.not_hasBlankLine_concat single

theorem OneLine.getLast?_ne (single : OneLine text) : text.toList.getLast? ≠ some '\n' :=
  fun last => single (List.mem_of_getLast? last)

/-- Texts that do not end with a line feed are told apart exactly if none of them has a blank
line. -/
theorem pieces_intercalate_iff {texts : List String} (nonempty : texts ≠ [])
    (ends : ∀ text ∈ texts, text.toList.getLast? ≠ some '\n') :
    pieces ("\n\n".intercalate texts) = texts ↔
      ∀ text ∈ texts, ¬ HasBlankLine text.toList := by
  have sameChars : pieces ("\n\n".intercalate texts) = texts ↔
      splitAtBlankLines (['\n', '\n'].intercalate (texts.map String.toList)) =
        texts.map String.toList := by
    rw [pieces, String.toList_intercalate]
    constructor
    · intro same
      have chars := congrArg (List.map String.toList) same
      simpa [Function.comp_def] using chars
    · intro same
      have strings := congrArg (List.map String.ofList) same
      simpa [Function.comp_def] using strings
  rw [sameChars, splitAtBlankLines_intercalate_iff (by simpa using nonempty)
    (List.forall_mem_map.2 ends)]
  exact List.forall_mem_map

end Text

/-- The report is one that an alarm carries when someone insists on an answer. -/
def Report.Attached (report : Report) : Prop :=
  ∃ rule operand alarm, insist (.usable rule) (.usable operand) = .error (.alarm alarm) ∧
    alarm.report = some report

theorem Report.Attached.of_insist (rule : String) (operand : Operand) {cause : Cause}
    (raised : insist (.usable rule) (.usable operand) = .error (.alarm (.ofCause cause))) :
    cause.report.Attached :=
  ⟨rule, operand, _, raised, rfl⟩

/-- That an operand is to blame was known before. -/
theorem Reply.ComesTo.known_eq {rule text : String} {known : Option Cause} {reply : Reply}
    (comesTo : reply.ComesTo rule known (.indefinite (.operandNotFinite text))) :
    known = some (.operandNotFinite text) := by
  cases comesTo <;> rfl

/-- Such a report is that of a cause, and its message stays on one line. -/
theorem Report.Attached.exists_cause {report : Report} (attached : report.Attached) :
    ∃ cause : Cause, report = cause.report ∧ OneLine cause.message := by
  obtain ⟨rule, operand, alarm, raised, carried⟩ := attached
  obtain ⟨cause, assessed, rfl⟩ := exists_cause_of_alarm raised
  refine ⟨cause, (Option.some.inj carried).symm, Cause.oneLine_message ?_⟩
  rintro text rfl
  have known := (assessReading_ok_iff.1 ((assess_eq rule operand).symm.trans assessed)).known_eq
  obtain ⟨fault, -, named⟩ := Option.map_eq_some_iff.1 known
  cases fault <;> cases named
  exact operand.oneLine_shown

namespace Layout

variable (layout : Layout) (cause : Cause)

/-- The line of a block that shows the rule. -/
def ruleLine (rule : String) : String :=
  "  = rule: " ++ layout.shown rule

variable {layout cause}

/-- A blank line at the line of the rule comes from the rule. -/
theorem hasBlankLine_ruleLine {rule : String} :
    HasBlankLine ((layout.ruleLine rule).toList ++ ['\n']) ↔
      HasBlankLine (layout.shown rule ++ "\n").toList := by
  have front : ¬ HasBlankLine "  = rule:".toList := OneLine.not_hasBlankLine (by decide)
  have behindFront : (layout.ruleLine rule).toList ++ ['\n'] =
      "  = rule:".toList ++ ' ' :: (layout.shown rule ++ "\n").toList := by
    simp [ruleLine]
  rw [behindFront, hasBlankLine_append_cons (by decide)]
  exact or_iff_right front

theorem oneLine_severityShown (severity : String) : OneLine (layout.severityShown severity) := by
  have word : OneLine (severityWord severity) := by
    unfold severityWord
    split <;> decide
  have parameters (word : String) : OneLine (colour word) := by
    unfold colour
    split <;> decide
  unfold severityShown
  dsimp only
  split
  · simp only [oneLine_append, oneLine_toString, word, parameters, and_true]
    decide
  · exact word

theorem ruleLine_mem_blockLines {rule : String} (isRule : cause.rule = some rule) :
    layout.ruleLine rule ∈ layout.blockLines cause.report := by
  have isShown : cause.report.rule = some rule := isRule
  simp only [blockLines, isShown, Option.map_some, Option.toList_some, List.mem_append,
    List.mem_singleton]
  exact .inl (.inl (.inr rfl))

theorem nonempty_eq_some_iff {text : Option String} {content : String} :
    nonempty text = some content ↔ text = some content ∧ content ≠ "" := by
  simp [nonempty, Option.filter_eq_some_iff]

theorem nonempty_hint : nonempty cause.report.hint = some cause.hint :=
  nonempty_eq_some_iff.2 ⟨rfl, cause.hint_ne_empty⟩

theorem oneLine_helpLine : OneLine s!"  = help: {layout.shown cause.hint}" := by
  simp only [oneLine_append, oneLine_toString, layout.oneLine_shown cause.oneLine_hint, and_true]
  decide

theorem oneLine_noteLine {url : String} (isUrl : nonempty cause.report.helpUrl = some url) :
    OneLine s!"  = note: see {url}" := by
  have single := (Cause.oneLine_helpUrl (nonempty_eq_some_iff.1 isUrl).1).1
  simp only [oneLine_append, oneLine_toString, single, and_true]
  decide

/-- Every line of a block but that of the rule is a single line. -/
theorem oneLine_of_mem_blockLines {line : String} (single : OneLine cause.message)
    (mem : line ∈ layout.blockLines cause.report) :
    OneLine line ∨ ∃ rule, cause.rule = some rule ∧ line = layout.ruleLine rule := by
  simp only [blockLines, List.mem_append, List.mem_singleton, Option.mem_toList,
    Option.map_eq_some_iff] at mem
  rcases mem with (((rfl | ⟨span, -, rfl⟩) | ⟨rule, isRule, rfl⟩) | ⟨hint, isHint, rfl⟩) |
    ⟨url, isUrl, rfl⟩
  · have message : OneLine cause.report.message := single
    left
    simp only [oneLine_append, oneLine_toString, oneLine_severityShown, Code.oneLine_name,
      message, true_and, and_true]
    decide
  · left
    simp only [oneLine_append, oneLine_toString, oneLine_nat, and_true]
    decide
  · exact .inr ⟨rule, isRule, rfl⟩
  · obtain rfl : cause.hint = hint := Option.some.inj (nonempty_hint.symm.trans isHint)
    exact .inl oneLine_helpLine
  · exact .inl (oneLine_noteLine isUrl)

/-- The last line of a block is a hint or a page with help. -/
theorem exists_getLast?_blockLines (layout : Layout) (cause : Cause) :
    ∃ last, (layout.blockLines cause.report).getLast? = some last ∧ OneLine last := by
  simp only [blockLines, nonempty_hint, Option.map_some, Option.toList_some]
  cases isUrl : nonempty cause.report.helpUrl with
  | none =>
      refine ⟨s!"  = help: {layout.shown cause.hint}", ?_, oneLine_helpLine⟩
      rw [Option.map_none, Option.toList_none, List.append_nil, List.getLast?_concat]
  | some url =>
      refine ⟨s!"  = note: see {url}", ?_, oneLine_noteLine isUrl⟩
      rw [Option.map_some, Option.toList_some, List.getLast?_concat]

theorem startsVisibly_severityShown (severity : String) :
    StartsVisibly (layout.severityShown severity).toList := by
  unfold severityShown
  dsimp only
  split
  · simp only [String.toList_append]
    refine (((StartsVisibly.append ?_ _).append _).append _).append _
    decide
  · unfold severityWord
    split <;> decide

/-- Every line of a block starts with a visible character. -/
theorem startsVisibly_of_mem_blockLines {report : Report} {line : String}
    (mem : line ∈ layout.blockLines report) : StartsVisibly line.toList := by
  simp only [blockLines, List.mem_append, List.mem_singleton, Option.mem_toList,
    Option.map_eq_some_iff] at mem
  have behind {front : String} (visible : StartsVisibly front.toList) (more : String) :
      StartsVisibly (front ++ more).toList := by
    rw [String.toList_append]
    exact visible.append _
  rcases mem with (((rfl | ⟨span, -, rfl⟩) | ⟨rule, -, rfl⟩) | ⟨hint, -, rfl⟩) | ⟨url, -, rfl⟩
  · exact behind (behind (behind (behind (startsVisibly_severityShown _) _) _) _) _
  · exact behind (by decide) _
  · exact behind (by decide) _
  · exact behind (by decide) _
  · exact behind (by decide) _

variable (layout) in
/-- As a line and as JSON a report is a single line. -/
theorem oneLine_render (single : OneLine cause.message) (notBlock : layout.style ≠ .block) :
    OneLine (layout.render cause.report) := by
  unfold render
  split
  case h_1 isBlock => exact absurd isBlock notBlock
  case h_2 =>
    have message : OneLine (layout.shown cause.report.message) := layout.oneLine_shown single
    simp only [oneLine_append, oneLine_toString, Code.oneLine_name, message, true_and, and_true]
    decide
  case h_3 =>
    intro mem
    exact absurd (Json.space_le_of_mem_object mem) (by decide)

theorem toList_render (isBlock : layout.style = .block) (report : Report) :
    (layout.render report).toList =
      ['\n'].intercalate ((layout.blockLines report).map String.toList) := by
  simp [render, isBlock, String.toList_intercalate]

/-- No report ends with a line feed. -/
theorem getLast?_render_ne (single : OneLine cause.message) :
    (layout.render cause.report).toList.getLast? ≠ some '\n' := by
  by_cases isBlock : layout.style = .block
  · obtain ⟨last, isLast, isSingle⟩ := exists_getLast?_blockLines layout cause
    obtain ⟨c, rest, starts, -⟩ :=
      (startsVisibly_of_mem_blockLines (List.mem_of_getLast? isLast)).exists_cons
    have isLastPart : ((layout.blockLines cause.report).map String.toList).getLast? =
        some last.toList := by
      rw [List.getLast?_map, isLast, Option.map_some]
    rw [toList_render isBlock, getLast?_intercalate isLastPart (by simp [starts])]
    exact isSingle.getLast?_ne
  · exact (layout.oneLine_render single isBlock).getLast?_ne

/-- A report has a blank line exactly if it is a block and its rule has one, or ends with one half
of one. -/
theorem hasBlankLine_render_iff (single : OneLine cause.message) :
    HasBlankLine (layout.render cause.report).toList ↔
      layout.style = .block ∧
        ∃ rule, cause.rule = some rule ∧ HasBlankLine (layout.shown rule ++ "\n").toList := by
  by_cases isBlock : layout.style = .block
  · rw [← hasBlankLine_concat (getLast?_render_ne single), toList_render isBlock,
      hasBlankLine_lines (by simp [blockLines])
        (List.forall_mem_map.2 fun line => startsVisibly_of_mem_blockLines),
      and_iff_right isBlock]
    simp only [List.mem_map, exists_exists_and_eq_and]
    constructor
    · rintro ⟨line, mem, blank⟩
      rcases oneLine_of_mem_blockLines single mem with isSingle | ⟨rule, isRule, rfl⟩
      · exact absurd blank isSingle.not_hasBlankLine_concat
      · exact ⟨rule, isRule, hasBlankLine_ruleLine.1 blank⟩
    · rintro ⟨rule, isRule, blank⟩
      exact ⟨layout.ruleLine rule, ruleLine_mem_blockLines isRule, hasBlankLine_ruleLine.2 blank⟩
  · simp [isBlock, (layout.oneLine_render single isBlock).not_hasBlankLine]

end Layout

theorem Report.Attached.getLast?_render_ne {report : Report} (attached : report.Attached)
    (layout : Layout) : (layout.render report).toList.getLast? ≠ some '\n' := by
  obtain ⟨cause, rfl, single⟩ := attached.exists_cause
  exact Layout.getLast?_render_ne single

theorem Report.Attached.hasBlankLine_render_iff {report : Report} (attached : report.Attached)
    (layout : Layout) :
    HasBlankLine (layout.render report).toList ↔
      layout.style = .block ∧
        ∃ rule, report.rule = some rule ∧ HasBlankLine (layout.shown rule ++ "\n").toList := by
  obtain ⟨cause, rfl, single⟩ := attached.exists_cause
  exact Layout.hasBlankLine_render_iff single

section Apart

variable {layout : Layout} {reports : List Report}

/-- Reports that come with alarms are told apart exactly if none of them has a blank line. -/
theorem pieces_renderAll_eq_iff_forall (nonempty : reports ≠ [])
    (attached : ∀ report ∈ reports, report.Attached) :
    pieces (layout.renderAll reports) = reports.map layout.render ↔
      ∀ report ∈ reports, ¬ HasBlankLine (layout.render report).toList := by
  have ends : ∀ text ∈ reports.map layout.render, text.toList.getLast? ≠ some '\n' :=
    List.forall_mem_map.2 fun report mem => (attached report mem).getLast?_render_ne layout
  rw [Layout.renderAll, pieces_intercalate_iff (by simpa using nonempty) ends, List.forall_mem_map]

variable (layout) in
/-- Reports that come with alarms are told apart by the blank lines between them exactly if, in
blocks, no rule shows a blank line or ends with a line feed. -/
theorem pieces_renderAll_eq_iff (nonempty : reports ≠ [])
    (attached : ∀ report ∈ reports, report.Attached) :
    pieces (layout.renderAll reports) = reports.map layout.render ↔
      (layout.style = .block → ∀ report ∈ reports, ∀ rule, report.rule = some rule →
        ¬ HasBlankLine (layout.shown rule ++ "\n").toList) := by
  rw [pieces_renderAll_eq_iff_forall nonempty attached]
  constructor
  · intro whole isBlock report mem rule isRule blank
    exact whole report mem
      (((attached report mem).hasBlankLine_render_iff layout).2 ⟨isBlock, rule, isRule, blank⟩)
  · intro whole report mem blank
    obtain ⟨isBlock, rule, isRule, inRule⟩ :=
      ((attached report mem).hasBlankLine_render_iff layout).1 blank
    exact whole isBlock report mem rule isRule inRule

/-- A divisor of zero and a rule with text left over are told apart. -/
theorem pieces_modulusZero_trailingInput :
    let reports := [Cause.modulusZero.report,
      (Cause.trailingInput "n is 1 x" ⟨6, 8, 1, 7, by decide, by decide, by decide⟩).report]
    reports ≠ [] ∧ (∀ report ∈ reports, report.Attached) ∧
      pieces (Layout.plain.renderAll reports) = reports.map Layout.plain.render := by
  intro reports
  have nonempty : reports ≠ [] := List.cons_ne_nil _ _
  have attached : ∀ report ∈ reports, report.Attached := by
    intro report mem
    rcases List.mem_pair.1 mem with rfl | rfl
    · exact .of_insist "n mod 0 is 1" (.integer 1) (by decide +kernel)
    · exact .of_insist "n is 1 x" (.integer 1) (by decide +kernel)
  refine ⟨nonempty, attached, (pieces_renderAll_eq_iff _ nonempty attached).2 fun _ => ?_⟩
  decide +kernel

/-- A blank line in a rule tears its report in two. -/
theorem pieces_ne_of_blankLine :
    let report :=
      (Cause.trailingInput "n is 1\n\nx" ⟨6, 9, 1, 7, by decide, by decide, by decide⟩).report
    report.Attached ∧
      pieces (Layout.plain.renderAll [report]) ≠ [report].map Layout.plain.render := by
  intro report
  have attached : report.Attached := .of_insist "n is 1\n\nx" (.integer 1) (by decide +kernel)
  refine ⟨attached, fun whole => ?_⟩
  rw [pieces_renderAll_eq_iff_forall (List.cons_ne_nil _ _) (List.forall_mem_singleton.2 attached),
    List.forall_mem_singleton] at whole
  exact whole ((attached.hasBlankLine_render_iff _).2 ⟨rfl, _, rfl, by decide +kernel⟩)

end Apart

end PluralForms
