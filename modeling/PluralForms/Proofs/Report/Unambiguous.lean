/-
# Reading a block back

Every line of a block but the first one starts with a label, and no label starts like another one.
So a report whose texts stay on their lines can be read off its block again, whatever the texts
are: a message or a rule that looks like a label stands behind a label itself.  Two such reports
have the same block exactly if they agree in all that a block shows of a report.
-/

import PluralForms.Proofs.Report.Apart

namespace PluralForms

open Text

namespace Text

variable {first second label other text : String}

/-- Neither text starts with the other one, so nothing starts with both. -/
def Diverge (first second : String) : Prop :=
  ¬ first.toList <+: second.toList ∧ ¬ second.toList <+: first.toList

instance (first second : String) : Decidable (Diverge first second) :=
  inferInstanceAs (Decidable (_ ∧ _))

theorem Diverge.symm (diverge : Diverge first second) : Diverge second first :=
  ⟨diverge.2, diverge.1⟩

theorem Diverge.append_ne (diverge : Diverge first second) (text more : String) :
    first ++ text ≠ second ++ more := by
  intro same
  have chars : first.toList ++ text.toList = second.toList ++ more.toList := by
    simpa using congrArg String.toList same
  rcases List.append_eq_append_iff.1 chars with ⟨between, longer, -⟩ | ⟨between, longer, -⟩
  · exact diverge.1 ⟨between, longer.symm⟩
  · exact diverge.2 ⟨between, longer.symm⟩

/-- What stands behind a label on the first line that starts with it. -/
def behindLabel (label : String) (lines : List String) : Option String :=
  lines.findSome? fun line => (label.toList.isPrefixOf? line.toList).map String.ofList

theorem behindLabel_cons_self (label text : String) (lines : List String) :
    behindLabel label ((label ++ text) :: lines) = some text := by
  have found : label.toList.isPrefixOf? (label ++ text).toList = some text.toList := by
    rw [List.isPrefixOf?_eq_some_iff_append_eq, String.toList_append]
  rw [behindLabel, List.findSome?_cons, found, Option.map_some, String.ofList_toList]

theorem behindLabel_cons_of_diverge (diverge : Diverge label other) (text : String)
    (lines : List String) :
    behindLabel label ((other ++ text) :: lines) = behindLabel label lines := by
  have missed : label.toList.isPrefixOf? (other ++ text).toList = none := by
    rw [Option.eq_none_iff_forall_ne_some]
    intro rest found
    rw [List.isPrefixOf?_eq_some_iff_append_eq] at found
    apply diverge.append_ne (String.ofList rest) text
    rw [← String.toList_inj, String.toList_append, String.toList_ofList, found]
  rw [behindLabel, List.findSome?_cons, missed, Option.map_none, behindLabel]

/-- The lines of the fields that are present, each with its label. -/
def labelled (fields : List (String × Option String)) : List String :=
  (Layout.present fields).map fun field => field.1 ++ field.2

theorem labelled_cons_none (fields : List (String × Option String)) :
    labelled ((label, none) :: fields) = labelled fields := rfl

theorem labelled_cons_some (fields : List (String × Option String)) :
    labelled ((label, some text) :: fields) = (label ++ text) :: labelled fields := rfl

variable {fields : List (String × Option String)} {value : Option String}

/-- Nothing is found under a label that no field has. -/
theorem behindLabel_labelled_of_forall (diverge : ∀ field ∈ fields, Diverge label field.1) :
    behindLabel label (labelled fields) = none := by
  induction fields with
  | nil => rfl
  | cons field fields ih =>
      obtain ⟨other, value⟩ := field
      obtain ⟨here, behind⟩ := List.forall_mem_cons.1 diverge
      cases value with
      | none => exact ih behind
      | some text =>
          rw [labelled_cons_some, behindLabel_cons_of_diverge here]
          exact ih behind

/-- Every field is found under its label. -/
theorem behindLabel_labelled (diverge : (fields.map Prod.fst).Pairwise Diverge)
    (mem : (label, value) ∈ fields) : behindLabel label (labelled fields) = value := by
  induction fields with
  | nil => cases mem
  | cons field fields ih =>
      obtain ⟨other, present⟩ := field
      obtain ⟨here, behind⟩ := List.pairwise_cons.1 diverge
      rw [List.forall_mem_map] at here
      rcases List.mem_cons.1 mem with same | isBehind
      · cases same
        cases value with
        | none =>
            rw [labelled_cons_none]
            exact behindLabel_labelled_of_forall here
        | some text => exact behindLabel_cons_self label text _
      · -- The label belongs to a later field, so the line in front of it is passed over.
        have found := ih behind isBehind
        have passed : Diverge label other := (here _ isBehind).symm
        cases present with
        | none => exact found
        | some text => rw [labelled_cons_some, behindLabel_cons_of_diverge passed, found]

/-- Fields can be read off their lines, whichever of them are present. -/
theorem labelled_inj {others : List (String × Option String)}
    (diverge : (fields.map Prod.fst).Pairwise Diverge)
    (labels : fields.map Prod.fst = others.map Prod.fst) :
    labelled fields = labelled others ↔ fields = others := by
  refine ⟨fun same => ?_, congrArg labelled⟩
  have readOff {fields : List (String × Option String)}
      (diverge : (fields.map Prod.fst).Pairwise Diverge) :
      (fields.map Prod.fst).map (fun label => (label, behindLabel label (labelled fields))) =
        fields := by
    rw [List.map_map]
    refine (List.map_congr_left fun field mem => ?_).trans (List.map_id fields)
    exact Prod.ext rfl (behindLabel_labelled diverge mem)
  rw [← readOff diverge, same, labels, readOff (labels ▸ diverge)]

theorem oneLine_of_mem_labelled {line : String}
    (single : ∀ field ∈ fields, OneLine field.1 ∧ ∀ text ∈ field.2, OneLine text)
    (mem : line ∈ labelled fields) : OneLine line := by
  simp only [labelled, Layout.present, List.mem_map, List.mem_filterMap, Option.map_eq_some_iff]
    at mem
  obtain ⟨-, ⟨field, isField, text, isText, rfl⟩, rfl⟩ := mem
  obtain ⟨label, inside⟩ := single field isField
  exact oneLine_append.2 ⟨label, inside text isText⟩

end Text

/-- Every text of the report that a block shows stays on its line. -/
structure Report.StaysOnLines (report : Report) : Prop where
  message : OneLine report.message
  rule : ∀ rule ∈ report.rule, OneLine rule
  hint : ∀ hint ∈ report.hint, OneLine hint
  helpUrl : ∀ url ∈ report.helpUrl, OneLine url

namespace Layout

variable {layout : Layout} {first second report : Report}

/-- What the first line of a block shows in front of the message. -/
def opening (layout : Layout) (severity : String) (code : Code) : String :=
  layout.severityShown severity ++ ("[" ++ (code.name ++ "]: "))

/-- The labels of the lines behind the first one. -/
def blockLabels : List String :=
  ["  --> column ", "  = rule: ", "  = help: ", "  = note: see "]

/-- What a block shows of a report behind its first line, each part under its label. -/
def blockFields (layout : Layout) (report : Report) : List (String × Option String) :=
  blockLabels.zip
    [(report.span.map Span.column).map toString, report.rule.map layout.shown,
     (nonempty report.hint).map layout.shown, nonempty report.helpUrl]

theorem blockLines_eq (layout : Layout) (report : Report) :
    layout.blockLines report =
      (layout.opening report.severity report.code ++ report.message) ::
        labelled (layout.blockFields report) := by
  have header : s!"{layout.severityShown report.severity}[{report.code.name}]: {report.message}" =
      layout.opening report.severity report.code ++ report.message := by
    simp only [opening, String.append_assoc]
    rfl
  rw [blockLines, header, blockFields]
  cases report.span <;> cases report.rule <;> cases nonempty report.hint <;>
    cases nonempty report.helpUrl <;> rfl

theorem diverge_labels (layout : Layout) (report : Report) :
    ((layout.blockFields report).map Prod.fst).Pairwise Diverge :=
  (by decide : blockLabels.Pairwise Diverge)

theorem severityWord_eq_or (severity : String) :
    severityWord severity = "warning" ∨ severityWord severity = "error" := by
  unfold severityWord
  split
  · exact .inl rfl
  · exact .inr rfl

/-- Which word is shown can be told from its first characters, in colour too. -/
theorem diverge_severityShown {severity other : String}
    (differ : severityWord severity ≠ severityWord other) :
    Diverge (layout.severityShown severity) (layout.severityShown other) := by
  unfold severityShown
  rcases severityWord_eq_or severity with one | one <;>
    rcases severityWord_eq_or other with two | two <;> rw [one, two] at differ ⊢
  · exact absurd rfl differ
  · -- In colour the control texts in front of the words differ already.
    cases layout.coloured <;> decide
  · cases layout.coloured <;> decide
  · exact absurd rfl differ

theorem diverge_name {code other : Code} (differ : code ≠ other) :
    Diverge (code.name ++ "]: ") (other.name ++ "]: ") := by
  have isListed (code : Code) : code ∈ Code.all := by cases code <;> decide
  have names : ∀ code ∈ Code.all, ∀ other ∈ Code.all, code ≠ other →
      Diverge (code.name ++ "]: ") (other.name ++ "]: ") := by decide
  exact names code (isListed code) other (isListed other) differ

/-- The first line of a block can be cut in one way only. -/
theorem opening_append_inj {severity other : String} {code code' : Code} {message message' : String}
    (same : layout.opening severity code ++ message = layout.opening other code' ++ message') :
    severityWord severity = severityWord other ∧ code = code' ∧ message = message' := by
  simp only [opening, String.append_assoc] at same
  have word : severityWord severity = severityWord other := by
    by_contra differ
    exact (diverge_severityShown differ).append_ne _ _ same
  have shown : layout.severityShown severity = layout.severityShown other := by
    rw [severityShown, word, ← severityShown]
  rw [shown, String.append_right_inj, String.append_right_inj, ← String.append_assoc,
    ← String.append_assoc] at same
  have isCode : code = code' := by
    by_contra differ
    exact (diverge_name differ).append_ne _ _ same
  subst isCode
  exact ⟨word, rfl, (String.append_right_inj _).1 same⟩

theorem oneLine_opening (severity : String) (code : Code) :
    OneLine (layout.opening severity code) := by
  simp only [opening, oneLine_append, oneLine_severityShown, Code.oneLine_name, true_and]
  decide

theorem oneLine_of_mem_blockFields (stays : report.StaysOnLines) {field : String × Option String}
    (mem : field ∈ layout.blockFields report) :
    OneLine field.1 ∧ ∀ text ∈ field.2, OneLine text := by
  have labels : ∀ label ∈ blockLabels, OneLine label := by decide
  refine ⟨labels _ (List.mem_map_of_mem mem), fun text isText => ?_⟩
  simp only [blockFields, blockLabels, List.zip_cons_cons, List.zip_nil_right, List.mem_cons,
    List.not_mem_nil, or_false] at mem
  rcases mem with rfl | rfl | rfl | rfl
  · obtain ⟨column, -, rfl⟩ := Option.map_eq_some_iff.1 isText
    exact oneLine_nat column
  · obtain ⟨rule, isRule, rfl⟩ := Option.map_eq_some_iff.1 isText
    exact layout.oneLine_shown (stays.rule rule isRule)
  · obtain ⟨hint, isHint, rfl⟩ := Option.map_eq_some_iff.1 isText
    exact layout.oneLine_shown (stays.hint hint (nonempty_eq_some_iff.1 isHint).1)
  · exact stays.helpUrl text (nonempty_eq_some_iff.1 isText).1

/-- The lines of a block are found again between its line feeds. -/
theorem splitOn_render (isBlock : layout.style = .block) (stays : report.StaysOnLines) :
    (layout.render report).toList.splitOn '\n' =
      (layout.blockLines report).map String.toList := by
  rw [toList_render isBlock, blockLines_eq]
  refine List.splitOn_intercalate '\n' (List.forall_mem_map.2 fun line mem => ?_) (by simp)
  rcases List.mem_cons.1 mem with rfl | mem
  · exact oneLine_append.2 ⟨oneLine_opening _ _, stays.message⟩
  · exact oneLine_of_mem_labelled (fun field => oneLine_of_mem_blockFields stays) mem

/-- From a block its opening, the message and all fields are read off again. -/
theorem eq_of_render_eq (isBlock : layout.style = .block) (stays : first.StaysOnLines)
    (staysToo : second.StaysOnLines) (same : layout.render first = layout.render second) :
    severityWord first.severity = severityWord second.severity ∧ first.code = second.code ∧
      first.message = second.message ∧ layout.blockFields first = layout.blockFields second := by
  have lines : layout.blockLines first = layout.blockLines second := by
    apply List.map_injective_iff.2 fun _ _ => String.toList_injective
    rw [← splitOn_render isBlock stays, same, splitOn_render isBlock staysToo]
  rw [blockLines_eq, blockLines_eq, List.cons_eq_cons] at lines
  obtain ⟨opening, fields⟩ := lines
  obtain ⟨word, code, message⟩ := opening_append_inj opening
  have labels : (layout.blockFields first).map Prod.fst =
      (layout.blockFields second).map Prod.fst := rfl
  exact ⟨word, code, message, (labelled_inj (layout.diverge_labels first) labels).1 fields⟩

/-- A missing text and an empty one look alike, and no other two do. -/
theorem nonempty_inj {text other : Option String} :
    nonempty text = nonempty other ↔ text.getD "" = other.getD "" := by
  have shown (text : Option String) :
      nonempty text = if text.getD "" = "" then none else some (text.getD "") := by
    cases text with
    | none => rfl
    | some text => by_cases empty : text = "" <;> simp [nonempty, Option.filter, empty]
  rw [shown, shown]
  grind

/-- Texts that are not cut can be told from the fields of a block. -/
theorem blockFields_uncut_inj (uncut : layout.most = none) :
    layout.blockFields first = layout.blockFields second ↔
      first.span.map Span.column = second.span.map Span.column ∧ first.rule = second.rule ∧
        first.hint.getD "" = second.hint.getD "" ∧
          first.helpUrl.getD "" = second.helpUrl.getD "" := by
  have whole : layout.shown = id := by
    funext text
    simp [shown, uncut]
  have columns : Function.Injective (toString : Nat → String) := fun n m same =>
    Number.digits_injective (congrArg String.toList same)
  simp only [blockFields, blockLabels, List.zip_cons_cons, List.zip_nil_right, List.cons.injEq,
    Prod.mk.injEq, true_and, and_true, whole, Option.map_id_fun, id,
    (Option.map_injective columns).eq_iff, nonempty_inj]

end Layout

/-- Blocks that are not cut tell reports apart whose texts stay on their lines: two such reports
have the same block exactly if they agree in their codes, messages and severities, in their columns
and rules or the lack of them, and in what hints and pages with help they have. -/
theorem render_block_inj (coloured : Bool) {first second : Report} (stays : first.StaysOnLines)
    (staysToo : second.StaysOnLines) :
    let layout : Layout := ⟨.block, none, coloured⟩
    layout.render first = layout.render second ↔
      first.code = second.code ∧ first.message = second.message ∧
      Layout.severityWord first.severity = Layout.severityWord second.severity ∧
      first.span.map Span.column = second.span.map Span.column ∧
      first.rule = second.rule ∧
      first.hint.getD "" = second.hint.getD "" ∧
      first.helpUrl.getD "" = second.helpUrl.getD "" := by
  intro layout
  constructor
  · intro same
    obtain ⟨word, code, message, fields⟩ := Layout.eq_of_render_eq rfl stays staysToo same
    exact ⟨code, message, word, (Layout.blockFields_uncut_inj rfl).1 fields⟩
  · rintro ⟨code, message, word, seen⟩
    have fields : layout.blockFields first = layout.blockFields second :=
      (Layout.blockFields_uncut_inj rfl).2 seen
    have opening : layout.opening first.severity first.code =
        layout.opening second.severity second.code := by
      rw [Layout.opening, Layout.severityShown, word, code]
      rfl
    have lines : layout.blockLines first = layout.blockLines second := by
      rw [Layout.blockLines_eq, Layout.blockLines_eq, opening, message, fields]
    exact congrArg ("\n".intercalate ·) lines

/-- A missing rule is told from an empty one, even behind a message that looks like its line. -/
theorem render_block_ne_of_emptyRule :
    let lacking : Report := ⟨.modulusZero, "  = rule: ", none, some "", none, none, "note"⟩
    let empty : Report := { lacking with rule := some "" }
    lacking.StaysOnLines ∧ empty.StaysOnLines ∧
      Layout.plain.render lacking ≠ Layout.plain.render empty := by
  intro lacking empty
  have stays : lacking.StaysOnLines := ⟨by decide, by decide, by decide, by decide⟩
  have staysToo : empty.StaysOnLines := ⟨by decide, by decide, by decide, by decide⟩
  refine ⟨stays, staysToo, fun same => ?_⟩
  have rules := ((render_block_inj false stays staysToo).1 same).2.2.2.2.1
  exact absurd rules (by decide)

end PluralForms
