/-
# What references keep

A reference looks its definition up when it is first come to, and keeps it: for the rest of the
run, also for an attempt that fails or one inside the definition itself, and for later runs.
Keeping definitions shows in nothing but the look-ups.

Every visit to a reference is noted beside the run, with the look-ups that were made there.
What the memory holds can be told from the visits.

A reference is known by its number.  It may stand at several places of a system, all of which
share what it keeps.
-/

import Mathlib.Data.List.Dedup
import PluralForms.Proofs.Recognizer.Parallel
import PluralForms.Proofs.Recognizer.Running

namespace PluralForms.Recognizer

open Text

section Several

variable {m m' : Type → Type} [Monad m] [Monad m'] [MonadExceptOf Stop m] [MonadExceptOf Stop m']

/-- Runs at one place after another. -/
def inTurn (run : Place → m (Option Match)) : List Place → m (List (Option Match))
  | [] => pure []
  | place :: rest => do
      let found ← run place
      let others ← inTurn run rest
      pure (found :: others)

/-- Runs that compare at every place do so at one place after another. -/
theorem Comparison.holds_inTurn {comparison : Comparison m m'} {run : Place → m (Option Match)}
    {run' : Place → m' (Option Match)}
    (runs : ∀ place, comparison.Holds Eq (run place) (run' place)) (places : List Place) :
    comparison.Holds Eq (inTurn run places) (inTurn run' places) := by
  induction places with
  | nil => exact comparison.pure rfl
  | cons place rest ih =>
      unfold inTurn
      refine comparison.bind (runs place) ?_
      rintro found _ rfl
      refine comparison.bind ih ?_
      rintro others _ rfl
      exact comparison.pure rfl

/-- Runs that return one after another each return. -/
theorem forall₂_of_inTurn {run : Place → Except Stop (Option Match)} {places : List Place}
    {results : List (Option Match)} (returned : inTurn run places = .ok results) :
    List.Forall₂ (fun place result => run place = .ok result) places results := by
  induction places generalizing results with
  | nil =>
      cases returned
      exact .nil
  | cons place rest ih =>
      rw [inTurn] at returned
      cases first : run place with
      | error stop =>
          rw [first] at returned
          cases returned
      | ok found =>
          cases others : inTurn run rest with
          | error stop =>
              rw [first, others] at returned
              cases returned
          | ok found' =>
              rw [first, others] at returned
              cases returned
              exact .cons first (ih others)

end Several

/-- A reference that was come to, and how many look-ups were made there. -/
structure Visit where
  label : Label
  lookUps : Nat

/-- The references that were come to, the latest first. -/
def visited (visits : List Visit) : List Label :=
  visits.map Visit.label

/-- How many look-ups were made at visits to a reference. -/
def lookUpsAt (label : Label) : List Visit → Nat
  | [] => 0
  | visit :: earlier =>
      (if visit.label = label then visit.lookUps else 0) + lookUpsAt label earlier

/-- A run beside which the visits to references are noted, the latest first. -/
abbrev VisitedRun : Type → Type :=
  StateT (List Visit × Memory) (Except Stop)

/-- Consults a reference, and notes the visit with the look-ups that the memory has gained. -/
def visiting (system : System Label) (label : Label) : VisitedRun (Recognizer Label) :=
  fun before => (consult system label before.2).map fun step =>
    (step.1, ⟨label, step.2.lookUps.length - before.2.lookUps.length⟩ :: before.1, step.2)

/-- An action beside which there is nothing to note. -/
def beside (act : Action → Value → Except Stop (Option Value)) (action : Action)
    (value : Value) : VisitedRun (Option Value) :=
  fun before => (act action value).map (·, before)

section Visited

/-- The second state is what the first one is without the notes. -/
def Forgets (noted : List Visit × Memory) (memory : Memory) : Prop :=
  noted.2 = memory

theorem parallel_visiting (system : System Label) (label : Label) :
    Parallel Forgets Eq (visiting system label) (consult system label) := by
  rintro ⟨visits, before⟩ _ rfl
  unfold visiting
  dsimp only
  cases consult system label before with
  | ok step => exact .returned rfl rfl
  | error stop => exact .stopped stop

theorem parallel_beside (act : Action → Value → Except Stop (Option Value)) (action : Action)
    (value : Value) : Parallel Forgets Eq (beside act action value) (inRun act action value) := by
  rintro ⟨visits, before⟩ _ rfl
  unfold beside inRun
  cases act action value with
  | ok made => exact .returned rfl rfl
  | error stop => exact .stopped stop

/-- What a memory holds, by the visits that there were.  A reference that was come to keeps its
definition and looked it up once; no other reference did either. -/
structure Recorded (system : System Label) (visits : List Visit) (memory : Memory) : Prop where
  within : visited visits ⊆ system.labels
  kept : ∀ label ∈ system.labels, memory.kept.lookup label.node =
    if label ∈ visited visits then (system.definition label).toOption else none
  once : ∀ label ∈ visited visits, lookUpsAt label visits = 1
  names : memory.lookUps.Perm ((visited visits).dedup.map Label.name)

theorem recorded_empty (system : System Label) : Recorded system [] .empty where
  within := List.nil_subset _
  kept _ _ := rfl
  once _ := nofun
  names := .nil

theorem lookUpsAt_of_not_visited {label : Label} {visits : List Visit}
    (new : label ∉ visited visits) : lookUpsAt label visits = 0 := by
  induction visits with
  | nil => rfl
  | cons visit rest ih =>
      obtain ⟨different, newer⟩ := List.ne_and_not_mem_of_not_mem_cons new
      rw [lookUpsAt, if_neg (Ne.symm different), ih newer]

variable {system : System Label} {visits : List Visit} {memory : Memory} {label : Label}

theorem mem_visited_cons {other : Label} {visit : Visit} :
    other ∈ visited (visit :: visits) ↔ other = visit.label ∨ other ∈ visited visits :=
  List.mem_cons

/-- At another visit to a reference nothing is looked up. -/
theorem Recorded.again (recorded : Recorded system visits memory)
    (known : label ∈ visited visits) : Recorded system (⟨label, 0⟩ :: visits) memory := by
  have same (other : Label) : other ∈ visited (⟨label, 0⟩ :: visits) ↔ other ∈ visited visits := by
    rw [mem_visited_cons, or_iff_right_of_imp]
    rintro rfl
    exact known
  constructor
  case within => exact List.cons_subset.2 ⟨recorded.within known, recorded.within⟩
  case kept =>
    intro other isLabel
    simp only [same]
    exact recorded.kept other isLabel
  case once =>
    intro other isVisited
    rw [lookUpsAt, ite_self, Nat.zero_add]
    exact recorded.once other ((same other).1 isVisited)
  case names =>
    have noneNew : (visited (⟨label, 0⟩ :: visits)).dedup = (visited visits).dedup :=
      List.dedup_cons_of_mem known
    exact noneNew ▸ recorded.names

/-- At the first visit to a reference its definition is looked up once. -/
theorem Recorded.first (recorded : Recorded system visits memory)
    (apart : ∀ other ∈ system.labels, other.node = label.node → other = label)
    (isLabel : label ∈ system.labels) (new : label ∉ visited visits)
    {definition : Recognizer Label} (defined : system.definition label = .ok definition) :
    Recorded system (⟨label, 1⟩ :: visits)
      ⟨(label.node, definition) :: memory.kept, label.name :: memory.lookUps⟩ := by
  constructor
  case within => exact List.cons_subset.2 ⟨isLabel, recorded.within⟩
  case kept =>
    intro other isOther
    rw [List.lookup_cons]
    by_cases same : other = label
    · subst same
      rw [beq_self_eq_true, if_pos (mem_visited_cons.2 (.inl rfl)), defined]
      rfl
    · -- What is kept now is kept under a number that no other reference has.
      rw [beq_false_of_ne (mt (apart other isOther) same)]
      have visitedBefore : other ∈ visited (⟨label, 1⟩ :: visits) ↔ other ∈ visited visits := by
        rw [mem_visited_cons, or_iff_right same]
      simp only [visitedBefore]
      exact recorded.kept other isOther
  case once =>
    intro other isVisited
    rw [lookUpsAt]
    by_cases same : other = label
    · subst same
      rw [if_pos rfl, lookUpsAt_of_not_visited new]
    · rw [if_neg (Ne.symm same), Nat.zero_add]
      exact recorded.once other ((mem_visited_cons.1 isVisited).resolve_left same)
  case names =>
    have oneNew : (visited (⟨label, 1⟩ :: visits)).dedup = label :: (visited visits).dedup :=
      List.dedup_cons_of_notMem new
    rw [oneNew]
    exact recorded.names.cons label.name

end Visited

section Afresh

variable {σ α : Type}

/-- From good states the run leads to good states, and comes to the same as one that has no
states, or stops as it does. -/
def Comparison.stateless (good : σ → Prop) :
    Comparison (StateT σ (Except Stop)) (Except Stop) where
  Holds results run outcome := ∀ before, good before →
    Outcomes (fun after (_ : Unit) => good after) results (run before) (outcome.map (·, ()))
  pure alike before isGood := .returned alike isGood
  throw stop _ _ := .stopped stop
  bind {_ _ _ _ _ others run outcome next next'} first rest := by
    intro before isGood
    have early := first before isGood
    show Outcomes _ others (run before >>= fun step => next step.1 step.2) _
    generalize run before = reached at early
    cases outcome with
    | error stop =>
        cases early with
        | stopped stop => exact .stopped stop
    | ok result =>
        cases early with
        | returned alike isGood => exact rest _ _ alike _ isGood

theorem returned_of_stateless {good : σ → Prop} {run : StateT σ (Except Stop) α}
    {outcome : Except Stop α} (same : (Comparison.stateless good).Holds Eq run outcome)
    {before after : σ} (isGood : good before) {result : α}
    (returned : run before = .ok (result, after)) : outcome = .ok result ∧ good after := by
  have outcomes := same before isGood
  rw [returned] at outcomes
  cases outcome with
  | error stop => cases outcomes
  | ok result' =>
      cases outcomes with
      | returned same isGood => exact ⟨congrArg _ same.symm, isGood⟩

/-- A reference that is consulted with a record of visits gives its definition, and the record
stays true. -/
theorem stateless_visiting {system : System Label} (named : system.NamesByNumber)
    {label : Label} (isLabel : label ∈ system.labels) :
    (Comparison.stateless fun noted => Recorded system noted.1 noted.2).Holds
      (fun definition definition' => definition = definition' ∧
        ∀ label ∈ definition.labels, label ∈ system.labels)
      (visiting system label) (system.definition label) := by
  rintro ⟨visits, before⟩ recorded
  dsimp only at recorded
  unfold visiting
  dsimp only
  rw [consult_eq, recorded.kept label isLabel]
  cases defined : system.definition label with
  | error stop =>
      rw [Except.toOption, ite_self]
      exact .stopped stop
  | ok definition =>
      have within (other : Label) (isOther : other ∈ definition.labels) :
          other ∈ system.labels := System.mem_labels_of_definition defined isOther
      by_cases known : label ∈ visited visits
      · rw [if_pos known]
        refine .returned ⟨rfl, within⟩ ?_
        dsimp only
        rw [Nat.sub_self]
        exact recorded.again known
      · rw [if_neg known]
        refine .returned ⟨rfl, within⟩ ?_
        dsimp only
        rw [List.length_cons, Nat.add_sub_cancel_left]
        exact recorded.first (fun other isOther => named.eq_of_node_eq isOther isLabel) isLabel
          known defined

theorem stateless_beside {good : List Visit × Memory → Prop}
    (act : Action → Value → Except Stop (Option Value)) (action : Action) (value : Value) :
    (Comparison.stateless good).Holds Eq (beside act action value) (act action value) := by
  intro before isGood
  unfold beside
  cases act action value with
  | ok made => exact .returned rfl isGood
  | error stop => exact .stopped stop

end Afresh

section Runs

variable (system : System Label) (act : Action → Value → Except Stop (Option Value))
  (depth : Place → Nat)

/-- Runs the system at a place, with what its references keep. -/
def runKeeping (place : Place) : Run (Option Match) :=
  runToDepth (inRun act) (consult system) (depth place) system.start place

/-- Runs the system at a place, and notes the visits to its references. -/
def runVisiting (place : Place) : VisitedRun (Option Match) :=
  runToDepth (beside act) (visiting system) (depth place) system.start place

/-- Runs the system at a place, looking up every reference anew. -/
def runForgetting (place : Place) : Except Stop (Option Match) :=
  runToDepth act system.definition (depth place) system.start place

/-- Noting the visits to references changes nothing about a run. -/
theorem parallel_runVisiting (place : Place) :
    Parallel Forgets Eq (runVisiting system act depth place)
      (runKeeping system act depth place) := by
  rw [← rel_compares_eq, compares_eq]
  exact parallel_runToDepth keptByMatching_eq (parallel_beside act)
    (parallel_visiting system) (depth place) system.start rfl

theorem Recorded.lookUpsAt_eq {system : System Label} {visits : List Visit} {memory : Memory}
    (recorded : Recorded system visits memory) (label : Label) :
    lookUpsAt label visits = if label ∈ visited visits then 1 else 0 := by
  split
  next known => exact recorded.once label known
  next new => exact lookUpsAt_of_not_visited new

/-- The number of look-ups that a record accounts for: one at each reference that was come to,
wherever it stands. -/
theorem Recorded.countLookUps {system : System Label} {visits : List Visit} {memory : Memory}
    (recorded : Recorded system visits memory) (name : String) :
    memory.countLookUps name = (system.labels.dedup.filter fun label =>
      label.name = name ∧ label ∈ visited visits).length := by
  have same : (visited visits).dedup.Perm
      (system.labels.dedup.filter (· ∈ visited visits)) := by
    refine (List.perm_ext_iff_of_nodup (List.nodup_dedup _)
      ((List.nodup_dedup _).filter _)).2 fun label => ?_
    rw [List.mem_dedup, List.mem_filter, List.mem_dedup, decide_eq_true_iff]
    exact ⟨fun isVisited => ⟨recorded.within isVisited, isVisited⟩, And.right⟩
  calc
    memory.countLookUps name = ((visited visits).dedup.map Label.name).count name :=
      recorded.names.count_eq name
    _ = (visited visits).dedup.countP fun label => label.name == name := by
      rw [List.count, List.countP_map]
      rfl
    _ = (system.labels.dedup.filter (· ∈ visited visits)).countP fun label =>
        label.name == name := same.countP_eq _
    _ = (system.labels.dedup.filter fun label =>
        label.name = name ∧ label ∈ visited visits).length := by
      rw [List.countP_eq_length_filter, List.filter_filter]
      simp only [beq_eq_decide, Bool.decide_and]

/-- A run with a record of visits comes to the same as one that looks everything up anew, and
the record stays true. -/
theorem stateless_runVisiting {system : System Label} (named : system.NamesByNumber)
    (place : Place) :
    (Comparison.stateless fun noted => Recorded system noted.1 noted.2).Holds Eq
      (runVisiting system act depth place) (runForgetting system act depth place) :=
  Comparison.holds_runToDepth_eq (stateless_beside act)
    (fun _ isLabel => stateless_visiting named isLabel) (depth place) system.start
    (fun _ isLabel => List.mem_append_left _ isLabel) place

/-- A run with nothing kept yet comes to the same as one that looks everything up anew. -/
theorem exists_kept_of_forgetting {system : System Label} (named : system.NamesByNumber)
    {place : Place} {result : Option Match}
    (returned : runForgetting system act depth place = .ok result) :
    ∃ kept, runKeeping system act depth place .empty = .ok (result, kept) := by
  have afresh := stateless_runVisiting act depth named place ([], .empty)
    (recorded_empty system)
  rw [returned] at afresh
  obtain ⟨_, reached, isNoted, rfl, -⟩ := afresh.exists_left
  have noted := parallel_runVisiting system act depth place ([], .empty) .empty rfl
  rw [isNoted] at noted
  obtain ⟨_, kept, isKept, rfl, -⟩ := noted.exists_right
  exact ⟨kept, isKept⟩

/-- What a reference keeps is kept for good: over any runs one after another, each reference is
looked up once if it is ever come to, at whichever of its places, and not otherwise.  So a name
is looked up as often as there are references to it that were come to.  Every run comes to the
same as it does alone, with nothing kept yet, and as it does if nothing is ever kept. -/
theorem references_look_up_once {system : System Label} (named : system.NamesByNumber)
    {places : List Place} {results : List (Option Match)} {after : Memory}
    (returned : inTurn (runKeeping system act depth) places .empty = .ok (results, after)) :
    (∃ visits,
      inTurn (runVisiting system act depth) places ([], .empty) = .ok (results, visits, after) ∧
      (∀ label, lookUpsAt label visits = if label ∈ visited visits then 1 else 0) ∧
      visited visits ⊆ system.labels ∧
      ∀ name, after.countLookUps name = (system.labels.dedup.filter fun label =>
        label.name = name ∧ label ∈ visited visits).length) ∧
    List.Forall₂ (fun place result =>
      runForgetting system act depth place = .ok result ∧
        ∃ kept, runKeeping system act depth place .empty = .ok (result, kept)) places results := by
  have noted := (Comparison.parallel Forgets).holds_inTurn (parallel_runVisiting system act depth)
    places ([], .empty) .empty rfl
  rw [returned] at noted
  obtain ⟨_, ⟨visits, memory⟩, isNoted, rfl, forgets⟩ := noted.exists_left
  obtain rfl : memory = after := forgets
  obtain ⟨afresh, recorded⟩ := returned_of_stateless
    (Comparison.holds_inTurn (stateless_runVisiting act depth named) places)
    (recorded_empty system) isNoted
  dsimp only at recorded
  refine ⟨⟨visits, isNoted, recorded.lookUpsAt_eq, recorded.within, recorded.countLookUps⟩, ?_⟩
  refine (forall₂_of_inTurn afresh).imp fun place result isResult => ?_
  exact ⟨isResult, exists_kept_of_forgetting act depth named isResult⟩

theorem System.runEach_eq (system : System String) (places : List Place) :
    system.runEach places =
      inTurn (runKeeping system.labelled perform system.depthBound) places := by
  induction places with
  | nil => rfl
  | cons place rest ih =>
      rw [runEach, inTurn, ih, runKeeping, run, perform_eq_inRun]

end Runs

/-- A list of digits and letters, at three places.  The references to an item are come to also
where no semicolon follows, and the one behind an exclamation mark never is. -/
theorem references_look_up_once_of_list :
    let item : Recognizer String := .choice [.pattern ⟨[.digit], 1, none⟩, .deferred "word"]
    let items : Recognizer String := .sequence [
      .choice [.sequence [.deferred "item", .literal [';']], .deferred "item",
        .sequence [.literal ['!'], .deferred "items"]],
      .optional (.sequence [.literal [','], .deferred "items"])]
    let system : System String := ⟨.deferred "items",
      [("items", items), ("item", item), ("word", .pattern ⟨[.lower], 1, none⟩)]⟩
    let places : List Place := [.ofString "1,2;,x" 0, .ofString "1,2" 2, .ofString "?" 0]
    ∃ results visits after, system.runEach places .empty = .ok (results, after) ∧
      inTurn (runVisiting system.labelled perform system.depthBound) places ([], .empty) =
        .ok (results, visits, after) ∧
      visits.length = 18 ∧ after.countLookUps "items" = 2 ∧
      (system.labelled.labels.filter fun label =>
        label.name = "items" ∧ label ∈ visited visits).length = 2 ∧
      List.Forall₂ (fun place result => system.runAfresh place = .ok result) places results := by
  intro item items system places
  have counted : (inTurn (runVisiting system.labelled perform system.depthBound) places
      ([], .empty)).toOption.map (fun step => (step.2.1.length, step.2.2.countLookUps "items")) =
        some (18, 2) := by
    decide +kernel
  have returns : (system.runEach places .empty).toOption.isSome = true := by decide +kernel
  cases ran : system.runEach places .empty with
  | error stop =>
      rw [ran] at returns
      cases returns
  | ok step =>
      obtain ⟨results, after⟩ := step
      rw [System.runEach_eq] at ran
      obtain ⟨⟨visits, isNoted, -, -, counts⟩, alike⟩ :=
        references_look_up_once perform system.depthBound system.namesByNumber_labelled ran
      rw [isNoted] at counted
      obtain ⟨eighteen, two⟩ := Prod.mk.inj (Option.some.inj counted)
      refine ⟨results, visits, after, rfl, isNoted, eighteen, two, ?_, ?_⟩
      · rw [← system.nodup_labels_labelled.dedup, ← counts]
        exact two
      · exact alike.imp fun place result ⟨isResult, _⟩ => isResult

/-- A reference that stands behind two words, in a condition and in its definition, is looked up
once. -/
example :
    let rest : Recognizer Label := .deferred ⟨0, "condition"⟩
    let word (c : Char) : Recognizer Label := .literal [c]
    let condition : Recognizer Label := .choice [
      .sequence [word 'n', word '&', rest], .sequence [word 'n', word '|', rest], word 'n']
    let system : System Label := ⟨condition, [("condition", condition)]⟩
    let places : List Place := [.ofString "n|n&n" 0, .ofString "n&x" 0]
    system.NamesByNumber ∧
      (inTurn (runKeeping system perform fun _ => 4) places .empty).toOption.map
        (fun step => step.2.lookUps) = some ["condition"] := by
  decide +kernel

end PluralForms.Recognizer
