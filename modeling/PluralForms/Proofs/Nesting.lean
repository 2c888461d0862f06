/-
# Levels within the frame budget

A budget grants the greatest number of levels that it pays for, up to what was requested, and says
so when that is less.  A gate with such a limit then opens and closes levels in any order.  Every
move changes the depth as its outcome says, so the depth is the number of open levels; and a level
is opened only below the limit, so the frames of the open levels never exceed the budget.
-/

import Mathlib.Data.List.Infix
import Mathlib.Order.Bounds.Defs
import PluralForms.Nesting

namespace PluralForms

namespace FrameBudget

variable (budget : FrameBudget) (requested : Int)

theorem grant_le_requested : budget.grant requested ≤ requested := by
  unfold grant
  split <;> omega

theorem grant_fits :
    framesPerLevel * budget.grant requested + budget.reserve ≤ budget.limit := by
  rw [← le_deepest_iff, grant]
  split <;> omega

/-- Nothing more could have been granted. -/
theorem isGreatest_grant :
    IsGreatest
      {levels | levels ≤ requested ∧ framesPerLevel * levels + budget.reserve ≤ budget.limit}
      (budget.grant requested) := by
  refine ⟨⟨budget.grant_le_requested requested, budget.grant_fits requested⟩, ?_⟩
  rintro levels ⟨wanted, fits⟩
  have paid : levels ≤ budget.deepest := (budget.le_deepest_iff levels).2 fits
  unfold grant
  split <;> omega

theorem isSome_warning?_iff :
    (budget.warning? requested).isSome ↔ budget.grant requested < requested := by
  have most := budget.grant_le_requested requested
  rw [Option.isSome_iff_ne_none, Ne, warning?_eq_none_iff]
  omega

end FrameBudget

namespace Gate

/-- What is asked of a gate: to open one more level, or to close one. -/
inductive Move
  | enter
  | leave
  deriving DecidableEq, Repr

/-- What came of a move. -/
inductive Outcome
  | entered
  | refused
  | left
  deriving DecidableEq, Repr

/-- One move, with what came of it and the gate behind it. -/
def step (gate : Gate) : Move → Outcome × Gate
  | .enter =>
      match gate.enter? with
      | some opened => (.entered, opened)
      | none => (.refused, gate)
  | .leave => (.left, gate.leave)

/-- Several moves, one after the other. -/
def run (gate : Gate) : List Move → List Outcome × Gate
  | [] => ([], gate)
  | move :: moves =>
      let rest := (gate.step move).2.run moves
      ((gate.step move).1 :: rest.1, rest.2)

/-- The levels that were entered and not left again. -/
def openLevels (log : List Outcome) : Int :=
  log.count .entered - log.count .left

/-- No level was left before it was entered: at no time had more been left than entered. -/
def IsPaired (log : List Outcome) : Prop :=
  ∀ early ∈ log.inits, early.count .left ≤ early.count .entered

instance (log : List Outcome) : Decidable (IsPaired log) :=
  inferInstanceAs (Decidable (∀ _ ∈ _, _))

variable (gate : Gate)

/-- All that a move can do: a level is opened below the limit and refused at it, and closing one is
never refused. -/
theorem step_cases (move : Move) :
    (move = .enter ∧ gate.depth < gate.limit ∧
      gate.step move = (.entered, ⟨gate.limit, gate.depth + 1⟩)) ∨
    (move = .enter ∧ gate.limit ≤ gate.depth ∧ gate.step move = (.refused, gate)) ∨
    (move = .leave ∧ gate.step move = (.left, ⟨gate.limit, gate.depth - 1⟩)) := by
  cases move with
  | enter =>
      by_cases full : gate.isFull = true
      · refine .inr (.inl ⟨rfl, of_decide_eq_true full, ?_⟩)
        simp only [step, enter?, full, if_true]
      · refine .inl ⟨rfl, Int.not_le.1 fun reached => full (decide_eq_true reached), ?_⟩
        simp only [step, enter?, full]
        rfl
  | leave => exact .inr (.inr ⟨rfl, rfl⟩)

theorem limit_step (move : Move) : (gate.step move).2.limit = gate.limit := by
  rcases gate.step_cases move with ⟨-, -, stepped⟩ | ⟨-, -, stepped⟩ | ⟨-, stepped⟩ <;> rw [stepped]

/-- The depth follows the outcome. -/
theorem depth_step (move : Move) :
    (gate.step move).2.depth = gate.depth + openLevels [(gate.step move).1] := by
  rcases gate.step_cases move with ⟨-, -, stepped⟩ | ⟨-, -, stepped⟩ | ⟨-, stepped⟩ <;>
    rw [stepped]
  · rfl
  · exact (Int.add_zero _).symm
  · rfl

/-- No move leads above the limit, unless the gate was there before. -/
theorem depth_step_le (move : Move) :
    (gate.step move).2.depth ≤ max gate.depth gate.limit := by
  rcases gate.step_cases move with ⟨-, below, stepped⟩ | ⟨-, -, stepped⟩ | ⟨-, stepped⟩ <;>
    rw [stepped]
  · exact Int.le_trans below (Int.le_max_right _ _)
  · exact Int.le_max_left _ _
  · have fewer : gate.depth - 1 ≤ gate.depth := by omega
    exact Int.le_trans fewer (Int.le_max_left _ _)

/-- Opening a level is refused exactly at the limit. -/
theorem step_enter_eq_refused_iff :
    (gate.step .enter).1 = .refused ↔ gate.limit ≤ gate.depth := by
  rcases gate.step_cases .enter with ⟨-, below, stepped⟩ | ⟨-, reached, stepped⟩ | ⟨isLeave, -⟩
  · rw [stepped]
    exact iff_of_false nofun (Int.not_le.2 below)
  · rw [stepped]
    exact iff_of_true rfl reached
  · cases isLeave

theorem step_eq_self_of_refused {move : Move} (refused : (gate.step move).1 = .refused) :
    (gate.step move).2 = gate := by
  rcases gate.step_cases move with ⟨-, -, stepped⟩ | ⟨-, -, stepped⟩ | ⟨-, stepped⟩ <;>
    rw [stepped] at refused ⊢
  · cases refused
  · cases refused

/-- Every outcome counts by itself. -/
theorem openLevels_cons (outcome : Outcome) (log : List Outcome) :
    openLevels (outcome :: log) = openLevels [outcome] + openLevels log := by
  cases outcome <;> simp [openLevels] <;> omega

variable (moves : List Move)

theorem limit_run : (gate.run moves).2.limit = gate.limit := by
  induction moves generalizing gate with
  | nil => rfl
  | cons move moves ih => exact (ih _).trans (gate.limit_step move)

/-- The depth counts the levels that were entered and not left. -/
theorem depth_run : (gate.run moves).2.depth = gate.depth + openLevels (gate.run moves).1 := by
  induction moves generalizing gate with
  | nil => exact (Int.add_zero _).symm
  | cons move moves ih =>
      rw [run, openLevels_cons, ← Int.add_assoc, ← gate.depth_step move]
      exact ih _

/-- However many moves there are, the limit is kept. -/
theorem depth_run_le : (gate.run moves).2.depth ≤ max gate.depth gate.limit := by
  induction moves generalizing gate with
  | nil => exact Int.le_max_left _ _
  | cons move moves ih =>
      refine Int.le_trans (ih (gate.step move).2) (Int.max_le.2 ⟨gate.depth_step_le move, ?_⟩)
      rw [gate.limit_step move]
      exact Int.le_max_right _ _

theorem IsPaired.openLevels_nonneg {log : List Outcome} (paired : IsPaired log) :
    0 ≤ openLevels log := by
  have whole : log.count .left ≤ log.count .entered :=
    paired log ((List.mem_inits _ _).2 List.prefix_rfl)
  unfold openLevels
  omega

end Gate

/-- A budget grants the greatest depth up to the one requested that it pays for, and says so exactly
if that is less.  Behind any moves that leave no level before it was entered, a gate with that limit
is as deep as it has open levels, from none up to the limit; it refuses one more level exactly at
the limit and is not changed by refusing; and open levels are paid for. -/
theorem nesting_within_budget (limit requested : Int) :
    (∀ reserve : Int,
      let budget : FrameBudget := ⟨limit, reserve⟩
      IsGreatest {levels | levels ≤ requested ∧ 6 * levels + reserve ≤ limit}
        (budget.grant requested) ∧
      ((budget.warning? requested).isSome ↔ budget.grant requested < requested)) ∧
    ∀ moves : List Gate.Move,
      let gate := Gate.ofRequest ⟨limit, FrameBudget.standardReserve⟩ requested
      let log := (gate.run moves).1
      let after := (gate.run moves).2
      Gate.IsPaired log →
        after.limit = gate.limit ∧ after.depth = Gate.openLevels log ∧
        0 ≤ after.depth ∧ after.depth ≤ max 0 after.limit ∧
        ((after.step .enter).1 = .refused ↔ after.limit ≤ after.depth) ∧
        (∀ move, (after.step move).1 = .refused → (after.step move).2 = after) ∧
        (0 < after.depth → 6 * after.depth + 50 ≤ limit) := by
  constructor
  · intro reserve budget
    exact ⟨budget.isGreatest_grant requested, budget.isSome_warning?_iff requested⟩
  · intro moves gate log after paired
    have sameLimit : after.limit = gate.limit := gate.limit_run moves
    have counted : after.depth = Gate.openLevels log :=
      (gate.depth_run moves).trans (Int.zero_add _)
    have bounded : after.depth ≤ max 0 after.limit := by
      rw [sameLimit]
      exact gate.depth_run_le moves
    have paid : 6 * gate.limit + 50 ≤ limit := FrameBudget.grant_fits _ requested
    refine ⟨sameLimit, counted, ?_, bounded, after.step_enter_eq_refused_iff,
      fun move => after.step_eq_self_of_refused, fun isOpen => ?_⟩
    · rw [counted]
      exact paired.openLevels_nonneg
    · omega

/-- Frames for two levels are enough for two at a time, whatever was requested: of four levels the
last one is refused, although one had been left. -/
theorem third_level_refused :
    let gate := Gate.ofRequest ⟨62, FrameBudget.standardReserve⟩ 5
    let moves : List Gate.Move := [.enter, .enter, .leave, .enter, .enter]
    Gate.IsPaired (gate.run moves).1 ∧
      (gate.run moves).1 = [.entered, .entered, .left, .entered, .refused] ∧
      (gate.run moves).2.depth = 2 ∧ 0 < (gate.run moves).2.depth ∧
      6 * (gate.run moves).2.depth + 50 ≤ 62 := by
  intro gate moves
  have paired : Gate.IsPaired (gate.run moves).1 := by decide
  obtain ⟨-, counted, -, -, -, -, paid⟩ := (nesting_within_budget 62 5).2 moves paired
  have isTwo : (gate.run moves).2.depth = 2 := counted.trans (by decide)
  have isOpen : 0 < (gate.run moves).2.depth := by
    rw [isTwo]
    decide
  exact ⟨paired, by decide, isTwo, isOpen, paid isOpen⟩

end PluralForms
