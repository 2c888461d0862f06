/-
# Nesting limits

Every connective of a rule nests one more condition, and every level of
nesting costs a fixed number of frames of the host's call stack.  A
`FrameBudget` turns a requested limit into one that fits the stack; a `Gate`
counts the levels that are open and lets no more in than its limit.
-/

namespace PluralForms

/-- The frames that the host grants, and those of them that are set aside for
the innermost relation and for the caller. -/
structure FrameBudget where
  limit : Int
  reserve : Int
  deriving DecidableEq, Repr

namespace FrameBudget

/-- The frames that one level of nesting takes. -/
def framesPerLevel : Int := 6

/-- The frames that are set aside if nothing else is said. -/
def standardReserve : Int := 50

/-- The budget of a host in its usual configuration. -/
def standard : FrameBudget := ⟨1000, standardReserve⟩

/-- The greatest number of levels that the budget pays for. -/
def deepest (budget : FrameBudget) : Int :=
  (budget.limit - budget.reserve) / framesPerLevel

/-- The requested limit, or the greatest one that the budget pays for. -/
def grant (budget : FrameBudget) (requested : Int) : Int :=
  if budget.deepest < requested then budget.deepest else requested

/-- What is said when a request is not granted in full. -/
def warning? (budget : FrameBudget) (requested : Int) : Option String :=
  if budget.deepest < requested then
    some (s!"Requested depth {requested} exceeds Python recursion limit ({budget.limit}). " ++
      s!"Clamping to {budget.deepest} to prevent RecursionError. " ++
      "Consider increasing sys.setrecursionlimit() if needed.")
  else none

/-- A limit of levels fits the budget exactly when it is at most the deepest. -/
theorem le_deepest_iff (budget : FrameBudget) (levels : Int) :
    levels ≤ budget.deepest ↔ framesPerLevel * levels + budget.reserve ≤ budget.limit := by
  unfold deepest framesPerLevel
  omega

/-- Nothing is said about a request that is granted in full. -/
theorem warning?_eq_none_iff (budget : FrameBudget) (requested : Int) :
    budget.warning? requested = none ↔ budget.grant requested = requested := by
  unfold warning? grant
  split <;> simp
  omega

end FrameBudget

/-- How many levels are open, and how many may be. -/
structure Gate where
  limit : Int
  depth : Int
  deriving DecidableEq, Repr

namespace Gate

/-- The limit on nested conditions if nothing else is asked for. -/
def standardLimit : Int := 100

/-- A gate with no open level and the limit that the budget grants. -/
def ofRequest (budget : FrameBudget) (requested : Int) : Gate :=
  ⟨budget.grant requested, 0⟩

/-- No further level may be opened. -/
def isFull (gate : Gate) : Bool :=
  gate.limit ≤ gate.depth

/-- Opens one level.  A full gate refuses, and stays as it is. -/
def enter? (gate : Gate) : Option Gate :=
  if gate.isFull then none else some { gate with depth := gate.depth + 1 }

/-- Closes one level. -/
def leave (gate : Gate) : Gate :=
  { gate with depth := gate.depth - 1 }

/-- The levels that can still be opened. -/
def room (gate : Gate) : Nat :=
  (gate.limit - gate.depth).toNat

/-- Closing a level undoes opening it. -/
theorem leave_of_enter? {gate opened : Gate} (h : gate.enter? = some opened) :
    opened.leave = gate := by
  unfold enter? at h
  split at h
  · cases h
  · cases h
    simp [leave]

/-- A gate is full exactly when there is no room. -/
theorem isFull_iff_room_eq_zero (gate : Gate) : gate.isFull = true ↔ gate.room = 0 := by
  simp only [isFull, room, decide_eq_true_eq]
  omega

/-- A gate refuses exactly when it is full. -/
theorem enter?_eq_none_iff (gate : Gate) : gate.enter? = none ↔ gate.isFull = true := by
  unfold enter?
  split
  · exact iff_of_true rfl ‹_›
  · exact iff_of_false (by simp) ‹_›

end Gate

end PluralForms
