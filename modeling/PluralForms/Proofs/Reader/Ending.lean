/-
# How composite attempts end

A reader is put together from smaller ones in three ways: one reads on where
another left off, one is tried where another refused, and a construct is logged
or nested.  For each way this module says how the whole attempt ends and which
fault it leaves, in terms of the attempts that it consists of.

The log plays no part in either, so it never appears here.
-/

import PluralForms.Rule.Attempt

namespace PluralForms.Rule

namespace Reader

variable {α β : Type}

@[simp]
theorem ending_accept (value : α) (head : Head) :
    (accept value head).ending = .accepted value head := rfl

@[simp]
theorem fault_accept (value : α) (head : Head) : (accept value head).fault = none := rfl

@[simp]
theorem ending_refuse (head : Head) : (refuse head : Attempt α).ending = .refused := rfl

@[simp]
theorem fault_refuse (head : Head) : (refuse head : Attempt α).fault = none := rfl

@[simp]
theorem ending_giveUp (head : Head) : (giveUp head : Attempt α).ending = .tooDeep := rfl

@[simp]
theorem fault_giveUp (head : Head) : (giveUp head : Attempt α).fault = none := rfl

section Logged

variable (construct : Construct) (finding : α → Finding) (reader : Reader α) (head : Head)

/-- Logging a construct changes nothing but the log. -/
@[simp]
theorem ending_logged : (logged construct finding reader head).ending = (reader head).ending := by
  unfold logged
  dsimp only
  split <;> rfl

@[simp]
theorem fault_logged : (logged construct finding reader head).fault = (reader head).fault := by
  unfold logged
  dsimp only
  split <;> rfl

@[simp]
theorem ending_nested : (nested reader head).ending = (reader head).ending := rfl

@[simp]
theorem fault_nested : (nested reader head).fault = (reader head).fault := rfl

end Logged

section Composed

variable {first : Reader α} {next : α → Reader β} {head between : Head} {value : α}

/-- An accepted construct hands over to the next one, whose fault counts if it
has one. -/
theorem bind_of_accepted (h : (first head).ending = .accepted value between) :
    (first >>= next) head = (first head).after (next value between) := by
  show andThen first next head = _
  simp [andThen, h]

theorem bind_of_refused (h : (first head).ending = .refused) :
    (first >>= next) head = (first head).after (refuse head) := by
  show andThen first next head = _
  simp [andThen, h]

theorem bind_of_tooDeep (h : (first head).ending = .tooDeep) :
    (first >>= next) head = (first head).after (giveUp head) := by
  show andThen first next head = _
  simp [andThen, h]

/-- Two constructs in a row are accepted exactly when the second one is
accepted where the first one ended. -/
theorem bind_accepted_iff {result : β} {moved : Head} :
    ((first >>= next) head).ending = .accepted result moved ↔
      ∃ value between, (first head).ending = .accepted value between ∧
        (next value between).ending = .accepted result moved := by
  cases h : (first head).ending with
  | accepted value between => simp [bind_of_accepted h, Attempt.after, and_assoc]
  | refused => simp [bind_of_refused h, Attempt.after]
  | tooDeep => simp [bind_of_tooDeep h, Attempt.after]

/-- Constructs that leave no fault on their own leave none in a row. -/
theorem fault_bind_eq_none (faultless : (first head).fault = none)
    (faultlessNext : ∀ value between, (next value between).fault = none) :
    ((first >>= next) head).fault = none := by
  cases h : (first head).ending with
  | accepted value between => simp [bind_of_accepted h, Attempt.after, faultless, faultlessNext]
  | refused => simp [bind_of_refused h, Attempt.after, faultless]
  | tooDeep => simp [bind_of_tooDeep h, Attempt.after, faultless]

variable {second : Reader α}

theorem orElse_of_accepted (h : (first head).ending = .accepted value between) :
    (first <|> second) head = first head := by
  show orElse first (fun _ => second) head = _
  simp [orElse, h]

theorem orElse_of_refused (h : (first head).ending = .refused) :
    (first <|> second) head = (first head).after (second head) := by
  show orElse first (fun _ => second) head = _
  simp [orElse, h]

theorem orElse_of_tooDeep (h : (first head).ending = .tooDeep) :
    (first <|> second) head = first head := by
  show orElse first (fun _ => second) head = _
  simp [orElse, h]

/-- Readings that leave no fault on their own leave none between them. -/
theorem fault_orElse_eq_none (faultless : (first head).fault = none)
    (faultlessToo : (second head).fault = none) : ((first <|> second) head).fault = none := by
  cases h : (first head).ending with
  | accepted found between => simp [orElse_of_accepted h, faultless]
  | refused => simp [orElse_of_refused h, Attempt.after, faultless, faultlessToo]
  | tooDeep => simp [orElse_of_tooDeep h, faultless]

/-- The second of two readings counts only where the first one is refused. -/
theorem orElse_accepted_iff {moved : Head} :
    ((first <|> second) head).ending = .accepted value moved ↔
      (first head).ending = .accepted value moved ∨
        (first head).ending = .refused ∧ (second head).ending = .accepted value moved := by
  cases h : (first head).ending with
  | accepted found between => simp [orElse_of_accepted h, h]
  | refused => simp [orElse_of_refused h, Attempt.after]
  | tooDeep => simp [orElse_of_tooDeep h, h]

end Composed

end Reader

end PluralForms.Rule
