/-!
# Attempts in a row

A reader or an instruction that may fail is an attempt, and the next one starts
from what it gave.  The attempts succeed together exactly if each of them does,
and the fault of the first that fails is the fault of them all.
-/

namespace RegisterMachine.Attempt

variable {ε α β : Type}

theorem bind_eq_ok_iff {x : Except ε α} {f : α → Except ε β} {b : β} :
    x.bind f = .ok b ↔ ∃ a, x = .ok a ∧ f a = .ok b := by
  cases x with
  | error fault => simp [Except.bind]
  | ok a => simp [Except.bind]

/-- Changing the result of an attempt is a further attempt, which cannot fail. -/
theorem map_eq_bind {x : Except ε α} {f : α → β} : x.map f = x.bind fun a => .ok (f a) := by
  cases x with
  | error fault => rfl
  | ok a => rfl

theorem map_eq_ok_iff {x : Except ε α} {f : α → β} {b : β} :
    x.map f = .ok b ↔ ∃ a, x = .ok a ∧ f a = b := by
  cases x with
  | error fault => simp [Except.map]
  | ok a => simp [Except.map]

/-- Either the first attempt fails, or the second one fails from what the first gave. -/
theorem bind_eq_error_iff {x : Except ε α} {f : α → Except ε β} {fault : ε} :
    x.bind f = .error fault ↔ x = .error fault ∨ ∃ a, x = .ok a ∧ f a = .error fault := by
  cases x with
  | error fault' => simp [Except.bind]
  | ok a => simp [Except.bind]

/-- A change of the result keeps the fault. -/
theorem map_eq_error_iff {x : Except ε α} {f : α → β} {fault : ε} :
    x.map f = .error fault ↔ x = .error fault := by
  cases x with
  | error fault' => simp [Except.map]
  | ok a => simp [Except.map]

end RegisterMachine.Attempt
