/-!
# Computations that must not get stuck

A `Guarded` computation may fail with an error, and beside that there are steps in it that have to
be possible: bytes are cut out of others, a number has to fit. Where such a step is not possible
there is no result at all, not even an error. That a computation never gets stuck is said by giving
its result.
-/

namespace ScoreDeploy

/-- A computation that has no result where one of its steps is not possible. -/
abbrev Guarded (ε α : Type) := ExceptT ε Option α

namespace Guarded

variable {ε α β : Type}

/-- A value that has to be there. -/
def sure (value : Option α) : Guarded ε α :=
  ExceptT.mk (value.map .ok)

/-- A step that may fail but is always possible. -/
def step (x : Except ε α) : Guarded ε α :=
  ExceptT.mk (some x)

theorem sure_bind {value : Option α} {a : α} (h : value = some a) (f : α → Guarded ε β) :
    (sure value >>= f) = f a := by
  rw [h]
  rfl

/-- A step that may fail comes first in both of two computations. -/
theorem run_step_bind {x : Except ε α} {f : α → Guarded ε β} {g : α → Except ε β}
    (h : ∀ a, x = .ok a → (f a).run = some (g a)) : (step x >>= f).run = some (x >>= g) := by
  cases x with
  | error e => rfl
  | ok a => exact h a rfl

end Guarded

end ScoreDeploy
