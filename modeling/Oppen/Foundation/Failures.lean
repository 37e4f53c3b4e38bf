import Mathlib.Logic.Basic

/-! # Failures of a kind

A computation that stops at its first error, and the step an error of a kind comes from: the one
step that can fail in that way, once those before it have passed.
-/

namespace Foundation

variable {Error Value Last : Type} {kind : Error → Prop}

/-- No failure of a computation is of the kind. -/
def NeverFails (kind : Error → Prop) (run : Except Error Value) : Prop :=
  ∀ error, run = .error error → ¬ kind error

theorem neverFails_ok (value : Value) : NeverFails kind (.ok value : Except Error Value) := nofun

theorem neverFails_error {error : Error} (other : ¬ kind error) :
    NeverFails kind (.error error : Except Error Value) := by
  intro failed same
  rwa [← Except.error.inj same]

/-- Computations that never fail in a certain way compose into one that does not. -/
theorem NeverFails.bind {first : Except Error Value} {next : Value → Except Error Last}
    (never : NeverFails kind first) (never' : ∀ value, NeverFails kind (next value)) :
    NeverFails kind (first >>= next) := by
  cases first with
  | error error => exact neverFails_error (never error rfl)
  | ok value => exact never' value

/-- A failure of the kind is one of what comes after a step that never fails so. -/
theorem NeverFails.bind_eq_error_iff {first : Except Error Value}
    {next : Value → Except Error Last} {error : Error} (never : NeverFails kind first)
    (failure : kind error) :
    first >>= next = .error error ↔ ∃ value, first = .ok value ∧ next value = .error error := by
  constructor
  · intro failed
    cases first with
    | error stopped =>
        rw [Except.error.inj failed] at never
        exact absurd failure (never error rfl)
    | ok value => exact ⟨value, rfl, failed⟩
  · rintro ⟨value, rfl, failed⟩
    exact failed

end Foundation
