import Mathlib.Data.List.Induction
import PageScript.Run.Control

/-! What actions do to the flags, one after the other: the last of those that pause or resume
counts, a stop stays, and the counters are left as they are. -/
namespace PageScript

namespace Control

variable (control : Control) (actions : List ControlAction)

theorem runningAfter : (control.applyAll actions).running =
    (control.running && !actions.contains .stop) := by
  induction actions generalizing control with
  | nil => simp [applyAll]
  | cons action actions ih =>
    rw [applyAll, List.foldl_cons, ← applyAll, ih]
    cases action <;> simp [apply]

theorem countersAfter : (control.applyAll actions).current = control.current ∧
    (control.applyAll actions).total = control.total := by
  induction actions generalizing control with
  | nil => exact ⟨rfl, rfl⟩
  | cons action actions ih =>
    rw [applyAll, List.foldl_cons, ← applyAll]
    cases action <;> exact ih _

end Control

end PageScript
