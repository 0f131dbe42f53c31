import SwitchLab.Lab
/-!
Teardown: every step is tried whatever became of those before it, and what failed is reported in
order.
-/
namespace SwitchLab.Cleanup

/-- Tries a step. A failure is told under the name of the step. -/
def step (what : String) (work : Attempt Unit) : Lab (List String) := do
  match ← work.outcome with
  | .ok _ => return []
  | .error fault => return [s!"{what}: {fault.message}"]

/-- The result of a teardown with these failures. -/
def verdict (failures : List String) : Except Fault Unit :=
  if failures.isEmpty then .ok () else .error (.cleanup failures)

end SwitchLab.Cleanup
