import SwitchLab.Polling
/-!
Probes whose answers are listed in advance.
-/
namespace SwitchLab

/-- The answers that are left, and how many were taken. -/
structure RoundList where
  answers : List (Bool × String)
  taken : Nat

abbrev Rounds := StateT RoundList (Dialogue Host)

namespace Rounds

/-- The next answer; the last one stays. -/
def next : Rounds (Bool × String) := fun r =>
  match r.answers with
  | [] => return ((false, ""), { r with taken := r.taken + 1 })
  | [last] => return (last, { r with taken := r.taken + 1 })
  | first :: rest => return (first, ⟨rest, r.taken + 1⟩)

end Rounds

end SwitchLab
