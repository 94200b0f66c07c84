import MissionShell.Binary64

/-!
# Progress

`Progress` counts the steps that are done; `Progress.percentage` gives the share of them in percent.
-/

namespace MissionShell

structure Progress where
  completed : Nat
  total : Nat
deriving DecidableEq

namespace Progress

def maxPercentage : Nat := UInt32.size - 1

/-- The share of completed steps in percent, computed in doubles and taken to the nearest integer;
nothing of nothing is zero percent. -/
def percentage (p : Progress) : Nat :=
  if p.total = 0 then 0
  else
    let scaled := Binary64.nearest (100 * Binary64.nearest p.completed)
    let share := Binary64.nearest (scaled / Binary64.nearest p.total)
    min (Binary64.halfUp share).toNat maxPercentage

end Progress

end MissionShell
