import MissionShell.Quest.Progress
import MissionShell.Quest.Step

/-!
# Quests

A quest is a list of steps that are taken in order, with a cursor at the current one.

* `Quest.currentStep?` : the step under the cursor;
* `Quest.completeStep`, `Quest.reset` : the two moves of the cursor;
* `Quest.progress` : how much is done.
-/

namespace MissionShell

structure Quest where
  id : String
  title : String
  description : String := ""
  steps : List Step := []
  cursor : Nat := 0
  completed : Bool := false
  initial : Filesystem
  welcomeMessage : String := ""
  completionMessage : String := ""

namespace Quest

def currentStep? (q : Quest) : Option Step := q.steps[q.cursor]?

/-- Marks the step under the cursor as completed and moves on; past the last step the whole quest
is completed. Without a step under the cursor nothing happens. -/
def completeStep (q : Quest) : Quest :=
  match q.currentStep? with
  | none => q
  | some step =>
    { q with
      steps := q.steps.set q.cursor { step with completed := true }
      cursor := q.cursor + 1
      completed := q.completed || q.steps.length ≤ q.cursor + 1 }

def endsWithStep (q : Quest) : Bool := q.currentStep?.isSome && q.completeStep.completed

def reset (q : Quest) : Quest :=
  { q with
    steps := q.steps.map fun s => { s with completed := false }
    cursor := 0
    completed := false }

def progress (q : Quest) : Progress := ⟨q.steps.countP (·.completed), q.steps.length⟩

end Quest

end MissionShell
