import MissionShell.Proofs.Filesystem.Persistence
import MissionShell.Proofs.Filesystem.SameTree
import MissionShell.Proofs.Shell.Operation
import MissionShell.Session

/-!
# What a line does to the snapshot of a session

A line is run on the snapshot in force, in which it may already be the last entry of the history, and
the session goes on with the snapshot that it leaves.

* `Shell.sameTree_next` : a line does the same to one tree whatever the history;
* `Shell.history_next` : a line that is run does not enter itself into the history;
* `Session.sameTree_remember` : remembering a line leaves the tree as it is;
* `Session.outcome_process`, `Session.filesystem_process` : the line runs on what was remembered.
-/

namespace MissionShell

theorem Shell.sameTree_next {fs gs : Filesystem} (h : fs.SameTree gs) (line : String) :
    (next fs line).SameTree (next gs line) := by
  rw [next_eq, next_eq]
  cases operation? line with
  | none => exact h
  | some op => exact h.apply op

theorem Shell.operation?_ne_record (line entry : String) : operation? line ≠ some (.record entry) := by
  unfold operation? commandOperation?
  split
  · simp
  · split <;> simp

theorem Shell.history_next (fs : Filesystem) (line : String) :
    (next fs line).history = fs.history := by
  rw [next_eq]
  cases hop : operation? line with
  | none => rfl
  | some op =>
    refine Filesystem.history_apply (fun entry heq => ?_) fs
    exact operation?_ne_record line entry (heq ▸ hop)

namespace Session

theorem sameTree_remember (s : Session) (line : String) :
    s.filesystem.SameTree (s.remember line).filesystem := by
  unfold remember
  dsimp only
  split_ifs
  · exact .refl _
  · exact .record _ _

@[simp] theorem filesystem_addLine (s : Session) (content : String) (kind : LineKind) :
    (s.addLine content kind).filesystem = s.filesystem := rfl

@[simp] theorem filesystem_enter (s : Session) (fs : Filesystem) :
    (s.enter fs).filesystem = fs := rfl

theorem filesystem_logOutcome (s : Session) (line : String) (r : Outcome) :
    (s.logOutcome line r).filesystem = s.filesystem := by
  unfold logOutcome
  split_ifs <;> rfl

theorem outcome_process (s : Session) (line : String) :
    (s.process line).1 = Shell.execute (s.remember line).filesystem line := by
  simp only [process, filesystem_addLine]

theorem filesystem_process (s : Session) (line : String) :
    (s.process line).2.filesystem = Shell.next (s.remember line).filesystem line := by
  simp only [process, filesystem_logOutcome, filesystem_enter, filesystem_addLine, Shell.next]

end Session

end MissionShell
