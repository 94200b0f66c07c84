import MissionShell.Proofs.Filesystem.WellFormed
import MissionShell.Shell

/-!
# Lines as operations on the filesystem

* `Shell.commandOperation?` : the operation that a command asks for;
* `Shell.operation?` : the operation that a line asks for, read off its text alone;
* `Shell.next_eq` : a line leaves what its operation makes, and no line does anything else;
* `Shell.after_append_singleton` : a run, one line at a time;
* `Shell.reachable_after` : the snapshots of a run are those of operations.
-/

namespace MissionShell.Shell

/-- The operation that a command asks for. One that only prints asks for none. -/
def commandOperation? (command : Command) (arguments : List String) : Option Filesystem.Operation :=
  match command with
  | .cd => some (.changeDirectory (arguments.head?.getD Path.home.toString))
  | .mkdir => arguments.head?.map .makeDirectory
  | .touch => arguments.head?.map .touch
  | .rm => arguments.head?.map .remove
  | .echo => (Redirect.parse? (" ".intercalate arguments)).map fun r => .write r.target r.content
  | .ls | .pwd | .cat | .ssh | .clear | .unknown => none

def operation? (line : String) : Option Filesystem.Operation :=
  match Text.words line with
  | [] => none
  | name :: arguments => commandOperation? (Command.ofName name) arguments

/-! ## What a command leaves -/

def left (fs : Filesystem) (result : Except CommandError Effect) : Filesystem :=
  (Outcome.ofResult result).filesystem.getD fs

@[simp] theorem left_print (fs : Filesystem) (text : String) : left fs (.ok (.print text)) = fs := rfl

@[simp] theorem left_become (fs next : Filesystem) : left fs (.ok (.become next)) = next := rfl

@[simp] theorem left_error (fs : Filesystem) (e : CommandError) : left fs (.error e) = fs := rfl

theorem left_list (fs : Filesystem) (arguments : List String) :
    left fs (Listing.run fs arguments) = fs := by
  unfold Listing.run
  dsimp only
  split_ifs <;> rfl

theorem left_showFile (fs : Filesystem) (arguments : List String) :
    left fs (showFile fs arguments) = fs := by
  unfold showFile
  split
  · rfl
  · split <;> rfl

theorem left_changeDirectory (fs : Filesystem) (arguments : List String) :
    left fs (changeDirectory fs arguments) =
      fs.changeDirectory (arguments.head?.getD Path.home.toString) := by
  unfold changeDirectory
  by_cases h : fs.hasDirectory (fs.resolve (arguments.head?.getD Path.home.toString)) = true
  · simp [h]
  · simp [h, Filesystem.changeDirectory_eq]

theorem left_makeDirectory (fs : Filesystem) (name : String) (rest : List String) :
    left fs (makeDirectory fs (name :: rest)) = fs.makeDirectory name := by
  simp only [makeDirectory, Filesystem.makeDirectory]
  cases fs.makeDirectory? name with
  | ok next => rfl
  | error cause => rfl

theorem left_removeFile (fs : Filesystem) (name : String) (rest : List String) :
    left fs (removeFile fs (name :: rest)) = fs.remove name := by
  unfold removeFile
  by_cases h : (fs.file? fs.cwd name).isSome = true
  · simp [h]
  · simp [h, Filesystem.remove]

theorem left_echo (fs : Filesystem) (arguments : List String) :
    left fs (.ok (echo fs arguments)) =
      (Redirect.parse? (" ".intercalate arguments)).elim fs fun r => fs.write r.target r.content := by
  simp only [echo]
  cases Redirect.parse? (" ".intercalate arguments) with
  | none => rfl
  | some r => rfl

theorem left_run (fs : Filesystem) (name : String) (arguments : List String) :
    left fs (run fs name arguments) =
      (commandOperation? (Command.ofName name) arguments).elim fs fs.apply := by
  unfold run commandOperation?
  cases Command.ofName name with
  | ls => exact left_list fs arguments
  | cd => exact left_changeDirectory fs arguments
  | mkdir =>
    cases arguments with
    | nil => rfl
    | cons text rest => exact left_makeDirectory fs text rest
  | touch => cases arguments <;> rfl
  | rm =>
    cases arguments with
    | nil => rfl
    | cons text rest => exact left_removeFile fs text rest
  | echo =>
    rw [left_echo]
    cases Redirect.parse? (" ".intercalate arguments) <;> rfl
  | cat => exact left_showFile fs arguments
  | pwd | ssh | clear | unknown => rfl

/-- A line leaves what the operation in its text makes of the snapshot, whether or not it reports
a failure. -/
theorem next_eq (fs : Filesystem) (line : String) :
    next fs line = (operation? line).elim fs fs.apply := by
  unfold next execute operation?
  cases Text.words line with
  | nil => rfl
  | cons name arguments => exact left_run fs name arguments

theorem wellFormed_next {fs : Filesystem} (h : fs.WellFormed) (line : String) :
    (next fs line).WellFormed := by
  rw [next_eq]
  cases operation? line with
  | none => exact h
  | some op => exact h.apply op

/-! ## Runs -/

theorem after_append_singleton (fs : Filesystem) (lines : List String) (line : String) :
    after fs (lines ++ [line]) = next (after fs lines) line := by
  simp [after]

theorem reachable_next {fs : Filesystem} (h : fs.Reachable) (line : String) :
    (next fs line).Reachable := by
  rw [next_eq]
  cases operation? line with
  | none => exact h
  | some op => exact h.apply op

theorem reachable_after {fs : Filesystem} (h : fs.Reachable) (lines : List String) :
    (after fs lines).Reachable := by
  induction lines using List.reverseRecOn with
  | nil => exact h
  | append_singleton lines line ih =>
    rw [after_append_singleton]
    exact reachable_next ih line

end MissionShell.Shell
