import MissionShell.Proofs.Filesystem.SameTree
import MissionShell.Shell

/-!
# Lines on one tree

A command looks at the tree and at the working directory and never at the history, so on snapshots of
one tree it fails alike, prints the same, or leaves snapshots of one tree.

* `Shell.SameResult` : two results of a command that differ in histories alone;
* `Shell.sameResult_run` : every command has such results on snapshots of one tree;
* `Outcome.Agrees` : the same of what a line is answered;
* `Shell.agrees_execute` : every line is answered so.
-/

namespace MissionShell

/-- Both outcomes tell the user the same, and they leave snapshots of one tree or none. -/
structure Outcome.Agrees (r s : Outcome) : Prop where
  output : s.output = r.output
  success : s.success = r.success
  error : s.error = r.error
  filesystemChanged : s.filesystemChanged = r.filesystemChanged
  filesystem : Option.Rel Filesystem.SameTree r.filesystem s.filesystem

theorem Outcome.Agrees.refl (r : Outcome) : r.Agrees r := by
  refine ⟨rfl, rfl, rfl, rfl, ?_⟩
  cases r.filesystem with
  | none => exact .none
  | some fs => exact .some (.refl fs)

namespace Shell

/-- Both commands fail for one cause, print one text, or leave snapshots of one tree. -/
inductive SameResult : Except CommandError Effect → Except CommandError Effect → Prop where
  | error (e : CommandError) : SameResult (.error e) (.error e)
  | print (text : String) : SameResult (.ok (.print text)) (.ok (.print text))
  | become {fs gs : Filesystem} (h : fs.SameTree gs) : SameResult (.ok (.become fs)) (.ok (.become gs))

theorem SameResult.agrees {r s : Except CommandError Effect} (h : SameResult r s) :
    (Outcome.ofResult r).Agrees (Outcome.ofResult s) := by
  cases h with
  | error e => exact .refl _
  | print text => exact .refl _
  | become h => exact ⟨rfl, rfl, rfl, rfl, .some h⟩

section Commands
variable {fs gs : Filesystem} (h : fs.SameTree gs) (arguments : List String)
include h

theorem sameResult_list : SameResult (Listing.run fs arguments) (Listing.run gs arguments) := by
  simp only [Listing.run, h.fileAt?, h.hasDirectory, h.resolve, h.list, h.cwd]
  split_ifs
  · exact .print _
  · exact .print _
  · exact .print _
  · exact .print _
  · exact .error _

theorem sameResult_changeDirectory :
    SameResult (changeDirectory fs arguments) (changeDirectory gs arguments) := by
  simp only [changeDirectory, h.hasDirectory, h.resolve]
  split_ifs
  · exact .become (h.changeDirectory _)
  · exact .error _

theorem sameResult_showFile : SameResult (showFile fs arguments) (showFile gs arguments) := by
  cases arguments with
  | nil => exact .error _
  | cons name rest =>
    simp only [showFile, h.file?, h.cwd]
    cases fs.file? fs.cwd name with
    | none => exact .error _
    | some f => exact .print _

theorem sameResult_makeDirectory :
    SameResult (makeDirectory fs arguments) (makeDirectory gs arguments) := by
  cases arguments with
  | nil => exact .error _
  | cons name rest =>
    simp only [makeDirectory]
    obtain ⟨cause, hfs, hgs⟩ | ⟨fs', gs', hfs, hgs, hnext⟩ := h.makeDirectory? name
    · rw [hfs, hgs]
      exact .error _
    · rw [hfs, hgs]
      exact .become hnext

theorem sameResult_touchFile : SameResult (touchFile fs arguments) (touchFile gs arguments) := by
  cases arguments with
  | nil => exact .error _
  | cons name rest => exact .become (h.touch name)

theorem sameResult_removeFile : SameResult (removeFile fs arguments) (removeFile gs arguments) := by
  cases arguments with
  | nil => exact .error _
  | cons name rest =>
    simp only [removeFile, h.file?, h.cwd]
    split_ifs
    · exact .become (h.remove name)
    · exact .error _

theorem sameResult_echo : SameResult (.ok (echo fs arguments)) (.ok (echo gs arguments)) := by
  simp only [echo]
  cases Redirect.parse? (" ".intercalate arguments) with
  | none => exact .print _
  | some r => exact .become (h.write _ _)

theorem sameResult_run (name : String) : SameResult (run fs name arguments) (run gs name arguments) := by
  unfold run
  cases Command.ofName name with
  | ls => exact sameResult_list h arguments
  | pwd =>
    rw [h.cwd]
    exact .print _
  | cd => exact sameResult_changeDirectory h arguments
  | cat => exact sameResult_showFile h arguments
  | mkdir => exact sameResult_makeDirectory h arguments
  | touch => exact sameResult_touchFile h arguments
  | echo => exact sameResult_echo h arguments
  | rm => exact sameResult_removeFile h arguments
  | ssh | clear => exact .print _
  | unknown => exact .error _

end Commands

/-- A line is answered alike on snapshots of one tree, whatever their histories. -/
theorem agrees_execute {fs gs : Filesystem} (h : fs.SameTree gs) (line : String) :
    (execute fs line).Agrees (execute gs line) := by
  unfold execute
  cases Text.words line with
  | nil => exact .refl _
  | cons name arguments => exact (sameResult_run h arguments name).agrees

end Shell

end MissionShell
