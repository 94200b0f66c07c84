import MissionShell.Proofs.Shell.Operation

/-!
# When a line succeeds

* `Shell.success_execute` : a line succeeds if its command does;
* `Shell.isOk_list`, `Shell.isOk_showFile`, … : when a command that can fail succeeds.
-/

namespace MissionShell.Shell

theorem success_ofResult (result : Except CommandError Effect) :
    (Outcome.ofResult result).success = result.isOk := by
  rcases result with e | effect
  · rfl
  · cases effect <;> rfl

theorem success_execute {line name : String} {arguments : List String}
    (h : Text.words line = name :: arguments) (fs : Filesystem) :
    (execute fs line).success = (run fs name arguments).isOk := by
  rw [execute_of_words h]
  exact success_ofResult _

/-! ## Commands -/

theorem isOk_changeDirectory (fs : Filesystem) (arguments : List String) :
    (changeDirectory fs arguments).isOk =
      fs.hasDirectory (fs.resolve (arguments.head?.getD Path.home.toString)) := by
  unfold changeDirectory
  dsimp only
  split_ifs with h
  · rw [h]
    rfl
  · rw [Bool.not_eq_true] at h
    rw [h]
    rfl

theorem isOk_showFile (fs : Filesystem) (name : String) (rest : List String) :
    (showFile fs (name :: rest)).isOk = (fs.file? fs.cwd name).isSome := by
  simp only [showFile]
  cases fs.file? fs.cwd name <;> rfl

theorem isOk_removeFile (fs : Filesystem) (name : String) (rest : List String) :
    (removeFile fs (name :: rest)).isOk = (fs.file? fs.cwd name).isSome := by
  simp only [removeFile]
  cases fs.file? fs.cwd name <;> rfl

theorem isOk_makeDirectory (fs : Filesystem) (text : String) (rest : List String) :
    (makeDirectory fs (text :: rest)).isOk = (fs.makeDirectory? text).isOk := by
  simp only [makeDirectory]
  cases fs.makeDirectory? text <;> rfl

/-- The working directory can be listed, whatever the options. -/
theorem isOk_list {fs : Filesystem} (h : fs.WellFormed) {arguments : List String}
    (hoptions : ∀ a ∈ arguments, Listing.isOption a = true) :
    (Listing.run fs arguments).isOk = true := by
  have htarget : (Listing.Request.ofArguments arguments).target = none := by
    rw [Listing.Request.ofArguments, List.find?_eq_none]
    intro a ha
    simp [hoptions a ha]
  simp only [Listing.run, htarget, Option.getD_none, h.resolve_toString h.cwd, h.cwd]
  split_ifs <;> rfl

end MissionShell.Shell
