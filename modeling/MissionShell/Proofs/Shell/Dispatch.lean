import MissionShell.Proofs.Text.Spacing
import MissionShell.Shell

/-!
# What a line is dispatched by

A line is run by its words alone, and the first of them only by its lower-casing. So blanks around and
between the words are of no matter, nor is the case of the command, save that a command that is not known
is reported in the letters that it was typed in.

* `Shell.execute_congr` : a line is run by its words;
* `Command.ofName_congr`, `Shell.run_congr` : a command is run by the lower-casing of its name;
* `Shell.Insensitive`, `Shell.insensitive` : blanks and letter case in full.
-/

namespace MissionShell

theorem Command.ofName_congr {name other : String}
    (h : Text.lowercase other = Text.lowercase name) : ofName other = ofName name := by
  rw [ofName, h, ofName]

namespace Shell

/-- Lines of the same words are run alike. -/
theorem execute_congr {line other : String} (h : Text.words other = Text.words line)
    (fs : Filesystem) : execute fs other = execute fs line := by
  rw [execute, h, execute]

theorem run_of_unknown {name : String} (h : Command.ofName name = .unknown) (fs : Filesystem)
    (arguments : List String) : run fs name arguments = .error (.unknownCommand name) := by
  rw [run, h]

/-- A command that is known does not look at its name. -/
theorem run_congr {name other : String} (h : Text.lowercase other = Text.lowercase name)
    (hknown : Command.ofName name ≠ .unknown) (fs : Filesystem) (arguments : List String) :
    run fs other arguments = run fs name arguments := by
  rw [run, Command.ofName_congr h, run]
  cases hname : Command.ofName name with
  | unknown => exact absurd hname hknown
  | ls | pwd | cd | cat | mkdir | touch | echo | rm | ssh | clear => rfl

structure Insensitive (fs : Filesystem) : Prop where
  spacing : ∀ ws line, (∀ w ∈ ws, Text.IsWord w) → Text.Spaced ws line →
    execute fs line = execute fs (" ".intercalate ws)
  known : ∀ name other arguments line, (∀ w ∈ name :: arguments, Text.IsWord w) →
    Text.IsWord other → Text.lowercase other = Text.lowercase name →
    Command.ofName name ≠ .unknown → Text.Spaced (other :: arguments) line →
      execute fs line = execute fs (" ".intercalate (name :: arguments))
  unknown : ∀ name other arguments line, (∀ w ∈ name :: arguments, Text.IsWord w) →
    Text.IsWord other → Text.lowercase other = Text.lowercase name →
    Command.ofName name = .unknown → Text.Spaced (other :: arguments) line →
      (execute fs (" ".intercalate (name :: arguments))).output = name ++ ": command not found" ∧
      execute fs line =
        { execute fs (" ".intercalate (name :: arguments)) with
          output := other ++ ": command not found" }
  blank : ∀ line, Text.IsGap line →
    (execute fs line).success = true ∧ (execute fs line).output = "" ∧
      (execute fs line).filesystem = none

/-- **Spacing and the case of the command are of no matter**, on every snapshot. -/
theorem insensitive (fs : Filesystem) : Insensitive fs where
  spacing ws line hws hspaced :=
    execute_congr ((hspaced.words_eq hws).trans (Text.words_intercalate hws).symm) fs
  known name other arguments line hws hother hlower hknown hspaced := by
    have hothers := List.forall_mem_cons.mpr ⟨hother, (List.forall_mem_cons.mp hws).2⟩
    rw [execute_of_words (hspaced.words_eq hothers), execute_of_words (Text.words_intercalate hws),
      run_congr hlower hknown]
  unknown name other arguments line hws hother hlower hunknown hspaced := by
    have hothers := List.forall_mem_cons.mpr ⟨hother, (List.forall_mem_cons.mp hws).2⟩
    have hunknown' : Command.ofName other = .unknown :=
      (Command.ofName_congr hlower).trans hunknown
    rw [execute_of_words (hspaced.words_eq hothers), execute_of_words (Text.words_intercalate hws),
      run_of_unknown hunknown, run_of_unknown hunknown']
    exact ⟨rfl, rfl⟩
  blank line hgap := by
    rw [execute, hgap.words_eq]
    exact ⟨rfl, rfl, rfl⟩

/-- The Kelvin sign is a capital of `k`, and there are more blanks than the space. -/
theorem insensitive_seed :
    Text.Spaced ["m\u212Adir", "x"] "\u00a0m\u212Adir\t\u3000x\n" ∧
      execute .seed "\u00a0m\u212Adir\t\u3000x\n" = execute .seed "mkdir x" ∧
      execute .seed "Hack it\u0085" =
        { execute .seed "HACK it" with output := "Hack: command not found" } ∧
      (execute .seed "\t\u2003").success = true := by
  obtain ⟨-, hknown, hunknown, hblank⟩ := insensitive .seed
  have hkelvin : Text.Spaced ["m\u212Adir", "x"] "\u00a0m\u212Adir\t\u3000x\n" :=
    ⟨"m\u212Adir\t\u3000x",
      .cons "m\u212Adir" "\t\u3000" (by decide) (by decide) (.single "x"),
      "\u00a0", "\n", by decide, by decide, by decide⟩
  have hhack : Text.Spaced ["Hack", "it"] "Hack it\u0085" :=
    ⟨"Hack it", .cons "Hack" " " (by decide) (by decide) (.single "it"),
      "", "\u0085", by decide, by decide, by decide⟩
  refine ⟨hkelvin, ?_, ?_, (hblank _ (by decide)).1⟩
  · exact hknown "mkdir" _ ["x"] _ (by decide) (by decide) (by decide +kernel) (by decide +kernel)
      hkelvin
  · exact (hunknown "HACK" _ ["it"] _ (by decide) (by decide) (by decide +kernel) (by decide +kernel)
      hhack).2

end Shell

end MissionShell
