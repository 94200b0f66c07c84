import MissionShell.Proofs.Path.Spelling
import MissionShell.Proofs.Text.Case
import MissionShell.Quest.Mission

/-!
# Which lines complete a step

A step is completed by its commands or by the lines that its check accepts. Either way the words of
such a line are those of a command, up to the case of letters where texts are compared without it.

* `Step.Answers` : a line that is one of the commands of a step;
* `Step.advances_validate_iff` : these complete a step that has no check of its own;
* `Mission.advances_exactLine`, `Mission.advances_inHackzone` : the lines that the checks accept;
* `Step.Answers.words`, `Mission.words_of_exactLine` : the words of a line that completes a step.
-/

namespace MissionShell

/-! ## Commands -/

/-- The line is one of the commands of the step, up to blanks around it and the case of letters. -/
def Step.Answers (s : Step) (line : String) : Prop :=
  ∃ command ∈ s.expected ++ s.alternatives,
    Text.lowercase command = Text.lowercase (Text.trim line)

/-- A step without a check of its own is completed by its commands, whatever they do. -/
theorem Step.advances_validate_iff {s : Step} (hs : s.check = none) (line : String)
    (fs : Filesystem) : (s.validate line fs).advances = true ↔ s.Answers line := by
  have hadv : (s.matchCommands line).advances = s.accepts line := by
    unfold matchCommands Validation.advances
    dsimp only
    rw [Option.getD_some, Bool.and_self]
  have hvalidate : s.validate line fs = s.matchCommands line := by rw [validate, hs]
  rw [hvalidate, hadv, accepts, commands, List.any_eq_true]
  simp only [decide_eq_true_eq]
  rfl

theorem Step.Answers.words {s : Step} {line : String} (h : s.Answers line) :
    ∃ command ∈ s.expected ++ s.alternatives,
      (Text.words line).map Text.lowercase = (Text.words command).map Text.lowercase := by
  obtain ⟨command, hmem, heq⟩ := h
  refine ⟨command, hmem, ?_⟩
  rw [← Text.words_trim line, ← Text.words_lowercase, ← Text.words_lowercase, heq]

/-! ## Checks -/

namespace Mission

theorem advances_exactLine (lines : List String) (success hint line : String) (fs : Filesystem) :
    (exactLine lines success hint line fs).advances = true ↔ Text.trim line ∈ lines := by
  rw [exactLine, Validation.advances_ofValid, List.contains_iff_mem]

/-- A step that asks for one of some very lines is completed by their words. -/
theorem words_of_exactLine {s : Step} {lines : List String} {success hint : String}
    (hs : s.check = some (exactLine lines success hint)) {line : String} {fs : Filesystem}
    (hadv : (s.validate line fs).advances = true) :
    ∃ command ∈ lines, Text.words line = Text.words command := by
  have hmem : Text.trim line ∈ lines := by
    rw [Step.validate, hs] at hadv
    exact (advances_exactLine lines success hint line fs).mp hadv
  exact ⟨_, hmem, (Text.words_trim line).symm⟩

theorem words_eq_of_exactLine {s : Step} {command success hint : String}
    (hs : s.check = some (exactLine [command] success hint)) {line : String} {fs : Filesystem}
    (hadv : (s.validate line fs).advances = true) : Text.words line = Text.words command := by
  obtain ⟨c, hc, hline⟩ := words_of_exactLine hs hadv
  rw [hline, List.mem_singleton.mp hc]

theorem isName_hackzone : Path.IsName "hackzone" := by decide

/-- The folder is entered by the very line that asks for it, wherever a folder of its name is. -/
theorem advances_inHackzone {fs : Filesystem} (hcwd : fs.cwd.Proper) (line : String) :
    (inHackzone line fs).advances = true ↔
      Text.trim line = "cd hackzone" ∧ fs.cwd.name? = some "hackzone" := by
  rw [← Path.suffix_toString_iff hcwd isName_hackzone, ← List.isSuffixOf_iff_suffix]
  unfold inHackzone
  dsimp only
  rw [Validation.advances, Validation.withAdvance, Validation.ofValid, Option.getD_some]
  simp only [Bool.and_eq_true, decide_eq_true_eq]
  exact ⟨fun h => h.1, fun h => ⟨h, h.1⟩⟩

end Mission

end MissionShell
