import MissionShell.Proofs.Text.Case
import MissionShell.Proofs.Text.Spacing
import MissionShell.Quest.Step

/-!
# Steps that match a line exactly

A step without a check of its own compares the trimmed line with its commands, both lower-cased. So it looks
at no snapshot, its verdict has one opinion throughout, and neither blanks around the line nor the case of
its letters from A to Z change anything.

* `Step.validate_eq` : the verdict looks at no snapshot;
* `Step.matchCommands_congr` : lines that are trimmed and lower-cased alike;
* `Step.Judges` : a verdict that is given for what the line says;
* `Step.judges_exactly` : every verdict of such a step.
-/

namespace MissionShell.Step

structure Judges (s : Step) (line : String) (v : Validation) : Prop where
  given : ∀ fs, s.validate line fs = v
  valid : v.valid = true ↔ ∃ command ∈ s.expected ++ s.alternatives,
    Text.lowercase command = Text.lowercase (Text.trim line)
  advance : v.advance = some v.valid
  advances : v.advances = v.valid
  message : v.message = if v.valid then some s.successMessage else s.errorMessage
  unchanged : ∀ other padded, Text.SameLetters line other → Text.Padded other padded →
    ∀ fs, s.validate padded fs = v

theorem validate_eq {s : Step} (hs : s.check = none) (line : String) (fs : Filesystem) :
    s.validate line fs = s.matchCommands line := by
  rw [validate, hs]

/-- A verdict depends on the line once it is trimmed and lower-cased. -/
theorem matchCommands_congr (s : Step) {line other : String}
    (h : Text.lowercase (Text.trim other) = Text.lowercase (Text.trim line)) :
    s.matchCommands other = s.matchCommands line := by
  rw [matchCommands, accepts, h, matchCommands, accepts]

theorem accepts_iff {s : Step} {line : String} :
    s.accepts line = true ↔ ∃ command ∈ s.expected ++ s.alternatives,
      Text.lowercase command = Text.lowercase (Text.trim line) := by
  simp only [accepts, commands, List.any_eq_true, decide_eq_true_eq]

theorem judges_matchCommands {s : Step} (hs : s.check = none) (line : String) :
    s.Judges line (s.matchCommands line) where
  given := validate_eq hs line
  valid := accepts_iff
  advance := rfl
  advances := Bool.and_self _
  message := rfl
  unchanged := by
    intro other padded hletters hpadded fs
    rw [validate_eq hs]
    apply matchCommands_congr
    rw [hpadded.trim_eq, Text.lowercase_trim_congr hletters]

/-- **Exact matching** by a step without a check of its own: its verdict on each line, and the lines that are
a command of the step as it stands there. -/
theorem judges_exactly {s : Step} (hs : s.check = none) :
    (∀ line, ∃ v, s.Judges line v) ∧
      ∀ command ∈ s.expected ++ s.alternatives, Text.Bare command →
        ∀ line, Text.Padded command line → ∀ fs, (s.validate line fs).advances = true := by
  refine ⟨fun line => ⟨_, judges_matchCommands hs line⟩, ?_⟩
  intro command hmem hbare line hpadded fs
  have hjudges := judges_matchCommands hs line
  rw [hjudges.given, hjudges.advances, hjudges.valid]
  exact ⟨command, hmem, by rw [hpadded.trim_eq, hbare.trim_eq]⟩

/-- A step whose command has a sigma at the end of a word, where its small letter is another one. -/
def street : Step where
  number := 1
  title := "Street"
  expected := ["ΟΔΟΣ -L"]
  successMessage := "There"
  errorMessage := some "Lost"

theorem judges_exactly_street :
    street.check = none ∧ Text.SameLetters "οδος -l" "οδος -L" ∧
      (∀ fs, street.validate "οδος -l" fs = ⟨true, some "There", some true⟩) ∧
      (∀ fs, street.validate "\u00a0οδος -L\n" fs = ⟨true, some "There", some true⟩) ∧
      ∀ fs, (street.validate "\tΟΔΟΣ -L " fs).advances = true := by
  obtain ⟨hjudges, hcommands⟩ := judges_exactly (s := street) rfl
  obtain ⟨⟨valid, message, advance⟩, h⟩ := hjudges "οδος -l"
  have hvalid : valid = true := h.valid.mpr ⟨"ΟΔΟΣ -L", List.mem_cons_self, by decide +kernel⟩
  have hmessage : message = some "There" := h.message.trans (if_pos hvalid)
  have hadvance : advance = some true := h.advance.trans (congrArg some hvalid)
  subst hvalid hmessage hadvance
  have hletters : Text.SameLetters "οδος -l" "οδος -L" := by decide +kernel
  have hpadded : Text.Padded "οδος -L" "\u00a0οδος -L\n" :=
    ⟨"\u00a0", "\n", by decide, by decide, by decide⟩
  have hbare : Text.Bare "ΟΔΟΣ -L" := ⟨by rintro c ⟨⟩; decide, by rintro c ⟨⟩; decide⟩
  exact ⟨rfl, hletters, h.given, h.unchanged _ _ hletters hpadded,
    hcommands _ List.mem_cons_self hbare _ ⟨"\t", " ", by decide, by decide, by decide⟩⟩

end MissionShell.Step
