import MissionShell.Server.View
import Mathlib.Data.List.Forall2

/-!
# What clients read

The members of the two bodies that tell of a session, said of the playthrough that they show.

* `Json.names`, `Json.member?` : the members of an object;
* `Json.ShowsSession`, `Json.ShowsTurn` : an object shows a session, or what a line did in one;
* `Engine.showsSession_view`, `Engine.showsTurn_answer` : the bodies do so.
-/

namespace MissionShell

namespace Json

/-! ## Members -/

def members : Json → List (String × Json)
  | object members => members
  | _ => []

def names (j : Json) : List String := j.members.map Prod.fst

def member? (j : Json) (name : String) : Option Json := j.members.lookup name

/-! ## Parts -/

def kindNames : List (LineKind × String) :=
  [(.command, "command"), (.output, "output"), (.error, "error"), (.success, "success"),
    (.prompt, "prompt")]

structure ShowsLine (j : Json) (l : LogLine) : Prop where
  names : j.names = ["content", "kind"]
  content : j.member? "content" = some (.string l.content)
  kind : ∃ text, (l.kind, text) ∈ kindNames ∧ j.member? "kind" = some (.string text)

structure ShowsStep (j : Json) (s : Step) : Prop where
  names : j.names = ["id", "number", "title", "description"]
  id : j.member? "id" = some (.string s.id)
  number : j.member? "number" = some (.number s.number)
  title : j.member? "title" = some (.string s.title)
  description : j.member? "description" = some (.string s.description)

structure ShowsProgress (j : Json) (p : Progress) : Prop where
  names : j.names = ["completed", "total", "percentage"]
  completed : j.member? "completed" = some (.number p.completed)
  total : j.member? "total" = some (.number p.total)
  percentage : j.member? "percentage" = some (.number p.percentage)

/-- There is an `error` if the command failed with one. -/
structure ShowsOutcome (j : Json) (r : Outcome) : Prop where
  names : j.names.Sublist ["output", "success", "error", "filesystem_changed"]
  output : j.member? "output" = some (.string r.output)
  success : j.member? "success" = some (.bool r.success)
  error : j.member? "error" = r.error.map .string
  changed : j.member? "filesystem_changed" = some (.bool r.filesystemChanged)

structure ShowsValidation (j : Json) (v : Validation) : Prop where
  names : j.names.Sublist ["is_valid", "message", "should_advance"]
  valid : j.member? "is_valid" = some (.bool v.valid)
  message : j.member? "message" = v.message.map .string
  advance : j.member? "should_advance" = v.advance.map .bool

/-! ## Bodies -/

structure ShowsSession (j : Json) (id : Uuid) (p : Playthrough) : Prop where
  names : j.names = ["session_id", "quest_id", "quest_title", "welcome_message", "state", "step",
    "progress", "prompt", "output"]
  session : j.member? "session_id" = some (.string id.toString)
  quest : j.member? "quest_id" = some (.string p.quest.id)
  title : j.member? "quest_title" = some (.string p.quest.title)
  welcome : j.member? "welcome_message" = some (.string p.quest.welcomeMessage)
  state : j.member? "state" =
    some (.string (if p.quest.completed then "completed" else "in_progress"))
  step : ∀ s, p.quest.currentStep? = some s →
    ∃ shown, j.member? "step" = some shown ∧ shown.ShowsStep s
  finished : p.quest.currentStep? = none → j.member? "step" = some .null
  progress : ∃ shown, j.member? "progress" = some shown ∧ shown.ShowsProgress p.quest.progress
  prompt : j.member? "prompt" = some (.string p.session.prompt)
  output : ∃ shown, j.member? "output" = some (.array shown) ∧
    List.Forall₂ ShowsLine shown p.session.log

/-- The object shows what a line did, and the progress and the prompt of `p` after it. -/
structure ShowsTurn (j : Json) (s : Submission) (p : Playthrough) : Prop where
  names : j.names = ["command_result", "validation", "step_completed", "quest_completed", "progress",
    "prompt"]
  outcome : ∃ shown, j.member? "command_result" = some shown ∧ shown.ShowsOutcome s.outcome
  validation : ∃ shown, j.member? "validation" = some shown ∧ shown.ShowsValidation s.validation
  stepCompleted : j.member? "step_completed" = some (.bool s.stepCompleted)
  questCompleted : j.member? "quest_completed" = some (.bool s.questCompleted)
  progress : ∃ shown, j.member? "progress" = some shown ∧ shown.ShowsProgress p.quest.progress
  prompt : j.member? "prompt" = some (.string p.session.prompt)

end Json

theorem LogLine.shows_toJson (l : LogLine) : l.toJson.ShowsLine l where
  names := rfl
  content := rfl
  kind := by
    refine ⟨l.kind.name, ?_, rfl⟩
    cases l.kind <;> decide

theorem Step.shows_outline (s : Step) : s.outline.ShowsStep s := ⟨rfl, rfl, rfl, rfl, rfl⟩

theorem Progress.shows_toJson (p : Progress) : p.toJson.ShowsProgress p := ⟨rfl, rfl, rfl, rfl⟩

theorem Outcome.shows_toJson (r : Outcome) : r.toJson.ShowsOutcome r := by
  obtain ⟨output, error, filesystem⟩ := r
  cases error with
  | none =>
    have hnames : List.Sublist ["output", "success", "filesystem_changed"]
        ["output", "success", "error", "filesystem_changed"] := by decide
    exact ⟨hnames, rfl, rfl, rfl, rfl⟩
  | some error => exact ⟨List.Sublist.refl _, rfl, rfl, rfl, rfl⟩

theorem Validation.shows_toJson (v : Validation) : v.toJson.ShowsValidation v := by
  obtain ⟨valid, message, advance⟩ := v
  cases message <;> cases advance <;>
    exact ⟨by simp [toJson, Json.optional, Json.names, Json.members], rfl, rfl, rfl⟩

theorem Engine.showsSession_view {e : Engine} {p : Playthrough} (hp : e.playthrough = some p)
    (id : Uuid) : (e.view id).ShowsSession id p := by
  obtain ⟨_⟩ := e
  cases hp
  have hstate : (Engine.view ⟨some p⟩ id).member? "state" =
      some (.string (if p.quest.completed then QuestState.completed else .inProgress).name) := rfl
  have hstep : (Engine.view ⟨some p⟩ id).member? "step" =
      some ((p.quest.currentStep?.map Step.outline).getD .null) := rfl
  have houtput : (Engine.view ⟨some p⟩ id).member? "output" =
      some (.array (p.session.log.map LogLine.toJson)) := rfl
  refine ⟨rfl, rfl, rfl, rfl, rfl, ?_, ?_, ?_, ⟨_, rfl, p.quest.progress.shows_toJson⟩, rfl,
    _, houtput, ?_⟩
  · rw [hstate]
    cases p.quest.completed <;> rfl
  · intro s hs
    rw [hstep, hs]
    exact ⟨s.outline, rfl, s.shows_outline⟩
  · intro hnone
    rw [hstep, hnone]
    rfl
  · rw [List.forall₂_map_left_iff, List.forall₂_same]
    exact fun l _ => l.shows_toJson

theorem Engine.showsTurn_answer {e : Engine} {p : Playthrough} (hp : e.playthrough = some p)
    (s : Submission) : (e.answer s).ShowsTurn s p := by
  obtain ⟨_⟩ := e
  cases hp
  exact ⟨rfl, ⟨_, rfl, s.outcome.shows_toJson⟩, ⟨_, rfl, s.validation.shows_toJson⟩, rfl, rfl,
    ⟨_, rfl, p.quest.progress.shows_toJson⟩, rfl⟩

end MissionShell
