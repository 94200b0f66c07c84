import MissionShell.Json.Value
import MissionShell.Net.Uuid
import MissionShell.Quest.Engine

/-!
# Views

What clients are shown of each kind of value, as JSON.
-/

namespace MissionShell

def LineKind.name : LineKind → String
  | command => "command"
  | output => "output"
  | error => "error"
  | success => "success"
  | prompt => "prompt"

def LogLine.toJson (l : LogLine) : Json :=
  .object [("content", .string l.content), ("kind", .string l.kind.name)]

def QuestState.name : QuestState → String
  | notStarted => "not_started"
  | inProgress => "in_progress"
  | completed => "completed"

def Progress.toJson (p : Progress) : Json :=
  .object [("completed", .number p.completed), ("total", .number p.total),
    ("percentage", .number p.percentage)]

/-- The snapshot is not shown, only whether there is one. -/
def Outcome.toJson (r : Outcome) : Json :=
  .object ([("output", .string r.output), ("success", .bool r.success)] ++
    Json.optional "error" (r.error.map .string) ++
    [("filesystem_changed", .bool r.filesystemChanged)])

def Validation.toJson (v : Validation) : Json :=
  .object ([("is_valid", .bool v.valid)] ++ Json.optional "message" (v.message.map .string) ++
    Json.optional "should_advance" (v.advance.map .bool))

/-- The check of a step is not shown. -/
def Step.toJson (s : Step) : Json :=
  .object ([("id", .string s.id), ("number", .number s.number), ("title", .string s.title),
    ("description", .string s.description), ("expected_commands", .strings s.expected),
    ("alternative_commands", .strings s.alternatives), ("completed", .bool s.completed),
    ("success_message", .string s.successMessage)] ++
    Json.optional "error_message" (s.errorMessage.map .string))

/-- The first snapshot of a quest is not shown. -/
def Quest.toJson (q : Quest) : Json :=
  .object [("id", .string q.id), ("title", .string q.title),
    ("description", .string q.description), ("steps", .array (q.steps.map Step.toJson)),
    ("current_step_index", .number q.cursor), ("completed", .bool q.completed),
    ("welcome_message", .string q.welcomeMessage),
    ("completion_message", .string q.completionMessage)]

def Submission.members (s : Submission) : List (String × Json) :=
  [("command_result", s.outcome.toJson), ("validation", s.validation.toJson),
    ("step_completed", .bool s.stepCompleted), ("quest_completed", .bool s.questCompleted)]

def Submission.toJson (s : Submission) : Json := .object s.members

def QuestError.toJson (e : QuestError) : Json := .object [("error", .string e.message)]

/-! ## Sessions -/

/-- The step of a session, without what would give it away. -/
def Step.outline (s : Step) : Json :=
  .object [("id", .string s.id), ("number", .number s.number), ("title", .string s.title),
    ("description", .string s.description)]

def Engine.prompt (e : Engine) : String := (e.session?.map Session.prompt).getD ""

def Engine.view (e : Engine) (id : Uuid) : Json :=
  .object [("session_id", .string id.toString),
    ("quest_id", .string ((e.quest?.map (·.id)).getD "")),
    ("quest_title", .string e.questTitle),
    ("welcome_message", .string ((e.quest?.map (·.welcomeMessage)).getD "")),
    ("state", .string e.state.name),
    ("step", (e.currentStep?.map Step.outline).getD .null),
    ("progress", e.progress.toJson),
    ("prompt", .string e.prompt),
    ("output", .array ((e.session?.map fun s => s.log.map LogLine.toJson).getD []))]

def Engine.answer (e : Engine) (s : Submission) : Json :=
  .object (s.members ++ [("progress", e.progress.toJson), ("prompt", .string e.prompt)])

end MissionShell
