import MissionShell.Quest.Mission
import MissionShell.Session

/-!
# The quest engine

An engine plays one quest in one session. A submitted line runs in the session and is then judged by
the step under the cursor, on the snapshot that the line left; a line completes at most one step.

* `Playthrough` : a quest together with the session it is played in;
* `Playthrough.submit`, `Playthrough.check`, `Playthrough.restart` : a line that is played, a line
  that is only judged, and a new start;
* `Engine` : a playthrough or none, with the same operations.
-/

namespace MissionShell

structure Submission where
  outcome : Outcome
  validation : Validation
  stepCompleted : Bool
  questCompleted : Bool

inductive QuestState where
  | notStarted
  | inProgress
  | completed
deriving DecidableEq

structure Playthrough where
  quest : Quest
  session : Session

namespace Playthrough

/-- A session on the first snapshot of the quest, with the quest's welcome in its log. -/
def openSession (q : Quest) : Session :=
  let s := Session.opened q.initial
  if q.welcomeMessage = "" then s else s.addLine q.welcomeMessage .success

def start (q : Quest) : Playthrough := ⟨q, openSession q⟩

/-- The step that lines are judged by: the one under the cursor, unless it is completed. -/
def openStep? (q : Quest) : Option Step := q.currentStep?.filter (!·.completed)

def noStepMessage : String := "No active step"

def judge (q : Quest) (line : String) (fs : Filesystem) : Validation :=
  match openStep? q with
  | some step => step.validate line fs
  | none => .inert noStepMessage

def check (p : Playthrough) (line : String) : Validation :=
  judge p.quest line p.session.filesystem

/-- Completes the step under the cursor and reports it in the log, and the quest too if that was
its last step. -/
def advance (p : Playthrough) (step : Step) (v : Validation) : Playthrough :=
  let s := p.session.addLine (v.message.getD step.successMessage) .success
  ⟨p.quest.completeStep,
    if p.quest.endsWithStep then s.addLine p.quest.completionMessage .success else s⟩

/-- Runs the line in the session and judges it; if the verdict says so the quest advances. -/
def submit (p : Playthrough) (line : String) : Submission × Playthrough :=
  let (outcome, session) := p.session.process line
  let v := judge p.quest line session.filesystem
  let played : Playthrough := ⟨p.quest, session⟩
  match (openStep? p.quest).filter fun _ => v.advances with
  | some step => (⟨outcome, v, true, p.quest.endsWithStep⟩, played.advance step v)
  | none => (⟨outcome, v, false, false⟩, played)

def restart (p : Playthrough) : Playthrough := start p.quest.reset

end Playthrough

structure Engine where
  playthrough : Option Playthrough := none

namespace Engine

def new : Engine := {}

def noQuestMessage : String := "No active quest"

/-- Plays `q` from its beginning, in place of whatever was played. -/
def load (_ : Engine) (q : Quest) : Engine := ⟨some (.start q)⟩

def startQuest (e : Engine) (id : Option String) : Except QuestError Engine :=
  (Mission.find id).map e.load

def start (id : Option String) : Except QuestError Engine := new.startQuest id

def check (e : Engine) (line : String) : Validation :=
  match e.playthrough with
  | some p => p.check line
  | none => .inert noQuestMessage

def refusal : Submission where
  outcome := (Outcome.silent.withOutput "No active quest session").withError noQuestMessage
  validation := .inert noQuestMessage
  stepCompleted := false
  questCompleted := false

def submit (e : Engine) (line : String) : Submission × Engine :=
  match e.playthrough with
  | some p => let (answer, p) := p.submit line; (answer, ⟨some p⟩)
  | none => (refusal, e)

def reset (e : Engine) : Engine := ⟨e.playthrough.map Playthrough.restart⟩

/-! ## What can be asked of an engine -/

def quest? (e : Engine) : Option Quest := e.playthrough.map (·.quest)

def session? (e : Engine) : Option Session := e.playthrough.map (·.session)

def currentStep? (e : Engine) : Option Step := e.quest?.bind Quest.currentStep?

def active (e : Engine) : Bool := e.playthrough.isSome

def completed (e : Engine) : Bool := e.quest?.any (·.completed)

def state (e : Engine) : QuestState :=
  match e.quest? with
  | none => .notStarted
  | some q => if q.completed then .completed else .inProgress

def progress (e : Engine) : Progress := (e.quest?.map Quest.progress).getD ⟨0, 0⟩

def questTitle (e : Engine) : String := (e.quest?.map (·.title)).getD ""

def stepTitle (e : Engine) : String := (e.currentStep?.map (·.title)).getD ""

def stepDescription (e : Engine) : String := (e.currentStep?.map (·.description)).getD ""

/-- Whether the session still stands on the very snapshot that the quest starts from. -/
def onInitial? (e : Engine) : Option Bool :=
  e.playthrough.map fun p => p.session.filesystem.sameSnapshot p.quest.initial

end Engine

end MissionShell
