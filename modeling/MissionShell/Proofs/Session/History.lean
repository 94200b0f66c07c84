import MissionShell.Proofs.Session
import Mathlib.Data.List.Destutter
import Mathlib.Data.List.Induction

/-!
# The history of a session

A session enters the lines that it takes into two histories, its own and that of its snapshot, while
commands exchange the snapshot. The two never drift apart, whatever else is done in between.

* `Session.Action`, `Session.act`, `Session.performed` : what can be done in a session, and a session
  after some of it;
* `Session.recorded` : the lines that a history keeps of those that were typed;
* `Session.exists_process_eq` : what one line makes of a session;
* `Session.Keeps`, `Session.Keeps.act` : what a session has kept of the lines, before and after an action;
* `Session.keeps_performed` : what it has kept after any actions.
-/

namespace MissionShell.Session

/-! ## Actions -/

inductive Action where
  | process (line : String)
  | recallPrevious
  | recallNext
  | search (text : String)
  | clearLog
  | addLine (content : String) (kind : LineKind)
deriving DecidableEq

def Action.line? : Action → Option String
  | process line => some line
  | recallPrevious | recallNext | search _ | clearLog | addLine _ _ => none

/-- The session after an action. A search only answers. -/
def act (s : Session) : Action → Session
  | .process line => (s.process line).2
  | .recallPrevious => s.recallPrevious.2
  | .recallNext => s.recallNext.2
  | .search _ => s
  | .clearLog => s.clearLog
  | .addLine content kind => s.addLine content kind

def performed (s : Session) (actions : List Action) : Session := actions.foldl act s

theorem performed_append_singleton (s : Session) (actions : List Action) (a : Action) :
    s.performed (actions ++ [a]) = (s.performed actions).act a := by
  simp [performed]

/-! ## What a history keeps -/

/-- The lines that are not blank, where one that is typed again and again counts once. -/
def recorded (lines : List String) : List String :=
  (lines.filter (Text.trim · ≠ "")).destutter (· ≠ ·)

theorem destutter'_concat (x : String) (lines : List String) (line : String) :
    (lines ++ [line]).destutter' (· ≠ ·) x =
      if (lines.destutter' (· ≠ ·) x).getLast? = some line then lines.destutter' (· ≠ ·) x
      else lines.destutter' (· ≠ ·) x ++ [line] := by
  induction lines generalizing x with
  | nil =>
    by_cases h : x = line
    · simp [h]
    · simp [h]
  | cons y lines ih =>
    by_cases h : x = y
    · rw [List.cons_append, List.destutter'_cons_neg _ (by simpa using h),
        List.destutter'_cons_neg _ (by simpa using h)]
      exact ih x
    · have hne := List.destutter'_ne_nil lines (· ≠ ·) (a := y)
      have hlast : (x :: lines.destutter' (· ≠ ·) y).getLast? =
          (lines.destutter' (· ≠ ·) y).getLast? := by
        rw [List.getLast?_cons, List.getLast?_eq_some_getLast hne]
        rfl
      rw [List.cons_append, List.destutter'_cons_pos _ h, List.destutter'_cons_pos _ h, ih, hlast]
      split_ifs <;> rfl

/-- Another line is kept unless it is blank or the last that was kept. -/
theorem recorded_append_singleton (lines : List String) (line : String) :
    recorded (lines ++ [line]) =
      if Text.trim line = "" ∨ (recorded lines).getLast? = some line then recorded lines
      else recorded lines ++ [line] := by
  unfold recorded
  rw [List.filter_append]
  by_cases hblank : Text.trim line = ""
  · simp [hblank]
  · have hkept : [line].filter (Text.trim · ≠ "") = [line] := by simp [hblank]
    rw [hkept]
    cases hlines : lines.filter (Text.trim · ≠ "") with
    | nil => simp [hblank]
    | cons x rest =>
      rw [List.cons_append, List.destutter_cons', List.destutter_cons', destutter'_concat]
      simp only [hblank, false_or]

/-! ## One line -/

theorem exists_logOutcome_eq (s : Session) (line : String) (r : Outcome) :
    ∃ log, s.logOutcome line r = { s with log := log } := by
  unfold logOutcome
  split_ifs
  · exact ⟨[], rfl⟩
  · exact ⟨s.log, rfl⟩
  · exact ⟨_, rfl⟩
  · exact ⟨_, rfl⟩

theorem process_eq (s : Session) (line : String) :
    (s.process line).2 =
      (((s.remember line).addLine ((s.remember line).prompt ++ " " ++ line) .command).enter
        (Shell.next (s.remember line).filesystem line)).logOutcome line
          (Shell.execute (s.remember line).filesystem line) := by
  simp only [process, filesystem_addLine, Shell.next]

/-- A line is remembered and then the snapshot exchanged for the one that it leaves. -/
theorem exists_process_eq (s : Session) (line : String) :
    ∃ log, (s.process line).2 =
      { (s.remember line).enter (Shell.next (s.remember line).filesystem line) with log := log } := by
  rw [process_eq]
  generalize Shell.next (s.remember line).filesystem line = next
  obtain ⟨log, hlog⟩ := exists_logOutcome_eq
    (((s.remember line).addLine ((s.remember line).prompt ++ " " ++ line) .command).enter next) line
    (Shell.execute (s.remember line).filesystem line)
  refine ⟨log, ?_⟩
  rw [hlog]
  simp only [enter, addLine]

theorem history_process (s : Session) (line : String) :
    (s.process line).2.history = (s.remember line).history := by
  obtain ⟨log, hprocess⟩ := s.exists_process_eq line
  rw [hprocess, enter]

/-- The prompt is that of the snapshot that the line leaves. -/
theorem prompt_process (s : Session) (line : String) :
    (s.process line).2.prompt = promptFor (s.process line).2.filesystem.cwd.toString := by
  obtain ⟨log, hprocess⟩ := s.exists_process_eq line
  rw [hprocess, enter]

theorem cursor_remember (s : Session) (line : String) :
    (s.remember line).cursor = (s.remember line).history.length := by
  simp only [remember]

/-- The cursor stands behind the newest entry. -/
theorem cursor_process (s : Session) (line : String) :
    (s.process line).2.cursor = (s.process line).2.history.length := by
  obtain ⟨log, hprocess⟩ := s.exists_process_eq line
  have hcursor : (s.process line).2.cursor = (s.remember line).cursor := by rw [hprocess, enter]
  rw [hcursor, cursor_remember, history_process]

theorem history_remember (s : Session) (line : String) :
    (s.remember line).history =
      if Text.trim line = "" ∨ s.history.getLast? = some line then s.history
      else s.history ++ [line] := by
  simp only [remember, Bool.or_eq_true, decide_eq_true_eq]
  split_ifs <;> rfl

/-- The two histories grow together. -/
theorem filesystem_history_remember {s : Session} {past : List String}
    (h : s.filesystem.history = past ++ s.history) (line : String) :
    (s.remember line).filesystem.history = past ++ (s.remember line).history := by
  simp only [remember]
  split_ifs
  · exact h
  · rw [Filesystem.record, h, List.append_assoc]

/-! ## Runs -/

/-- What a session that was opened on `fs` has kept of the lines that were typed. -/
structure Keeps (fs : Filesystem) (lines : List String) (s : Session) : Prop where
  history : s.history = recorded lines
  snapshot : s.filesystem.history = fs.history ++ s.history
  cursor : s.cursor ≤ s.history.length
  prompt : s.prompt = promptFor s.filesystem.cwd.toString

namespace Keeps
variable {fs : Filesystem} {lines : List String} {s : Session}

theorem opened (fs : Filesystem) : Keeps fs [] (opened fs) :=
  ⟨rfl, (List.append_nil _).symm, Nat.le_refl 0, rfl⟩

theorem process (h : Keeps fs lines s) (line : String) :
    Keeps fs (lines ++ [line]) (s.process line).2 := by
  refine ⟨?_, ?_, (s.cursor_process line).le, s.prompt_process line⟩
  · rw [history_process, recorded_append_singleton, ← h.history]
    exact s.history_remember line
  · rw [filesystem_process, history_process, Shell.history_next]
    exact filesystem_history_remember h.snapshot line

theorem recallPrevious (h : Keeps fs lines s) : Keeps fs lines s.recallPrevious.2 :=
  ⟨h.history, h.snapshot, (Nat.sub_le s.cursor 1).trans h.cursor, h.prompt⟩

theorem recallNext (h : Keeps fs lines s) : Keeps fs lines s.recallNext.2 := by
  unfold Session.recallNext
  split_ifs with hnext
  · exact ⟨h.history, h.snapshot, hnext.le, h.prompt⟩
  · exact ⟨h.history, h.snapshot, Nat.le_refl _, h.prompt⟩

/-- Lines of the log are of no matter to the histories. -/
theorem act (h : Keeps fs lines s) (a : Action) :
    Keeps fs (lines ++ a.line?.toList) (s.act a) := by
  cases a with
  | process line => exact h.process line
  | recallPrevious =>
    rw [Action.line?, Option.toList_none, List.append_nil]
    exact h.recallPrevious
  | recallNext =>
    rw [Action.line?, Option.toList_none, List.append_nil]
    exact h.recallNext
  | search | clearLog | addLine =>
    rw [Action.line?, Option.toList_none, List.append_nil]
    exact ⟨h.history, h.snapshot, h.cursor, h.prompt⟩

end Keeps

/-- **The two histories keep the same lines**, in a session from any snapshot and after any actions: the
lines that were typed without the blank ones and without immediate repetitions. The cursor never leaves
them and stands behind them after every line, and the prompt shows where the session stands. -/
theorem keeps_performed (fs : Filesystem) (actions : List Action) :
    Keeps fs (actions.filterMap Action.line?) ((opened fs).performed actions) ∧
      ∀ line, ((opened fs).performed (actions ++ [.process line])).cursor =
        ((opened fs).performed (actions ++ [.process line])).history.length := by
  constructor
  · induction actions using List.reverseRecOn with
    | nil => exact .opened fs
    | append_singleton actions a ih =>
      have hlines : (actions ++ [a]).filterMap Action.line? =
          actions.filterMap Action.line? ++ a.line?.toList := by
        rw [List.filterMap_append]
        cases h : a.line? <;> simp [h]
      rw [performed_append_singleton, hlines]
      exact ih.act a
  · intro line
    rw [performed_append_singleton]
    exact cursor_process _ line

/-- Blank lines do not stand between repetitions, and other lines do. -/
example : recorded ["ls", "ls", "  ", "ls", "pwd", "ls"] = ["ls", "pwd", "ls"] := by decide

end MissionShell.Session
