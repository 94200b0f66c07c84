import MissionShell.Proofs.Session.History
import MissionShell.Proofs.Shell.Coherence

/-!
# The log of a session

A line is echoed behind the prompt that it was typed at and followed by what it prints. A line for the
command that clears leaves an empty log instead, and so does clearing the log from outside; nothing else
takes a line of the log away, or touches one that is there.

* `Shell.Dispatches` : the command that the shell hands a line to;
* `Shell.dispatches_clear_iff`, `Session.clears_iff` : the session and the shell know the same lines as
  lines for the command that clears;
* `Session.shown` : the lines of the log that a typed line adds;
* `Session.log_process_of_clears`, `Session.log_process_of_not_clears` : the log after one line;
* `Session.Action.Wipes`, `Session.added` : what an action takes away from the log, and what it adds;
* `Session.log_performed` : the log after actions that do not wipe it.
-/

namespace MissionShell

/-! ## Lines for the command that clears -/

def Shell.Dispatches (line : String) (c : Command) : Prop :=
  ∃ name arguments, Text.words line = name :: arguments ∧ Command.ofName name = c

theorem Shell.dispatches_iff {line : String} {c : Command} :
    Dispatches line c ↔ (commandWord? line).map Command.ofName = some c := by
  rw [commandWord?, Dispatches]
  cases Text.words line with
  | nil => simp
  | cons name arguments => simp

instance (line : String) (c : Command) : Decidable (Shell.Dispatches line c) :=
  decidable_of_iff _ Shell.dispatches_iff.symm

/-- The session finds the command that the shell hands the line to. -/
theorem Session.clears_iff {line : String} : clears line = true ↔ Shell.Dispatches line .clear := by
  rw [clears, decide_eq_true_eq, Shell.dispatches_iff]

/-- Blanks before the word, its capitals and what stands behind it are of no matter. -/
theorem Shell.dispatches_clear_iff {line : String} :
    Dispatches line .clear ↔
      ∃ name, Text.IsFirstWord name line ∧ Text.lowercase name = "clear" := by
  constructor
  · rintro ⟨name, arguments, hwords, hname⟩
    refine ⟨name, Text.head?_words_eq_some_iff.mp (by rw [hwords, List.head?_cons]), ?_⟩
    exact (Command.ofName_eq_iff (by decide)).mp hname
  · rintro ⟨name, hfirst, hname⟩
    obtain ⟨arguments, hwords⟩ := List.head?_eq_some_iff.mp hfirst.head?_words
    exact ⟨name, arguments, hwords, (Command.ofName_eq_iff (by decide)).mpr hname⟩

theorem Shell.execute_of_dispatches_clear {line : String} (h : Dispatches line .clear)
    (fs : Filesystem) : execute fs line = .ofResult (.ok (.print "")) := by
  obtain ⟨name, arguments, hwords, hname⟩ := h
  rw [execute_of_words hwords]
  simp only [run, hname]

/-- The line that an output makes in the log. No output makes none. -/
def Outcome.lines (r : Outcome) : List LogLine :=
  if r.output = "" then [] else [⟨r.output, if r.success then .output else .error⟩]

namespace Session

/-! ## One line -/

theorem log_remember (s : Session) (line : String) : (s.remember line).log = s.log := by
  simp only [remember]
  split_ifs <;> rfl

theorem prompt_remember (s : Session) (line : String) : (s.remember line).prompt = s.prompt := by
  simp only [remember]
  split_ifs <;> rfl

/-- The lines that a typed line adds to the log: itself behind the prompt in force, and what it prints. -/
def shown (s : Session) (line : String) : List LogLine :=
  ⟨s.prompt ++ " " ++ line, .command⟩ :: (s.process line).1.lines

/-- A line is echoed before it is run, so behind the prompt that it was typed at. -/
theorem log_enter_addLine (s : Session) (line : String) (next : Filesystem) :
    (((s.remember line).addLine ((s.remember line).prompt ++ " " ++ line) .command).enter next).log =
      s.log ++ [⟨s.prompt ++ " " ++ line, .command⟩] := by
  rw [enter, addLine, log_remember, prompt_remember]

theorem log_logOutcome (s : Session) (line : String) (r : Outcome) :
    (s.logOutcome line r).log = if clears line && r.success then [] else s.log ++ r.lines := by
  rw [logOutcome, Outcome.lines]
  by_cases hclears : (clears line && r.success) = true
  · rw [if_pos hclears, if_pos hclears, clearLog]
  · rw [if_neg hclears, if_neg hclears]
    by_cases hsilent : r.output = ""
    · rw [if_pos hsilent, if_pos hsilent, List.append_nil]
    · rw [if_neg hsilent, if_neg hsilent, addLine]

theorem log_process_of_clears (s : Session) {line : String} (h : Shell.Dispatches line .clear) :
    (s.process line).2.log = [] := by
  rw [process_eq, log_logOutcome, Shell.execute_of_dispatches_clear h, clears_iff.mpr h]
  rfl

theorem log_process_of_not_clears (s : Session) {line : String} (h : ¬ Shell.Dispatches line .clear) :
    (s.process line).2.log = s.log ++ s.shown line := by
  have hkept : clears line = false := Bool.eq_false_iff.mpr fun hclears => h (clears_iff.mp hclears)
  rw [process_eq, log_logOutcome, hkept, Bool.false_and, if_neg Bool.false_ne_true, log_enter_addLine,
    List.append_assoc, List.singleton_append, shown, outcome_process]

/-! ## Runs -/

def Action.Wipes : Action → Prop
  | .process line => Shell.Dispatches line .clear
  | .clearLog => True
  | .recallPrevious | .recallNext | .search _ | .addLine _ _ => False

instance : (a : Action) → Decidable a.Wipes
  | .process line => inferInstanceAs (Decidable (Shell.Dispatches line .clear))
  | .clearLog => .isTrue trivial
  | .recallPrevious | .recallNext | .search _ | .addLine _ _ => .isFalse id

/-- The lines that an action adds to the log if it does not empty it. -/
def added (s : Session) : Action → List LogLine
  | .process line => s.shown line
  | .addLine content kind => [⟨content, kind⟩]
  | .recallPrevious | .recallNext | .search _ | .clearLog => []

theorem log_act_of_wipes (s : Session) {a : Action} (h : a.Wipes) : (s.act a).log = [] := by
  cases a with
  | process line => exact s.log_process_of_clears h
  | clearLog => rfl
  | recallPrevious | recallNext | search | addLine => exact h.elim

theorem log_recallNext (s : Session) : s.recallNext.2.log = s.log := by
  unfold recallNext
  split_ifs <;> rfl

theorem log_act_of_not_wipes (s : Session) {a : Action} (h : ¬ a.Wipes) :
    (s.act a).log = s.log ++ s.added a := by
  cases a with
  | process line => exact s.log_process_of_not_clears h
  | addLine content kind => rfl
  | clearLog => exact absurd trivial h
  | recallNext => rw [act, log_recallNext, added, List.append_nil]
  | recallPrevious | search => exact (List.append_nil s.log).symm

/-- The lines that some actions add to the log, each in the session that it is taken in. -/
def allAdded (s : Session) : List Action → List LogLine
  | [] => []
  | a :: actions => s.added a ++ (s.act a).allAdded actions

/-- Behind its old lines the log has those that the actions add, in their order. -/
theorem log_performed {s : Session} {actions : List Action} (h : ∀ a ∈ actions, ¬ a.Wipes) :
    (s.performed actions).log = s.log ++ s.allAdded actions := by
  induction actions generalizing s with
  | nil => exact (List.append_nil s.log).symm
  | cons a actions ih =>
    obtain ⟨ha, hactions⟩ := List.forall_mem_cons.mp h
    calc (s.performed (a :: actions)).log
        = (s.act a).log ++ (s.act a).allAdded actions := ih hactions
      _ = s.log ++ s.allAdded (a :: actions) := by
        rw [s.log_act_of_not_wipes ha, List.append_assoc, allAdded]

structure Logs (s : Session) (line : String) : Prop where
  dispatch : Shell.Dispatches line .clear ↔
    ∃ name, Text.IsFirstWord name line ∧ Text.lowercase name = "clear"
  cleared : Shell.Dispatches line .clear → (s.process line).2.log = []
  appended : ¬ Shell.Dispatches line .clear →
    (s.process line).2.log =
      s.log ++ ⟨s.prompt ++ " " ++ line, .command⟩ :: (s.process line).1.lines

/-- **The log is kept by appending**, in any session whatsoever. A line whose first word is `clear`, in
capitals or not, empties it. Any other line is shown behind the prompt in force before it, and one line
with its output follows iff it has printed something. Actions that do not empty the log leave the lines
that are there at their places, and one that does leaves none. -/
theorem log_exact (s : Session) :
    (∀ line, s.Logs line) ∧ (∀ a : Action, a.Wipes → (s.act a).log = []) ∧
      ∀ actions : List Action, (∀ a ∈ actions, ¬ a.Wipes) →
        s.log <+: (s.performed actions).log := by
  refine ⟨fun line => ⟨Shell.dispatches_clear_iff, s.log_process_of_clears,
    s.log_process_of_not_clears⟩, fun a => s.log_act_of_wipes, fun actions h => ?_⟩
  rw [log_performed h]
  exact List.prefix_append _ _

theorem log_exact_seed :
    ((opened .seed).process "\tCLEAR now").2.log = [] ∧
      ((opened .seed).process "cd nowhere").2.log = (opened .seed).log ++
        [⟨"user@hackbox:~$ cd nowhere", .command⟩,
          ⟨"cd: nowhere: No such file or directory", .error⟩] ∧
      (opened .seed).clearLog.log = [] ∧
      (opened .seed).log <+:
        ((opened .seed).performed [.process "cd nowhere", .recallPrevious, .process "ls"]).log := by
  obtain ⟨hlines, hwiped, hruns⟩ := log_exact (opened .seed)
  refine ⟨(hlines "\tCLEAR now").cleared (by decide), ?_, hwiped .clearLog trivial,
    hruns _ (by decide)⟩
  exact (hlines "cd nowhere").appended (by decide)

end Session

end MissionShell
