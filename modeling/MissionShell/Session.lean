import MissionShell.Shell

/-!
# Terminal sessions

A session is one user at the shell: the lines typed so far with a cursor for recalling them, the
log of what was shown, and the snapshot in force.

* `promptFor` : the prompt of a working directory;
* `Session.opened` : a session as it begins;
* `Session.enter` : the session goes on with another snapshot;
* `Session.process` : one line typed;
* `Session.recallPrevious`, `Session.recallNext`, `Session.search` : the history.
-/

namespace MissionShell

inductive LineKind where
  | command
  | output
  | error
  | success
  | prompt
deriving DecidableEq

structure LogLine where
  content : String
  kind : LineKind
deriving DecidableEq

/-- The prompt of the working directory spelled `cwd`; home is shown as `~`. -/
def promptFor (cwd : String) : String :=
  "user@hackbox:" ++ (if cwd = Path.home.toString then "~" else cwd) ++ "$"

/-- `prompt` is shown before the next line; `cursor` is the place in the history that was recalled
last, or its length. -/
structure Session where
  prompt : String
  history : List String
  cursor : Nat
  log : List LogLine
  filesystem : Filesystem

namespace Session

def connected (_ : Session) : Bool := true

/-! ## The log -/

def addLine (s : Session) (content : String) (kind : LineKind) : Session :=
  { s with log := s.log ++ [⟨content, kind⟩] }

def clearLog (s : Session) : Session := { s with log := [] }

def opened (fs : Filesystem) : Session :=
  let blank : Session := ⟨promptFor fs.cwd.toString, [], 0, [], fs⟩
  (blank.addLine "Welcome to the secure system. Connection established." .success).addLine
    "Type commands to navigate and complete your mission." .output

/-! ## Typing a line -/

/-- Enters a line into the history of the session and of its snapshot, unless it is blank or
repeats the last one, and puts the cursor behind the newest entry. -/
def remember (s : Session) (line : String) : Session :=
  let recorded : Session :=
    if Text.trim line = "" || s.history.getLast? = some line then s
    else { s with history := s.history ++ [line], filesystem := s.filesystem.record line }
  { recorded with cursor := recorded.history.length }

def clears (line : String) : Bool :=
  ((Shell.commandWord? line).map Command.ofName) = some .clear

def logOutcome (s : Session) (line : String) (r : Outcome) : Session :=
  if clears line && r.success then s.clearLog
  else if r.output = "" then s
  else s.addLine r.output (if r.success then .output else .error)

def enter (s : Session) (fs : Filesystem) : Session :=
  { s with filesystem := fs, prompt := promptFor fs.cwd.toString }

/-- Takes one line: it is remembered, echoed behind the prompt and run, and its output is shown. -/
def process (s : Session) (line : String) : Outcome × Session :=
  let s := s.remember line
  let s := s.addLine (s.prompt ++ " " ++ line) .command
  let r := Shell.execute s.filesystem line
  (r, (s.enter (r.filesystem.getD s.filesystem)).logOutcome line r)

/-! ## History -/

/-- Moves one entry back, stopping at the oldest, and returns the entry there. -/
def recallPrevious (s : Session) : Option String × Session :=
  (s.history[s.cursor - 1]?, { s with cursor := s.cursor - 1 })

/-- Moves one entry on and returns the entry there; behind the newest there is none. -/
def recallNext (s : Session) : Option String × Session :=
  if s.cursor + 1 < s.history.length then
    (s.history[s.cursor + 1]?, { s with cursor := s.cursor + 1 })
  else (none, { s with cursor := s.history.length })

def search (s : Session) (text : String) : List String :=
  s.history.filter fun entry => text.toList.isPrefixOf entry.toList

end Session

end MissionShell
