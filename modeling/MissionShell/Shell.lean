import MissionShell.Listing
import MissionShell.Redirect

/-!
# The shell

A line is split into words; the first names a command and the others are its arguments.

* `Shell.run` : one command on its arguments;
* `Shell.execute` : one line;
* `Shell.next`, `Shell.after` : the snapshot that a line leaves, and that a list of lines leaves.
-/

namespace MissionShell.Shell

def remoteBanner : String :=
  "\n".intercalate ["Connection to remote system established.", "Authentication successful.",
    "Welcome to the target server."]

def changeDirectory (fs : Filesystem) (arguments : List String) : Except CommandError Effect :=
  let target := arguments.head?.getD Path.home.toString
  if fs.hasDirectory (fs.resolve target) then .ok (.become (fs.changeDirectory target))
  else .error (.cannotEnter target)

def showFile (fs : Filesystem) : List String → Except CommandError Effect
  | [] => .error .nothingToShow
  | name :: _ =>
    match fs.file? fs.cwd name with
    | some f => .ok (.print f.content)
    | none => .error (.cannotShow name)

def makeDirectory (fs : Filesystem) : List String → Except CommandError Effect
  | [] => .error .nothingToMake
  | name :: _ =>
    match fs.makeDirectory? name with
    | .ok next => .ok (.become next)
    | .error cause => .error (.cannotMake name cause)

def touchFile (fs : Filesystem) : List String → Except CommandError Effect
  | [] => .error .nothingToTouch
  | name :: _ => .ok (.become (fs.touch name))

def removeFile (fs : Filesystem) : List String → Except CommandError Effect
  | [] => .error .nothingToRemove
  | name :: _ =>
    if (fs.file? fs.cwd name).isSome then .ok (.become (fs.remove name))
    else .error (.cannotRemove name)

/-- Writes the arguments to a file of the working directory if they hold a redirection, and prints
them otherwise. -/
def echo (fs : Filesystem) (arguments : List String) : Effect :=
  let line := " ".intercalate arguments
  match Redirect.parse? line with
  | some r => .become (fs.write r.target r.content)
  | none => .print (String.ofList (stripQuotes line.toList))

def run (fs : Filesystem) (name : String) (arguments : List String) : Except CommandError Effect :=
  match Command.ofName name with
  | .ls => Listing.run fs arguments
  | .pwd => .ok (.print fs.cwd.toString)
  | .cd => changeDirectory fs arguments
  | .cat => showFile fs arguments
  | .mkdir => makeDirectory fs arguments
  | .touch => touchFile fs arguments
  | .echo => .ok (echo fs arguments)
  | .rm => removeFile fs arguments
  | .ssh => .ok (.print remoteBanner)
  | .clear => .ok (.print "")
  | .unknown => .error (.unknownCommand name)

/-- Runs one line. A line of blanks does nothing. -/
def execute (fs : Filesystem) (line : String) : Outcome :=
  match Text.words line with
  | [] => .silent
  | name :: arguments => .ofResult (run fs name arguments)

/-- A line of words is run by them alone. -/
theorem execute_of_words {line name : String} {arguments : List String}
    (h : Text.words line = name :: arguments) (fs : Filesystem) :
    execute fs line = .ofResult (run fs name arguments) := by
  rw [execute, h]

def next (fs : Filesystem) (line : String) : Filesystem := (execute fs line).filesystem.getD fs

def after (fs : Filesystem) (lines : List String) : Filesystem := lines.foldl next fs

def commandWord? (line : String) : Option String := (Text.words line).head?

end MissionShell.Shell
