import MissionShell.Filesystem.Update
import MissionShell.Text.Case

/-!
# Commands and their outcomes

* `Command.ofName` : the command that a typed word names, whatever its case;
* `CommandError` : why a command fails, with the text it prints and a short description;
* `Effect` : what a command does when it succeeds;
* `Outcome` : what the user is told, together with the next snapshot if there is one.
-/

namespace MissionShell

inductive Command where
  | ls
  | pwd
  | cd
  | cat
  | mkdir
  | touch
  | echo
  | rm
  | ssh
  | clear
  | unknown
deriving DecidableEq

def Command.ofName (name : String) : Command :=
  match Text.lowercase name with
  | "ls" => ls
  | "pwd" => pwd
  | "cd" => cd
  | "cat" => cat
  | "mkdir" => mkdir
  | "touch" => touch
  | "echo" => echo
  | "rm" => rm
  | "ssh" => ssh
  | "clear" => clear
  | _ => unknown

/-! ## Failures -/

inductive CommandError where
  | cannotList (target : String)
  | cannotEnter (target : String)
  | nothingToShow
  | cannotShow (name : String)
  | nothingToMake
  | cannotMake (name : String) (cause : MakeDirectoryError)
  | nothingToTouch
  | nothingToRemove
  | cannotRemove (name : String)
  | unknownCommand (name : String)
deriving DecidableEq

namespace CommandError

def report : CommandError → String
  | cannotList target => "ls: cannot access '" ++ target ++ "': No such file or directory"
  | cannotEnter target => "cd: " ++ target ++ ": No such file or directory"
  | nothingToShow => "cat: missing file operand"
  | cannotShow name => "cat: " ++ name ++ ": No such file or directory"
  | nothingToMake => "mkdir: missing operand"
  | cannotMake name cause => "mkdir: cannot create directory '" ++ name ++ "': " ++ cause.message
  | nothingToTouch => "touch: missing file operand"
  | nothingToRemove => "rm: missing operand"
  | cannotRemove name => "rm: cannot remove '" ++ name ++ "': No such file or directory"
  | unknownCommand name => name ++ ": command not found"

def summary : CommandError → String
  | cannotList _ => "Directory not found"
  | cannotEnter _ => "Directory not found"
  | nothingToShow => "Missing filename"
  | cannotShow _ => "File not found"
  | nothingToMake => "Missing directory name"
  | cannotMake _ .alreadyExists => "Directory already exists"
  | cannotMake _ _ => "Parent directory not found"
  | nothingToTouch => "Missing filename"
  | nothingToRemove => "Missing filename"
  | cannotRemove _ => "File not found"
  | unknownCommand _ => "Unknown command"

end CommandError

/-! ## Effects and outcomes -/

/-- A command that succeeds prints a text or leaves a new snapshot, never both. -/
inductive Effect where
  | print (text : String)
  | become (fs : Filesystem)

/-- What is told of a command: its output, a short description if it failed, and the snapshot that
it leaves if it changed anything. -/
structure Outcome where
  output : String := ""
  error : Option String := none
  filesystem : Option Filesystem := none

namespace Outcome

def silent : Outcome := {}

def withOutput (r : Outcome) (text : String) : Outcome := { r with output := text }

def withError (r : Outcome) (description : String) : Outcome := { r with error := some description }

def withFilesystem (r : Outcome) (fs : Filesystem) : Outcome := { r with filesystem := some fs }

def success (r : Outcome) : Bool := r.error.isNone

def filesystemChanged (r : Outcome) : Bool := r.filesystem.isSome

def ofResult : Except CommandError Effect → Outcome
  | .ok (.print text) => silent.withOutput text
  | .ok (.become fs) => silent.withFilesystem fs
  | .error e => (silent.withOutput e.report).withError e.summary

end Outcome

end MissionShell
