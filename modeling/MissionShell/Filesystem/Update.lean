import MissionShell.Filesystem.Basic

/-!
# Operations on the filesystem

Each operation takes a snapshot to the next one. Files are made, overwritten and removed in the
working directory, by their exact names; directories are made at any spelling whose parent exists.

* `Filesystem.makeDirectory?` : a new directory, or the reason why there is none;
* `Filesystem.makeDirectory` : the same, where a failure leaves the snapshot as it is;
* `Filesystem.changeDirectory`, `Filesystem.write`, `Filesystem.touch`, `Filesystem.remove`;
* `Filesystem.record` : one more line of history.
-/

namespace MissionShell

inductive MakeDirectoryError where
  | notFound
  | notADirectory
  | alreadyExists
deriving DecidableEq

namespace MakeDirectoryError

def message : MakeDirectoryError → String
  | notFound => "No such file or directory"
  | notADirectory => "Not a directory"
  | alreadyExists => "File exists"

end MakeDirectoryError

namespace Filesystem

/-- Changes the directory `p` by `f`, which keeps its path. -/
def modify (fs : Filesystem) (p : Path) (f : Directory → Directory) : Filesystem :=
  { fs with
    directories := fs.directories.map fun d => if d.path = p then f d else d
    copies := { fs.copies with tree := fs.copies.tree + 1 } }

/-! ## Directories -/

/-- Why the path with the reversed segments `up` is no directory: its nearest ancestor that is one
has a file where the next segment should lead, or it has nothing there. -/
def missingCause (fs : Filesystem) (up : List String) : MakeDirectoryError :=
  match up with
  | [] => .notFound
  | name :: up =>
    match fs.directory? ⟨up.reverse⟩ with
    | some d => if d.hasFile name then .notADirectory else .notFound
    | none => fs.missingCause up

/-- Makes the directory that the spelling leads to, as the last child of its parent. -/
def makeDirectory? (fs : Filesystem) (text : String) : Except MakeDirectoryError Filesystem :=
  let p := fs.resolve text
  if fs.hasDirectory p then .error .alreadyExists
  else match fs.directory? p.parent with
    | none => .error (fs.missingCause p.parent.segments.reverse)
    | some d =>
      let name := p.name?.getD ""
      if d.hasFile name then .error .alreadyExists
      else
        let grown := fs.modify p.parent (·.enroll name)
        .ok { grown with
          directories := grown.directories ++ [Directory.empty p]
          copies := { grown.copies with index := grown.copies.index + 1 } }

def makeDirectory (fs : Filesystem) (text : String) : Filesystem :=
  match fs.makeDirectory? text with
  | .ok next => next
  | .error _ => fs

def changeDirectory (fs : Filesystem) (text : String) : Filesystem :=
  let p := fs.resolve text
  if fs.hasDirectory p then { fs with cwd := p } else fs

/-! ## Files of the working directory -/

/-- Puts `f` in the place of the file of its name, or makes it the last child. -/
def put (fs : Filesystem) (f : File) : Filesystem :=
  if fs.hasDirectory fs.cwd then fs.modify fs.cwd (·.put f) else fs

def write (fs : Filesystem) (name content : String) : Filesystem :=
  fs.put (((fs.file? fs.cwd name).map (·.withContent content)).getD ⟨name, content⟩)

/-- Puts an empty file called `name` in the place of any other one. -/
def touch (fs : Filesystem) (name : String) : Filesystem := fs.put ⟨name, ""⟩

def remove (fs : Filesystem) (name : String) : Filesystem :=
  if (fs.file? fs.cwd name).isSome then fs.modify fs.cwd (·.remove name) else fs

/-! ## History -/

def record (fs : Filesystem) (entry : String) : Filesystem :=
  { fs with
    history := fs.history ++ [entry]
    copies := { fs.copies with history := fs.copies.history + 1 } }

end Filesystem

end MissionShell
