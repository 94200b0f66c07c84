import MissionShell.File
import MissionShell.Path

/-!
# Directories

A directory is its path and its children in the order in which they were made.

* `Directory.files`, `Directory.subdirectories` : the two kinds of children;
* `Directory.file?` : a file by its name;
* `Directory.put`, `Directory.remove`, `Directory.enroll` : the three changes to the children;
* `Directory.list` : the sorted entry names of a listing.
-/

namespace MissionShell

/-- A child of a directory. A subdirectory is kept elsewhere, under its own path. -/
inductive Entry where
  | directory (name : String)
  | file (f : File)
deriving DecidableEq

namespace Entry

def directoryName? : Entry → Option String
  | directory name => some name
  | file _ => none

def file? : Entry → Option File
  | directory _ => none
  | file f => some f

def isFile (name : String) : Entry → Bool
  | directory _ => false
  | file f => f.name = name

end Entry

/-- Directories are kept by their paths: the name of one and the directory that holds it are read off its
path and not stored with it. -/
structure Directory where
  path : Path
  entries : List Entry
deriving DecidableEq

namespace Directory

def empty (path : Path) : Directory := ⟨path, []⟩

/-- The last segment of the path, and `/` for the root. -/
def name (d : Directory) : String := d.path.name?.getD "/"

/-- The directory that holds this one is the one a segment up; the root is held by none. -/
def parentPath? (d : Directory) : Option Path :=
  if d.path = Path.root then none else some d.path.parent

def files (d : Directory) : List File := d.entries.filterMap Entry.file?

def subdirectories (d : Directory) : List String := d.entries.filterMap Entry.directoryName?

def file? (d : Directory) (name : String) : Option File := d.files.find? (·.name = name)

def hasFile (d : Directory) (name : String) : Bool := (d.file? name).isSome

/-- Puts `f` in the place of the file of the same name, or last if there is none. -/
def put (d : Directory) (f : File) : Directory :=
  { d with entries :=
      if d.hasFile f.name then d.entries.map fun e => if e.isFile f.name then .file f else e
      else d.entries ++ [.file f] }

def remove (d : Directory) (name : String) : Directory :=
  { d with entries := d.entries.filter (!·.isFile name) }

def enroll (d : Directory) (name : String) : Directory :=
  { d with entries := d.entries ++ [.directory name] }

/-- The entry names in code point order, subdirectories with a slash behind them. Hidden files are
listed only on request; subdirectories always are. -/
def list (d : Directory) (showHidden : Bool) : List String :=
  (d.subdirectories.map (· ++ "/") ++
    (d.files.filter fun f => showHidden || !f.hidden).map (·.name)).mergeSort

@[simp] theorem path_put (d : Directory) (f : File) : (d.put f).path = d.path := rfl

@[simp] theorem path_remove (d : Directory) (name : String) : (d.remove name).path = d.path := rfl

@[simp] theorem path_enroll (d : Directory) (name : String) : (d.enroll name).path = d.path := rfl

@[simp] theorem subdirectories_enroll (d : Directory) (name : String) :
    (d.enroll name).subdirectories = d.subdirectories ++ [name] := by
  simp [enroll, subdirectories, Entry.directoryName?]

@[simp] theorem files_enroll (d : Directory) (name : String) :
    (d.enroll name).files = d.files := by
  simp [enroll, files, Entry.file?]

end Directory

end MissionShell
