import MissionShell.Directory

/-!
# The filesystem

A `Filesystem` is one snapshot of the sandbox: its directories, a working directory and a command
history. Nothing is ever changed in place; the operations of `MissionShell.Filesystem.Update` make
the next snapshot from an earlier one.

* `Copies` : which copies of its parts a snapshot holds;
* `Filesystem.empty`, `Filesystem.seed` : the tree with the root alone, and the tree that missions
  start from;
* `Filesystem.directory?`, `Filesystem.file?` : look-up by path;
* `Filesystem.fileAt?` : look-up of a file by a spelling that includes its name;
* `Filesystem.list` : a listing;
* `Filesystem.sameSnapshot` : identity of snapshots.
-/

namespace MissionShell

/-- Which copies a snapshot holds of its three parts: the tree, the index of the directories by path,
and the history. A part that an operation leaves alone is shared with the snapshot before it, and one
that it changes is copied. The numbers tell the copies of a part from each other. -/
structure Copies where
  tree : Nat
  index : Nat
  history : Nat
deriving DecidableEq

/-- One snapshot. Along one line of operations `copies` counts how often each part was copied; moving
about copies none. -/
structure Filesystem where
  directories : List Directory
  cwd : Path
  history : List String
  copies : Copies

namespace Filesystem

def empty : Filesystem := ⟨[Directory.empty Path.root], Path.root, [], ⟨0, 0, 0⟩⟩

def secretFile : File :=
  ⟨".secret.txt", "Mission briefing: Infiltration successful. Proceed with data extraction."⟩

def readmeFile : File :=
  ⟨"readme.txt", "Welcome to the system. Use standard Unix commands to navigate."⟩

def seed : Filesystem where
  directories :=
    [⟨Path.root, [.directory "home"]⟩,
      ⟨Path.root.child "home", [.directory "user"]⟩,
      ⟨Path.home, [.file secretFile, .file readmeFile]⟩]
  cwd := Path.home
  history := []
  copies := ⟨0, 0, 0⟩

/-! ## Paths -/

def resolve (fs : Filesystem) (text : String) : Path := fs.cwd.resolve text

/-- What an optional spelling means; without one it is the working directory. -/
def target (fs : Filesystem) (text : Option String) : Path := text.elim fs.cwd fs.resolve

def directoryPaths (fs : Filesystem) : List String :=
  (fs.directories.map (·.path.toString)).mergeSort

def tree (fs : Filesystem) : List Directory :=
  fs.directories.mergeSort fun a b => a.path.toString ≤ b.path.toString

/-! ## Look-up -/

def directory? (fs : Filesystem) (p : Path) : Option Directory :=
  fs.directories.find? (·.path = p)

def hasDirectory (fs : Filesystem) (p : Path) : Bool := (fs.directory? p).isSome

def file? (fs : Filesystem) (p : Path) (name : String) : Option File :=
  (fs.directory? p).bind (·.file? name)

/-- The file that a spelling leads to, its last segment being the name. -/
def fileAt? (fs : Filesystem) (text : String) : Option File :=
  let p := fs.resolve text
  p.name?.bind (fs.file? p.parent)

def list (fs : Filesystem) (p : Path) (showHidden : Bool) : List String :=
  ((fs.directory? p).map (·.list showHidden)).getD []

/-! ## Identity -/

/-- Whether two snapshots are the very same one and not merely equal: they hold the same copies of all
parts and stand in the same place. -/
def sameSnapshot (a b : Filesystem) : Bool := a.copies = b.copies && a.cwd = b.cwd

end Filesystem

end MissionShell
