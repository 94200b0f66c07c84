import MissionShell.Text.Blank

/-!
# Paths

A path is the list of segments that lead to it from the root.

* `Path.step` : one segment of a spelling, where `.` stays and `..` goes up;
* `Path.follow`, `Path.parse`, `Path.resolve` : reading a spelling from a given place, from the
  root, and from the working directory;
* `Path.toString` : the canonical spelling, `/` followed by the segments with `/` between them;
* `Path.normalize` : the canonical spelling of what a spelling means.
-/

namespace MissionShell

structure Path where
  segments : List String
deriving DecidableEq

namespace Path

def root : Path := ⟨[]⟩

def home : Path := ⟨["home", "user"]⟩

def child (p : Path) (name : String) : Path := ⟨p.segments ++ [name]⟩

/-- The path without its last segment; the root is its own parent. -/
def parent (p : Path) : Path := ⟨p.segments.dropLast⟩

def name? (p : Path) : Option String := p.segments.getLast?

/-- Takes one segment of a spelling: `.` stays, `..` goes to the parent, and any other segment is a
name below `p`. -/
def step (p : Path) (segment : String) : Path :=
  if segment = "." then p else if segment = ".." then p.parent else p.child segment

/-- The segments of a spelling: what stands between slashes, empty segments dropped. -/
def split (text : String) : List String :=
  (Text.runs (· = '/') text.toList).map String.ofList

def follow (p : Path) (text : String) : Path := (split text).foldl step p

def parse (text : String) : Path := root.follow text

def isAbsolute (text : String) : Bool := text.toList.head? = some '/'

/-- Where the spelling leads when `p` is the working directory: one that starts with a slash is
read from the root. -/
def resolve (p : Path) (text : String) : Path :=
  if isAbsolute text then parse text else p.follow text

protected def toString (p : Path) : String := "/" ++ "/".intercalate p.segments

instance : ToString Path := ⟨Path.toString⟩

/-- The canonical spelling of what `text` means in the working directory spelled `cwd`. -/
def normalize (text cwd : String) : String := ((parse cwd).resolve text).toString

@[simp] theorem toString_root : root.toString = "/" := rfl

theorem follow_nil (p : Path) : p.follow "" = p := by
  simp [follow, split, Text.runs_nil]

end Path

end MissionShell
