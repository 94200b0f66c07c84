import MissionShell.Filesystem.Update

/-!
# Timelines

A timeline keeps every snapshot of a run in which each operation may be applied to any earlier
snapshot, so that the snapshots form a tree. The copies that operations make are numbered along the
whole run: two snapshots hold one copy of a part only if the operation that made it is behind both, on
whatever branches they lie.

* `Filesystem.Operation`, `Filesystem.apply` : the operations as data;
* `Copies.renumber` : new numbers for the copies that an operation made;
* `Timeline.start`, `Timeline.extend` : a run and its continuation.
-/

namespace MissionShell

inductive Filesystem.Operation where
  | makeDirectory (text : String)
  | changeDirectory (text : String)
  | touch (name : String)
  | write (name content : String)
  | remove (name : String)
  | record (entry : String)
deriving DecidableEq

def Filesystem.apply (fs : Filesystem) : Operation → Filesystem
  | .makeDirectory text => fs.makeDirectory text
  | .changeDirectory text => fs.changeDirectory text
  | .touch name => fs.touch name
  | .write name content => fs.write name content
  | .remove name => fs.remove name
  | .record entry => fs.record entry

namespace Copies

def newest (c : Copies) : Nat := max c.tree (max c.index c.history)

/-- The copies of a snapshot that was made from one with the copies `base`: a part whose number is the
same is shared, and any other one is a new copy and gets the number `fresh`. -/
def renumber (base c : Copies) (fresh : Nat) : Copies where
  tree := if c.tree = base.tree then base.tree else fresh
  index := if c.index = base.index then base.index else fresh
  history := if c.history = base.history then base.history else fresh

end Copies

/-- The snapshots of a branching run, oldest first, and the highest number given to a copy in it. -/
structure Timeline where
  snapshots : List Filesystem
  latest : Nat

namespace Timeline

def start (fs : Filesystem) : Timeline := ⟨[fs], fs.copies.newest⟩

/-- Adds `next`, which an operation made from the snapshot `base` of the run. The copies that the
operation made get a number that no copy has had before. -/
def extend (t : Timeline) (base next : Filesystem) : Timeline :=
  ⟨t.snapshots ++ [{ next with copies := base.copies.renumber next.copies (t.latest + 1) }],
    t.latest + 1⟩

/-- Applies an operation to the snapshot number `i`. A shorter run stays as it is. -/
def apply (t : Timeline) (i : Nat) (op : Filesystem.Operation) : Timeline :=
  match t.snapshots[i]? with
  | some base => t.extend base (base.apply op)
  | none => t

end Timeline

end MissionShell
