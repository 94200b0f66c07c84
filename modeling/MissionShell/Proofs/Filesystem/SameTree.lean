import MissionShell.Proofs.Filesystem.WellFormed

/-!
# Snapshots of one tree

Snapshots that hold the same directories and stand in the same one differ in their histories alone,
and no look-up can tell them apart.

* `Filesystem.SameTree` : two such snapshots; `SameTree.record` : entries of the history do not matter;
* `SameTree.directory?`, `SameTree.file?`, … : look-up;
* `SameTree.apply` : operations make such snapshots of such snapshots;
* `Filesystem.OfTree` : a property that the history does not enter.
-/

namespace MissionShell.Filesystem

/-- Both snapshots hold the same directories and stand in the same one. -/
structure SameTree (fs gs : Filesystem) : Prop where
  directories : gs.directories = fs.directories
  cwd : gs.cwd = fs.cwd

namespace SameTree

theorem refl (fs : Filesystem) : fs.SameTree fs := ⟨rfl, rfl⟩

theorem record (fs : Filesystem) (entry : String) : fs.SameTree (fs.record entry) := ⟨rfl, rfl⟩

variable {fs gs : Filesystem} (h : fs.SameTree gs)
include h

theorem directory? : gs.directory? = fs.directory? := by
  funext p
  rw [Filesystem.directory?, Filesystem.directory?, h.directories]

theorem hasDirectory : gs.hasDirectory = fs.hasDirectory := by
  funext p
  rw [Filesystem.hasDirectory, Filesystem.hasDirectory, h.directory?]

theorem file? : gs.file? = fs.file? := by
  funext p name
  rw [Filesystem.file?, Filesystem.file?, h.directory?]

theorem resolve : gs.resolve = fs.resolve := by
  funext text
  rw [Filesystem.resolve, Filesystem.resolve, h.cwd]

theorem fileAt? : gs.fileAt? = fs.fileAt? := by
  funext text
  simp only [Filesystem.fileAt?, h.resolve, h.file?]

theorem list : gs.list = fs.list := by
  funext p showHidden
  rw [Filesystem.list, Filesystem.list, h.directory?]

theorem missingCause (up : List String) : gs.missingCause up = fs.missingCause up := by
  induction up with
  | nil => rfl
  | cons name up ih => simp only [Filesystem.missingCause, h.directory?, ih]

theorem trans {hs : Filesystem} (h' : gs.SameTree hs) : fs.SameTree hs :=
  ⟨h'.directories.trans h.directories, h'.cwd.trans h.cwd⟩

theorem wellFormed (hfs : fs.WellFormed) : gs.WellFormed := by
  refine hfs.of_directories h.directories ?_
  rw [h.hasDirectory, h.cwd]
  exact hfs.cwd

/-! ## Operations -/

theorem modify (p : Path) (f : Directory → Directory) : (fs.modify p f).SameTree (gs.modify p f) := by
  refine ⟨?_, h.cwd⟩
  rw [Filesystem.modify, Filesystem.modify, h.directories]

/-- A directory is made in both, or in neither and for the same cause. -/
theorem makeDirectory? (text : String) :
    (∃ cause, fs.makeDirectory? text = .error cause ∧ gs.makeDirectory? text = .error cause) ∨
      ∃ fs' gs', fs.makeDirectory? text = .ok fs' ∧ gs.makeDirectory? text = .ok gs' ∧
        fs'.SameTree gs' := by
  simp only [Filesystem.makeDirectory?, h.hasDirectory, h.directory?, h.resolve, h.missingCause]
  split_ifs with hthere
  · exact Or.inl ⟨_, rfl, rfl⟩
  · cases fs.directory? (fs.resolve text).parent with
    | none => exact Or.inl ⟨_, rfl, rfl⟩
    | some d =>
      dsimp only
      split_ifs with hfile
      · exact Or.inl ⟨_, rfl, rfl⟩
      · exact Or.inr ⟨_, _, rfl, rfl, by rw [(h.modify _ _).directories], h.cwd⟩

theorem makeDirectory (text : String) :
    (fs.makeDirectory text).SameTree (gs.makeDirectory text) := by
  rw [Filesystem.makeDirectory, Filesystem.makeDirectory]
  obtain ⟨cause, hfs, hgs⟩ | ⟨fs', gs', hfs, hgs, hnext⟩ := h.makeDirectory? text
  · rw [hfs, hgs]
    exact h
  · rw [hfs, hgs]
    exact hnext

theorem changeDirectory (text : String) :
    (fs.changeDirectory text).SameTree (gs.changeDirectory text) := by
  rw [changeDirectory_eq, changeDirectory_eq, h.resolve, h.hasDirectory]
  split_ifs
  · exact ⟨h.directories, rfl⟩
  · exact h

theorem write (name content : String) :
    (fs.write name content).SameTree (gs.write name content) := by
  rw [write_eq_put, write_eq_put, put, put, h.hasDirectory, h.cwd]
  split_ifs
  · exact h.modify _ _
  · exact h

theorem touch (name : String) : (fs.touch name).SameTree (gs.touch name) := by
  rw [touch_eq_write, touch_eq_write]
  exact h.write name ""

theorem remove (name : String) : (fs.remove name).SameTree (gs.remove name) := by
  rw [Filesystem.remove, Filesystem.remove, h.file?, h.cwd]
  split_ifs
  · exact h.modify _ _
  · exact h

/-- An operation does the same to one tree whatever the history. -/
theorem apply (op : Operation) : (fs.apply op).SameTree (gs.apply op) := by
  cases op with
  | makeDirectory text => exact h.makeDirectory text
  | changeDirectory text => exact h.changeDirectory text
  | touch name => exact h.touch name
  | write name content => exact h.write name content
  | remove name => exact h.remove name
  | record entry => exact ⟨h.directories, h.cwd⟩

end SameTree

/-- The history of a snapshot does not matter for the property. -/
def OfTree (P : Filesystem → Prop) : Prop := ∀ fs gs, fs.SameTree gs → P fs → P gs

theorem ofTree_wellFormed : OfTree WellFormed := fun _ _ h => h.wellFormed

end MissionShell.Filesystem
