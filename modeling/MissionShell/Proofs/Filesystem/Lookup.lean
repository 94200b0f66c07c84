import MissionShell.Filesystem.Timeline
import MissionShell.Proofs.Directory
import MissionShell.Proofs.Path.Spelling

/-!
# Look-up after each operation

What every operation does to the directories, said through `Filesystem.directory?`.

* `Filesystem.directory?_modify` : one directory is changed and the others stay;
* `Filesystem.addDirectory` : the snapshot of a successful `makeDirectory?`, with its look-up;
* `Filesystem.makeDirectory?_of_resolve`, `Filesystem.makeDirectory?_cases` : when a directory is made and
  what comes of it;
* `Filesystem.changeDirectory_eq`, `Filesystem.write_eq`, `Filesystem.touch_eq_write`,
  `Filesystem.remove_eq` : the operations that add no directory.
-/

namespace MissionShell.Filesystem

/-! ## Members and paths -/

theorem path_of_directory? {fs : Filesystem} {p : Path} {d : Directory}
    (h : fs.directory? p = some d) : d.path = p := by
  simpa using List.find?_some h

theorem mem_of_directory? {fs : Filesystem} {p : Path} {d : Directory}
    (h : fs.directory? p = some d) : d ∈ fs.directories := List.mem_of_find?_eq_some h

theorem hasDirectory_iff {fs : Filesystem} {p : Path} :
    fs.hasDirectory p = true ↔ ∃ d, fs.directory? p = some d := Option.isSome_iff_exists

theorem hasDirectory_of_some {fs : Filesystem} {p : Path} {d : Directory}
    (h : fs.directory? p = some d) : fs.hasDirectory p = true := hasDirectory_iff.mpr ⟨d, h⟩

theorem hasDirectory_eq_false_iff {fs : Filesystem} {p : Path} :
    fs.hasDirectory p = false ↔ fs.directory? p = none :=
  Option.isSome_eq_false_iff.trans Option.isNone_iff_eq_none

theorem hasDirectory_iff_mem {fs : Filesystem} {p : Path} :
    fs.hasDirectory p = true ↔ p ∈ fs.directories.map (·.path) := by
  simp [hasDirectory, directory?]

theorem directoryPaths_eq (fs : Filesystem) :
    fs.directoryPaths = ((fs.directories.map (·.path)).map Path.toString).mergeSort := by
  rw [directoryPaths, List.map_map]
  rfl

theorem mem_directoryPaths {fs : Filesystem} {text : String} :
    text ∈ fs.directoryPaths ↔ ∃ p, fs.hasDirectory p = true ∧ p.toString = text := by
  simp only [directoryPaths, List.mem_mergeSort, hasDirectory_iff_mem, List.mem_map]
  constructor
  · rintro ⟨d, hd, rfl⟩
    exact ⟨d.path, ⟨d, hd, rfl⟩, rfl⟩
  · rintro ⟨p, ⟨d, hd, rfl⟩, rfl⟩
    exact ⟨d, hd, rfl⟩

theorem fileAt?_of_resolve {fs : Filesystem} {text name : String} {p : Path}
    (h : fs.resolve text = p.child name) : fs.fileAt? text = fs.file? p name := by
  simp [fileAt?, h]

/-! ## Changing one directory -/

section Modify
variable {f : Directory → Directory} (hf : ∀ d, (f d).path = d.path)
include hf

theorem directory?_modify (fs : Filesystem) (p q : Path) :
    (fs.modify p f).directory? q =
      if q = p then (fs.directory? p).map f else fs.directory? q := by
  have hpred : ((fun d : Directory => decide (d.path = q)) ∘ fun d => if d.path = p then f d else d) =
      fun d => decide (d.path = q) := by
    funext d
    by_cases h : d.path = p <;> simp [h, hf]
  unfold directory? modify
  rw [List.find?_map, hpred]
  split_ifs with hq
  · subst hq
    cases h : fs.directories.find? fun d => decide (d.path = q) with
    | none => rfl
    | some d =>
      have hd : d.path = q := by simpa using List.find?_some h
      simp [hd]
  · cases h : fs.directories.find? fun d => decide (d.path = q) with
    | none => rfl
    | some d =>
      have hd : d.path = q := by simpa using List.find?_some h
      simp [hd, hq]

theorem map_path_modify (fs : Filesystem) (p : Path) :
    (fs.modify p f).directories.map (·.path) = fs.directories.map (·.path) := by
  unfold modify
  rw [List.map_map]
  refine List.map_congr_left fun d _ => ?_
  by_cases h : d.path = p <;> simp [h, hf]

theorem hasDirectory_modify (fs : Filesystem) (p q : Path) :
    (fs.modify p f).hasDirectory q = fs.hasDirectory q := by
  rw [Bool.eq_iff_iff, hasDirectory_iff_mem, hasDirectory_iff_mem, map_path_modify hf]

end Modify

/-! ## Adding a directory -/

def addDirectory (fs : Filesystem) (parent : Path) (name : String) : Filesystem :=
  let grown := fs.modify parent (·.enroll name)
  { grown with
    directories := grown.directories ++ [Directory.empty (parent.child name)]
    copies := { grown.copies with index := grown.copies.index + 1 } }

theorem map_path_addDirectory (fs : Filesystem) (parent : Path) (name : String) :
    (fs.addDirectory parent name).directories.map (·.path) =
      fs.directories.map (·.path) ++ [parent.child name] := by
  have h := map_path_modify (f := (·.enroll name)) (fun _ => rfl) fs parent
  simp only [addDirectory, List.map_append, h]
  rfl

theorem hasDirectory_addDirectory {fs : Filesystem} {parent q : Path} {name : String} :
    (fs.addDirectory parent name).hasDirectory q = true ↔
      fs.hasDirectory q = true ∨ q = parent.child name := by
  rw [hasDirectory_iff_mem, map_path_addDirectory, List.mem_append, List.mem_singleton,
    ← hasDirectory_iff_mem]

theorem directory?_addDirectory {fs : Filesystem} {parent : Path} {name : String}
    (hnew : fs.hasDirectory (parent.child name) = false) (q : Path) :
    (fs.addDirectory parent name).directory? q =
      if q = parent.child name then some (Directory.empty q)
      else if q = parent then (fs.directory? q).map (·.enroll name) else fs.directory? q := by
  have hold : (fs.addDirectory parent name).directory? q =
      ((fs.modify parent (·.enroll name)).directory? q).or
        (if q = parent.child name then some (Directory.empty q) else none) := by
    simp only [addDirectory, directory?, List.find?_append]
    congr 1
    by_cases hq : parent.child name = q
    · subst hq
      simp [Directory.empty]
    · simp [Directory.empty, hq, Ne.symm hq]
  rw [hold, directory?_modify (f := (·.enroll name)) (fun _ => rfl)]
  by_cases hq : q = parent.child name
  · subst hq
    have hne : parent.child name ≠ parent := fun h => by
      simpa [Path.child] using congrArg (fun p => p.segments.length) h
    have hnone := hasDirectory_eq_false_iff.mp hnew
    simp [hne, hnone]
  · simp only [hq, if_false, Option.or_none]
    split_ifs with hp
    · rw [hp]
    · rfl

theorem makeDirectory?_of_resolve {fs : Filesystem} {text name : String} {parent : Path}
    (h : fs.resolve text = parent.child name) :
    fs.makeDirectory? text =
      if fs.hasDirectory (parent.child name) then .error .alreadyExists
      else match fs.directory? parent with
        | none => .error (fs.missingCause parent.segments.reverse)
        | some d =>
          if d.hasFile name then .error .alreadyExists else .ok (fs.addDirectory parent name) := by
  cases hd : fs.directory? parent <;>
    simp only [makeDirectory?, h, hd, Path.parent_child, Path.name?_child, Option.getD_some, addDirectory]

theorem makeDirectory?_of_hasDirectory {fs : Filesystem} {text : String}
    (h : fs.hasDirectory (fs.resolve text) = true) :
    fs.makeDirectory? text = .error .alreadyExists := by
  simp only [makeDirectory?, h, if_true]

/-- A directory is made below a directory that has neither a directory nor a file of its name, and
nowhere else. -/
theorem makeDirectory?_cases {fs next : Filesystem} {text : String}
    (h : fs.makeDirectory? text = .ok next) :
    ∃ parent name d, fs.resolve text = parent.child name ∧ fs.directory? parent = some d ∧
      fs.hasDirectory (parent.child name) = false ∧ d.hasFile name = false ∧
      next = fs.addDirectory parent name := by
  -- the root is its own parent, so it is no new directory below a directory
  have hroot : fs.resolve text ≠ Path.root := by
    intro hroot
    simp only [makeDirectory?, hroot, Path.parent_root, hasDirectory] at h
    cases hd : fs.directory? Path.root <;> simp [hd] at h
  obtain ⟨name, hname⟩ := Path.exists_eq_child hroot
  rw [makeDirectory?_of_resolve hname] at h
  split at h
  · cases h
  · next hnew =>
    split at h
    · cases h
    · next d hd =>
      split at h
      · cases h
      · next hfile =>
        exact ⟨_, name, d, hname, hd, by simpa using hnew, by simpa using hfile,
          (Except.ok.inj h).symm⟩

theorem makeDirectory_cases (fs : Filesystem) (text : String) :
    fs.makeDirectory text = fs ∨
      ∃ parent name d, fs.resolve text = parent.child name ∧ fs.directory? parent = some d ∧
        fs.hasDirectory (parent.child name) = false ∧ d.hasFile name = false ∧
        fs.makeDirectory text = fs.addDirectory parent name := by
  unfold makeDirectory
  cases h : fs.makeDirectory? text with
  | error e => exact Or.inl rfl
  | ok next => exact Or.inr (makeDirectory?_cases h)

/-! ## The other operations -/

theorem changeDirectory_eq (fs : Filesystem) (text : String) :
    fs.changeDirectory text =
      if fs.hasDirectory (fs.resolve text) then { fs with cwd := fs.resolve text } else fs := rfl

/-- A file keeps its name when it is overwritten, so writing puts the same file there as making it
anew would. -/
theorem write_eq_put (fs : Filesystem) (name content : String) :
    fs.write name content = fs.put ⟨name, content⟩ := by
  rw [write]
  cases hfile : fs.file? fs.cwd name with
  | none => rfl
  | some f =>
    obtain ⟨d, -, hd⟩ := Option.bind_eq_some_iff.mp hfile
    rw [Option.map_some, Option.getD_some, File.withContent, Directory.name_of_file? hd]

theorem touch_eq_write (fs : Filesystem) (name : String) : fs.touch name = fs.write name "" :=
  (fs.write_eq_put name "").symm

theorem write_eq {fs : Filesystem} (h : fs.hasDirectory fs.cwd = true) (name content : String) :
    fs.write name content = fs.modify fs.cwd (·.put ⟨name, content⟩) := by
  rw [write_eq_put, put, if_pos h]

theorem remove_eq {fs : Filesystem} {d : Directory} (h : fs.directory? fs.cwd = some d)
    (name : String) :
    fs.remove name = if d.hasFile name then fs.modify fs.cwd (·.remove name) else fs := by
  rw [remove, file?, h, Option.bind_some]
  rfl

end MissionShell.Filesystem
