import MissionShell.Proofs.Filesystem.Persistence

/-!
# Changes to a single file

Writing and removing act on one name in the working directory. Whatever the name looks like, all other
files are found as before, and no directory comes, goes or changes its name.

* `Filesystem.filesIn`, `Filesystem.subdirectoriesIn` : the two kinds of children of a path;
* `Filesystem.Frame` : nothing but one file of the working directory has changed;
* `Filesystem.Stores`, `Filesystem.Drops` : that file now holds a given text, or is gone;
* `Filesystem.Reachable.point_update` : what writing, touching and removing do.
-/

namespace MissionShell.Filesystem
open Directory (Placed Dropped)

def filesIn (fs : Filesystem) (p : Path) : List File := ((fs.directory? p).map (·.files)).getD []

def subdirectoriesIn (fs : Filesystem) (p : Path) : List String :=
  ((fs.directory? p).map (·.subdirectories)).getD []

/-! ## Frames -/

/-- From `fs` to `gs` nothing changes but the file `name` of the working directory. -/
structure Frame (fs gs : Filesystem) (name : String) : Prop where
  file? : ∀ p other, (p, other) ≠ (fs.cwd, name) → gs.file? p other = fs.file? p other
  directory? : ∀ p, p ≠ fs.cwd → gs.directory? p = fs.directory? p
  directoryPaths : gs.directoryPaths = fs.directoryPaths
  subdirectoriesIn : ∀ p, gs.subdirectoriesIn p = fs.subdirectoriesIn p
  cwd : gs.cwd = fs.cwd
  history : gs.history = fs.history

theorem Frame.refl (fs : Filesystem) (name : String) : fs.Frame fs name :=
  ⟨fun _ _ _ => rfl, fun _ _ => rfl, rfl, fun _ => rfl, rfl, rfl⟩

theorem directoryPaths_congr {fs gs : Filesystem}
    (h : gs.directories.map (·.path) = fs.directories.map (·.path)) :
    gs.directoryPaths = fs.directoryPaths := by
  rw [directoryPaths_eq, directoryPaths_eq, h]

/-- A change to the working directory that keeps its name, its subdirectories and its other files. -/
theorem frame_modify {f : Directory → Directory} {name : String} (hpath : ∀ d, (f d).path = d.path)
    (hsub : ∀ d, (f d).subdirectories = d.subdirectories)
    (hfile : ∀ d other, other ≠ name → (f d).file? other = d.file? other) (fs : Filesystem) :
    fs.Frame (fs.modify fs.cwd f) name := by
  have hfind := fs.directory?_modify hpath fs.cwd
  refine ⟨fun p other hne => ?_, fun p hp => ?_, directoryPaths_congr (map_path_modify hpath fs fs.cwd),
    fun p => ?_, rfl, rfl⟩
  · rw [Filesystem.file?, Filesystem.file?, hfind]
    split_ifs with hp
    · have hother : other ≠ name := fun heq => hne (by rw [hp, heq])
      rw [hp]
      cases fs.directory? fs.cwd with
      | none => rfl
      | some d => exact hfile d other hother
    · rfl
  · rw [hfind, if_neg hp]
  · rw [Filesystem.subdirectoriesIn, Filesystem.subdirectoriesIn, hfind]
    split_ifs with hp
    · rw [hp, Option.map_map]
      congr 2
      funext d
      exact hsub d
    · rfl

theorem frame_write (fs : Filesystem) (name content : String) :
    fs.Frame (fs.write name content) name := by
  rw [write_eq_put, put]
  split_ifs
  · refine frame_modify (f := (·.put ⟨name, content⟩)) (fun _ => rfl)
      (fun d => d.subdirectories_put _) (fun d other hother => ?_) fs
    rw [Directory.file?_put, if_neg hother]
  · exact .refl fs name

theorem frame_remove (fs : Filesystem) (name : String) : fs.Frame (fs.remove name) name := by
  unfold remove
  split_ifs
  · refine frame_modify (f := (·.remove name)) (fun _ => rfl)
      (fun d => d.subdirectories_remove _) (fun d other hother => ?_) fs
    rw [Directory.file?_remove, if_neg hother]
  · exact .refl fs name

/-! ## The file itself -/

/-- `gs` is `fs` with the text `content` in the file `name` of the working directory. -/
structure Stores (fs gs : Filesystem) (name content : String) : Prop extends Frame fs gs name where
  stored : ∃ f, gs.file? fs.cwd name = some f ∧ f.content = content ∧ f.size = content.utf8ByteSize
  placed : Placed ⟨name, content⟩ (fs.filesIn fs.cwd) (gs.filesIn fs.cwd)

/-- `gs` is `fs` without a file `name` in the working directory. -/
structure Drops (fs gs : Filesystem) (name : String) : Prop extends Frame fs gs name where
  gone : gs.file? fs.cwd name = none
  dropped : Dropped name (fs.filesIn fs.cwd) (gs.filesIn fs.cwd)

theorem filesIn_modify_cwd {f : Directory → Directory} (hpath : ∀ d, (f d).path = d.path)
    {fs : Filesystem} {d : Directory} (hd : fs.directory? fs.cwd = some d) :
    (fs.modify fs.cwd f).filesIn fs.cwd = (f d).files := by
  rw [filesIn, directory?_modify hpath, if_pos rfl, hd]
  rfl

theorem filesIn_of_directory? {fs : Filesystem} {p : Path} {d : Directory}
    (hd : fs.directory? p = some d) : fs.filesIn p = d.files := by
  rw [filesIn, hd]
  rfl

theorem remove_eq_self {fs : Filesystem} {name : String} (h : fs.file? fs.cwd name = none) :
    fs.remove name = fs := by
  rw [remove, h]
  rfl

namespace WellFormed
variable {fs : Filesystem} (h : fs.WellFormed)
include h

theorem stores_write (name content : String) : fs.Stores (fs.write name content) name content := by
  obtain ⟨d, hd⟩ := hasDirectory_iff.mp h.cwd
  refine ⟨fs.frame_write name content, ⟨⟨name, content⟩, ?_, rfl, rfl⟩, ?_⟩
  · rw [write_eq h.cwd, Filesystem.file?,
      directory?_modify (f := (·.put ⟨name, content⟩)) (fun _ => rfl), if_pos rfl, hd]
    exact (d.file?_put _ name).trans (if_pos rfl)
  · rw [write_eq h.cwd, filesIn_modify_cwd (f := (·.put ⟨name, content⟩)) (fun _ => rfl) hd,
      filesIn_of_directory? hd]
    exact (h.sound _ d hd).placed _

theorem drops_remove (name : String) : fs.Drops (fs.remove name) name := by
  obtain ⟨d, hd⟩ := hasDirectory_iff.mp h.cwd
  refine ⟨fs.frame_remove name, fs.file?_remove name, ?_⟩
  rw [remove_eq hd, filesIn_of_directory? hd]
  split_ifs with hthere
  · rw [filesIn_modify_cwd (f := (·.remove name)) (fun _ => rfl) hd]
    exact (h.sound _ d hd).dropped name
  · rw [filesIn_of_directory? hd]
    exact .absent _ (Directory.hasFile_eq_false_iff.mp (Bool.not_eq_true _ ▸ hthere))

end WellFormed

/-- **Operations on files change one file**, in every snapshot that operations can make and under every
name. -/
theorem Reachable.point_update {fs : Filesystem} (h : fs.Reachable) (name : String) :
    (∀ content, fs.Stores (fs.write name content) name content) ∧
      fs.Stores (fs.touch name) name "" ∧
      (∃ f, (fs.touch name).file? fs.cwd name = some f ∧ f.content = "" ∧ f.size = 0) ∧
      fs.Drops (fs.remove name) name ∧
      (fs.file? fs.cwd name = none → fs.remove name = fs) := by
  have hstores := h.wellFormed.stores_write name
  have htouch : fs.Stores (fs.touch name) name "" := by
    rw [touch_eq_write]
    exact hstores ""
  refine ⟨hstores, htouch, ?_, h.wellFormed.drops_remove name, remove_eq_self⟩
  obtain ⟨f, hf, hcontent, hsize⟩ := htouch.stored
  exact ⟨f, hf, hcontent, hsize⟩

/-- A file and a subdirectory of one name: the file is written and removed, and a name that no file has
cannot be removed, although a directory has it. -/
theorem point_update_twin :
    (seed.apply (.makeDirectory "ops")).Reachable ∧
      (seed.apply (.makeDirectory "ops")).Stores
        ((seed.apply (.makeDirectory "ops")).write "ops" "plan") "ops" "plan" ∧
      (seed.apply (.makeDirectory "ops")).file? Path.home "ops" = none ∧
      (seed.apply (.makeDirectory "ops")).remove "ops" = seed.apply (.makeDirectory "ops") := by
  have hreach := Reachable.seed.apply (.makeDirectory "ops")
  have hnone : (seed.apply (.makeDirectory "ops")).file? Path.home "ops" = none := by rfl
  obtain ⟨hwrite, -, -, -, habsent⟩ := hreach.point_update "ops"
  exact ⟨hreach, hwrite "plan", hnone, habsent hnone⟩

end MissionShell.Filesystem
