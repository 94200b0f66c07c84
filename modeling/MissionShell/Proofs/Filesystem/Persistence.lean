import MissionShell.Proofs.Filesystem.WellFormed

/-!
# What operations leave in place

Directories are never removed, one operation alone moves about, and one alone enters a line into the
history. A name in the working directory can always be freed of its file, and then a directory of that
name is there or can be made.

* `Filesystem.hasDirectory_apply`, `Filesystem.directoryPaths_subset_apply` : directories stay;
* `Filesystem.cwd_apply`, `Filesystem.history_apply` : the working directory and the history stay;
* `Filesystem.file?_remove` : a removed file is gone;
* `Filesystem.WellFormed.isOk_makeDirectory?_name` : when a name is free for a directory;
* `Filesystem.WellFormed.hasDirectory_makeDirectory_name` : when a directory is there afterwards.
-/

namespace MissionShell.Filesystem

/-! ## Directories and the place among them -/

theorem hasDirectory_makeDirectory {fs : Filesystem} {p : Path} (h : fs.hasDirectory p = true)
    (text : String) : (fs.makeDirectory text).hasDirectory p = true := by
  rcases fs.makeDirectory_cases text with hsame | ⟨parent, name, d, -, -, -, -, hnext⟩
  · rw [hsame]
    exact h
  · rw [hnext]
    exact hasDirectory_addDirectory.mpr (Or.inl h)

theorem cwd_makeDirectory (fs : Filesystem) (text : String) :
    (fs.makeDirectory text).cwd = fs.cwd := by
  rcases fs.makeDirectory_cases text with hsame | ⟨parent, name, d, -, -, -, -, hnext⟩
  · rw [hsame]
  · rw [hnext]
    rfl

theorem hasDirectory_write (fs : Filesystem) (name content : String) (p : Path) :
    (fs.write name content).hasDirectory p = fs.hasDirectory p := by
  rw [write_eq_put, put]
  split_ifs
  · exact hasDirectory_modify (f := (·.put ⟨name, content⟩)) (fun _ => rfl) fs fs.cwd p
  · rfl

theorem hasDirectory_remove (fs : Filesystem) (name : String) (p : Path) :
    (fs.remove name).hasDirectory p = fs.hasDirectory p := by
  unfold remove
  split_ifs
  · exact hasDirectory_modify (f := (·.remove name)) (fun _ => rfl) fs fs.cwd p
  · rfl

/-- Directories are never removed. -/
theorem hasDirectory_apply {fs : Filesystem} {p : Path} (h : fs.hasDirectory p = true)
    (op : Operation) : (fs.apply op).hasDirectory p = true := by
  cases op with
  | makeDirectory text => exact hasDirectory_makeDirectory h text
  | changeDirectory text =>
    rw [apply, changeDirectory_eq]
    split_ifs <;> exact h
  | touch name =>
    rw [apply, touch_eq_write, hasDirectory_write]
    exact h
  | write name content => exact (fs.hasDirectory_write name content p).trans h
  | remove name => exact (fs.hasDirectory_remove name p).trans h
  | record entry => exact h

theorem directoryPaths_subset_apply (fs : Filesystem) (op : Operation) :
    fs.directoryPaths ⊆ (fs.apply op).directoryPaths := by
  intro text htext
  obtain ⟨p, hp, hspell⟩ := mem_directoryPaths.mp htext
  exact mem_directoryPaths.mpr ⟨p, hasDirectory_apply hp op, hspell⟩

theorem cwd_apply {op : Operation} (hop : ∀ text, op ≠ .changeDirectory text) (fs : Filesystem) :
    (fs.apply op).cwd = fs.cwd := by
  cases op with
  | makeDirectory text => exact fs.cwd_makeDirectory text
  | changeDirectory text => exact absurd rfl (hop text)
  | touch | write =>
    simp only [apply, touch, write_eq_put, put]
    split_ifs <;> rfl
  | remove name =>
    simp only [apply, remove]
    split_ifs <;> rfl
  | record entry => rfl

theorem history_makeDirectory (fs : Filesystem) (text : String) :
    (fs.makeDirectory text).history = fs.history := by
  rcases fs.makeDirectory_cases text with hsame | ⟨parent, name, d, -, -, -, -, hnext⟩
  · rw [hsame]
  · rw [hnext]
    rfl

theorem history_apply {op : Operation} (hop : ∀ entry, op ≠ .record entry) (fs : Filesystem) :
    (fs.apply op).history = fs.history := by
  cases op with
  | makeDirectory text => exact fs.history_makeDirectory text
  | changeDirectory text =>
    rw [apply, changeDirectory_eq]
    split_ifs <;> rfl
  | touch | write =>
    simp only [apply, touch, write_eq_put, put]
    split_ifs <;> rfl
  | remove name =>
    simp only [apply, remove]
    split_ifs <;> rfl
  | record entry => exact absurd rfl (hop entry)

/-! ## A name in the working directory -/

/-- A removed file is gone. -/
theorem file?_remove (fs : Filesystem) (name : String) :
    (fs.remove name).file? fs.cwd name = none := by
  unfold remove
  split_ifs with hfile
  · rw [file?, directory?_modify (f := (·.remove name)) fun _ => rfl, if_pos rfl]
    cases fs.directory? fs.cwd with
    | none => rfl
    | some d => exact (d.file?_remove name name).trans (if_pos rfl)
  · simpa using hfile

namespace WellFormed
variable {fs : Filesystem} (h : fs.WellFormed) {name : String} (hname : Path.IsName name)
include h hname

/-- A directory is made in the working directory under a name that is not taken there. -/
theorem isOk_makeDirectory?_name :
    (fs.makeDirectory? name).isOk =
      !(fs.hasDirectory (fs.cwd.child name) || (fs.file? fs.cwd name).isSome) := by
  obtain ⟨d, hd⟩ := hasDirectory_iff.mp h.cwd
  have hfile : d.hasFile name = (fs.file? fs.cwd name).isSome := by
    rw [Filesystem.file?, hd]
    rfl
  rw [makeDirectory?_of_resolve (Path.resolve_name _ hname), hd]
  dsimp only
  rw [hfile]
  cases fs.hasDirectory (fs.cwd.child name) with
  | true => rfl
  | false => cases (fs.file? fs.cwd name).isSome <;> rfl

/-- Unless a file has the name, there is a directory of that name afterwards. -/
theorem hasDirectory_makeDirectory_name (hfile : fs.file? fs.cwd name = none) :
    (fs.makeDirectory name).hasDirectory (fs.cwd.child name) = true := by
  cases hbefore : fs.hasDirectory (fs.cwd.child name) with
  | true => exact hasDirectory_makeDirectory hbefore name
  | false =>
    have hok := h.isOk_makeDirectory?_name hname
    rw [hbefore, hfile] at hok
    unfold Filesystem.makeDirectory
    cases hmade : fs.makeDirectory? name with
    | error e =>
      rw [hmade] at hok
      cases hok
    | ok next =>
      obtain ⟨parent, made, d, hchild, -, -, -, rfl⟩ := makeDirectory?_cases hmade
      rw [Filesystem.resolve, Path.resolve_name _ hname] at hchild
      rw [hchild]
      exact hasDirectory_addDirectory.mpr (Or.inr rfl)

end WellFormed

end MissionShell.Filesystem
