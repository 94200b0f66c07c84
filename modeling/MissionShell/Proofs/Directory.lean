import MissionShell.Directory
import Mathlib.Data.List.Nodup

/-!
# What the changes to a directory do to its children

* `Directory.files_put`, `Directory.files_remove` : the files after each change; subdirectories are
  left alone by both;
* `Directory.hasFile_put`, `Directory.hasFile_remove` : which names are files after it;
* `Directory.file?_put`, `Directory.file?_remove` : what is found under each name after it;
* `Directory.Sound` : no two children of one kind share a name, which every change keeps;
* `Directory.Placed`, `Directory.Dropped` : where a file is put, and what its removal leaves.
-/

namespace MissionShell.Directory

/-! ## Files by name -/

def fileNames (d : Directory) : List String := d.files.map (·.name)

theorem hasFile_iff {d : Directory} {name : String} : d.hasFile name = true ↔ name ∈ d.fileNames := by
  simp [hasFile, file?, fileNames]

/-! ## Putting a file -/

@[simp] theorem subdirectories_put (d : Directory) (f : File) :
    (d.put f).subdirectories = d.subdirectories := by
  unfold put subdirectories
  split_ifs
  · rw [List.filterMap_map]
    congr 1
    funext e
    cases e with
    | directory n => rfl
    | file g =>
      by_cases h : g.name = f.name <;> simp [Entry.isFile, Entry.directoryName?, h]
  · simp [Entry.directoryName?]

theorem files_put (d : Directory) (f : File) :
    (d.put f).files =
      if d.hasFile f.name then d.files.map fun g => if g.name = f.name then f else g
      else d.files ++ [f] := by
  unfold put files
  split_ifs
  · rw [List.filterMap_map, List.map_filterMap]
    congr 1
    funext e
    cases e with
    | directory n => rfl
    | file g =>
      by_cases h : g.name = f.name <;> simp [Entry.isFile, Entry.file?, h]
  · simp [Entry.file?]

/-- A file that is overwritten keeps its place, and a new one comes last. -/
theorem fileNames_put (d : Directory) (f : File) :
    (d.put f).fileNames = if d.hasFile f.name then d.fileNames else d.fileNames ++ [f.name] := by
  unfold fileNames
  rw [files_put]
  split_ifs
  · rw [List.map_map]
    refine List.map_congr_left fun g _ => ?_
    by_cases h : g.name = f.name <;> simp [h]
  · simp

theorem hasFile_put {d : Directory} {f : File} {name : String} :
    (d.put f).hasFile name = true ↔ name = f.name ∨ d.hasFile name = true := by
  rw [hasFile_iff, fileNames_put]
  split_ifs with h
  · rw [hasFile_iff]
    constructor
    · exact Or.inr
    · rintro (rfl | hmem)
      · exact hasFile_iff.mp h
      · exact hmem
  · rw [List.mem_append, List.mem_singleton, hasFile_iff, or_comm]

theorem name_of_file? {d : Directory} {name : String} {f : File} (h : d.file? name = some f) :
    f.name = name := by
  simpa using List.find?_some h

/-- The file is found under its name, and under the other names what was found before. -/
theorem file?_put (d : Directory) (f : File) (name : String) :
    (d.put f).file? name = if name = f.name then some f else d.file? name := by
  have hmap : (d.files.map fun g => if g.name = f.name then f else g).find? (·.name = name) =
      (d.file? name).map fun g => if g.name = f.name then f else g := by
    have hnames : ((fun g : File => decide (g.name = name)) ∘ fun g => if g.name = f.name then f else g) =
        fun g => decide (g.name = name) := by
      funext g
      by_cases h : g.name = f.name <;> simp [h]
    rw [List.find?_map, hnames, file?]
  rw [file?, files_put]
  split_ifs with hhas heq heq
  · obtain ⟨g, hg⟩ := Option.isSome_iff_exists.mp hhas
    subst heq
    rw [hmap, hg, Option.map_some, if_pos (name_of_file? hg)]
  · rw [hmap]
    cases hg : d.file? name with
    | none => rfl
    | some g => rw [Option.map_some, if_neg (name_of_file? hg ▸ heq)]
  · have hnone : d.files.find? (·.name = name) = none := by
      rw [heq, ← file?]
      simpa [hasFile] using hhas
    rw [List.find?_append, hnone, heq]
    simp
  · rw [List.find?_append, List.find?_singleton, if_neg (by simpa using Ne.symm heq), Option.or_none,
      file?]

/-! ## Removing a file -/

@[simp] theorem subdirectories_remove (d : Directory) (name : String) :
    (d.remove name).subdirectories = d.subdirectories := by
  unfold remove subdirectories
  rw [List.filterMap_filter]
  congr 1
  funext e
  cases e with
  | directory n => rfl
  | file f => by_cases h : f.name = name <;> simp [Entry.isFile, Entry.directoryName?, h]

theorem files_remove (d : Directory) (name : String) :
    (d.remove name).files = d.files.filter (·.name ≠ name) := by
  unfold remove files
  rw [List.filterMap_filter, List.filter_filterMap]
  congr 1
  funext e
  cases e with
  | directory n => rfl
  | file f => by_cases h : f.name = name <;> simp [Entry.isFile, Entry.file?, Option.filter, h]

theorem fileNames_remove (d : Directory) (name : String) :
    (d.remove name).fileNames = d.fileNames.filter (· ≠ name) := by
  rw [fileNames, files_remove, fileNames, List.filter_map]
  rfl

theorem hasFile_remove {d : Directory} {name other : String} :
    (d.remove name).hasFile other = true ↔ other ≠ name ∧ d.hasFile other = true := by
  rw [hasFile_iff, fileNames_remove, hasFile_iff, List.mem_filter, decide_eq_true_eq, and_comm]

theorem file?_remove (d : Directory) (name other : String) :
    (d.remove name).file? other = if other = name then none else d.file? other := by
  rw [file?, files_remove, List.find?_filter]
  split_ifs with h
  · rw [List.find?_eq_none]
    intro g _
    simp [h]
  · rw [file?]
    congr 1
    funext g
    by_cases hg : g.name = other <;> simp [hg, h]

/-! ## Enrolling a subdirectory -/

@[simp] theorem fileNames_enroll (d : Directory) (name : String) :
    (d.enroll name).fileNames = d.fileNames := by
  simp [fileNames]

theorem hasFile_enroll (d : Directory) (name other : String) :
    (d.enroll name).hasFile other = d.hasFile other := by
  simp [hasFile, file?]

/-! ## Children without duplicates -/

/-- No two subdirectories share a name, and no two files do. -/
structure Sound (d : Directory) : Prop where
  subdirectories : d.subdirectories.Nodup
  fileNames : d.fileNames.Nodup

theorem sound_empty (p : Path) : (empty p).Sound := ⟨List.nodup_nil, List.nodup_nil⟩

theorem Sound.file?_eq_some_iff {d : Directory} (hd : d.Sound) {name : String} {f : File} :
    d.file? name = some f ↔ f ∈ d.files ∧ f.name = name := by
  constructor
  · intro h
    exact ⟨List.mem_of_find?_eq_some h, name_of_file? h⟩
  · rintro ⟨hmem, rfl⟩
    cases hg : d.file? f.name with
    | none =>
      have hnone := List.find?_eq_none.mp hg f hmem
      simp at hnone
    | some g =>
      rw [List.inj_on_of_nodup_map hd.fileNames (List.mem_of_find?_eq_some hg) hmem (name_of_file? hg)]

theorem Sound.put {d : Directory} (hd : d.Sound) (f : File) : (d.put f).Sound := by
  refine ⟨by simpa using hd.subdirectories, ?_⟩
  rw [fileNames_put]
  split_ifs with h
  · exact hd.fileNames
  · simpa using hd.fileNames.concat fun hmem => h (hasFile_iff.mpr hmem)

theorem Sound.remove {d : Directory} (hd : d.Sound) (name : String) : (d.remove name).Sound := by
  refine ⟨by simpa using hd.subdirectories, ?_⟩
  rw [fileNames_remove]
  exact hd.fileNames.filter _

theorem Sound.enroll {d : Directory} (hd : d.Sound) {name : String} (h : name ∉ d.subdirectories) :
    (d.enroll name).Sound := by
  refine ⟨?_, by simpa using hd.fileNames⟩
  rw [subdirectories_enroll]
  simpa using hd.subdirectories.concat h

/-! ## The order of the files -/

/-- `f` takes the place of the file that had its name, or comes last if there was none. -/
inductive Placed (f : File) : List File → List File → Prop where
  | over (before : List File) (g : File) (rest : List File) (h : g.name = f.name) :
      Placed f (before ++ g :: rest) (before ++ f :: rest)
  | last (before : List File) (h : ∀ g ∈ before, g.name ≠ f.name) : Placed f before (before ++ [f])

/-- The file called `name` is taken out from between the others, or there was none. -/
inductive Dropped (name : String) : List File → List File → Prop where
  | out (before : List File) (g : File) (rest : List File) (h : g.name = name) :
      Dropped name (before ++ g :: rest) (before ++ rest)
  | absent (before : List File) (h : ∀ g ∈ before, g.name ≠ name) : Dropped name before before

/-- A file has its name for itself, on either side of it. -/
theorem Sound.exists_split {d : Directory} (hd : d.Sound) {name : String}
    (h : d.hasFile name = true) :
    ∃ before g rest, d.files = before ++ g :: rest ∧ g.name = name ∧
      (∀ f ∈ before, f.name ≠ name) ∧ ∀ f ∈ rest, f.name ≠ name := by
  obtain ⟨g, hg, rfl⟩ := List.mem_map.mp (hasFile_iff.mp h)
  obtain ⟨before, rest, hsplit⟩ := List.append_of_mem hg
  have hnodup := hd.fileNames
  rw [Directory.fileNames, hsplit, List.map_append, List.map_cons, List.nodup_middle, List.nodup_cons,
    List.mem_append, not_or] at hnodup
  refine ⟨before, g, rest, hsplit, rfl, fun f hf heq => hnodup.1.1 ?_, fun f hf heq => hnodup.1.2 ?_⟩
  · exact heq ▸ List.mem_map_of_mem hf
  · exact heq ▸ List.mem_map_of_mem hf

theorem hasFile_eq_false_iff {d : Directory} {name : String} :
    d.hasFile name = false ↔ ∀ g ∈ d.files, g.name ≠ name := by
  rw [← Bool.not_eq_true, hasFile_iff, fileNames, List.mem_map]
  push Not
  rfl

theorem Sound.placed {d : Directory} (hd : d.Sound) (f : File) : Placed f d.files (d.put f).files := by
  rw [files_put]
  split_ifs with h
  · obtain ⟨before, g, rest, hsplit, hname, hbefore, hrest⟩ := hd.exists_split h
    have hkeep : ∀ gs : List File, (∀ g ∈ gs, g.name ≠ f.name) →
        (gs.map fun g => if g.name = f.name then f else g) = gs := fun gs hgs => by
      rw [List.map_congr_left fun g hg => if_neg (hgs g hg), List.map_id']
    rw [hsplit, List.map_append, List.map_cons, hkeep before hbefore, hkeep rest hrest, if_pos hname]
    exact .over before g rest hname
  · exact .last _ (hasFile_eq_false_iff.mp (Bool.not_eq_true _ ▸ h))

theorem Sound.dropped {d : Directory} (hd : d.Sound) (name : String) :
    Dropped name d.files (d.remove name).files := by
  have hkeep : ∀ gs : List File, (∀ g ∈ gs, g.name ≠ name) → gs.filter (·.name ≠ name) = gs :=
    fun gs hgs => List.filter_eq_self.mpr fun g hg => by simpa using hgs g hg
  rw [files_remove]
  cases h : d.hasFile name with
  | true =>
    obtain ⟨before, g, rest, hsplit, hname, hbefore, hrest⟩ := hd.exists_split h
    rw [hsplit, List.filter_append, List.filter_cons_of_neg (by simpa using hname),
      hkeep before hbefore, hkeep rest hrest]
    exact .out before g rest hname
  | false =>
    rw [hkeep _ (hasFile_eq_false_iff.mp h)]
    exact .absent _ (hasFile_eq_false_iff.mp h)

end MissionShell.Directory
