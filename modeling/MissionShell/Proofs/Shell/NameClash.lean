import MissionShell.Proofs.Shell.Operation

/-!
# Names that stand for a file and a directory at once

A directory is not made under the name of a file, but a file is made under any name: the operations
that make files look for the name among the files alone. So a name can come to stand for both.

* `Filesystem.Clashes` : a name that is a file and a subdirectory of one directory;
* `Filesystem.Shadows`, `Filesystem.Clears` : the operations that bring a clash about and end it;
* `Filesystem.WellFormed.clashes_apply_iff` : there are no others;
* `Shell.Shadowed` : the runs that leave a clash, by their lines;
* `Shell.clashes_after_seed_iff` : these are all of them;
* `Shell.mkdir_touch_clash` : the shortest such run.
-/

namespace MissionShell.Filesystem

/-- The directory `p` has both a file and a subdirectory called `name`. -/
def Clashes (fs : Filesystem) (p : Path) (name : String) : Prop :=
  ∃ d, fs.directory? p = some d ∧ name ∈ d.subdirectories ∧ d.hasFile name = true

def Operation.written? : Operation → Option String
  | .touch name => some name
  | .write name _ => some name
  | .makeDirectory _ | .changeDirectory _ | .remove _ | .record _ => none

/-- The operation puts a file into the directory `p` under the name of a subdirectory. -/
def Shadows (fs : Filesystem) (op : Operation) (p : Path) (name : String) : Prop :=
  fs.cwd = p ∧ fs.hasDirectory (p.child name) = true ∧ op.written? = some name

def Clears (fs : Filesystem) (op : Operation) (p : Path) (name : String) : Prop :=
  fs.cwd = p ∧ op = .remove name

/-! ## One operation -/

theorem clashes_congr {fs gs : Filesystem} (h : gs.directories = fs.directories) (p : Path)
    (name : String) : gs.Clashes p name ↔ fs.Clashes p name := by
  unfold Clashes directory?
  rw [h]

/-- A change to the files of one directory is a change to its clashes alone. -/
theorem clashes_modify {f : Directory → Directory} (hpath : ∀ d, (f d).path = d.path)
    (hsub : ∀ d, (f d).subdirectories = d.subdirectories) (fs : Filesystem) (p q : Path)
    (name : String) :
    (fs.modify p f).Clashes q name ↔
      ∃ d, fs.directory? q = some d ∧ name ∈ d.subdirectories ∧
        (if q = p then f d else d).hasFile name = true := by
  unfold Clashes
  rw [directory?_modify hpath]
  split_ifs with hq
  · subst hq
    constructor
    · rintro ⟨e, he, hname, hfile⟩
      obtain ⟨d, hd, rfl⟩ := Option.map_eq_some_iff.mp he
      exact ⟨d, hd, hsub d ▸ hname, hfile⟩
    · rintro ⟨d, hd, hname, hfile⟩
      refine ⟨f d, ?_, hsub d ▸ hname, hfile⟩
      rw [hd]
      rfl
  · exact Iff.rfl

theorem clashes_makeDirectory (fs : Filesystem) (text : String) (p : Path) (name : String) :
    (fs.makeDirectory text).Clashes p name ↔ fs.Clashes p name := by
  rcases fs.makeDirectory_cases text with hsame | ⟨parent, made, d, -, hd, hnew, hfile, hnext⟩
  · rw [hsame]
  · rw [hnext]
    unfold Clashes
    rw [directory?_addDirectory hnew]
    split_ifs with hp hparent
    · -- the new directory has no children, and there was none before
      have hnone : fs.directory? p = none := by
        rw [hp]
        simpa [hasDirectory] using hnew
      rw [hnone]
      constructor
      · rintro ⟨e, he, hname, -⟩
        rw [← Option.some.inj he] at hname
        cases hname
      · rintro ⟨e, he, -⟩
        cases he
    · -- the parent gets a subdirectory, under a name that none of its files has
      rw [hparent, hd]
      constructor
      · rintro ⟨e, he, hname, hclash⟩
        rw [← Option.some.inj he] at hname hclash
        rw [Directory.hasFile_enroll] at hclash
        rw [Directory.subdirectories_enroll, List.mem_append, List.mem_singleton] at hname
        rcases hname with hname | rfl
        · exact ⟨d, rfl, hname, hclash⟩
        · rw [hclash] at hfile
          cases hfile
      · rintro ⟨e, he, hname, hclash⟩
        rw [← Option.some.inj he] at hname hclash
        refine ⟨d.enroll made, rfl, ?_, ?_⟩
        · rw [Directory.subdirectories_enroll]
          exact List.mem_append_left _ hname
        · rw [Directory.hasFile_enroll, hclash]
    · exact Iff.rfl

namespace WellFormed
variable {fs : Filesystem} (h : fs.WellFormed)
include h

theorem clashes_write (written content : String) (p : Path) (name : String) :
    (fs.write written content).Clashes p name ↔
      fs.Clashes p name ∨
        fs.cwd = p ∧ fs.hasDirectory (p.child name) = true ∧ written = name := by
  rw [write_eq h.cwd,
    clashes_modify (f := (·.put ⟨written, content⟩)) (fun _ => rfl) fun d => d.subdirectories_put _]
  constructor
  · rintro ⟨d, hd, hname, hfile⟩
    split_ifs at hfile with hp
    · rcases Directory.hasFile_put.mp hfile with hwritten | hold
      · exact Or.inr ⟨hp.symm, (h.enrolled p d hd name).mp hname, hwritten.symm⟩
      · exact Or.inl ⟨d, hd, hname, hold⟩
    · exact Or.inl ⟨d, hd, hname, hfile⟩
  · rintro (⟨d, hd, hname, hfile⟩ | ⟨rfl, hbelow, rfl⟩)
    · refine ⟨d, hd, hname, ?_⟩
      split_ifs
      · exact Directory.hasFile_put.mpr (Or.inr hfile)
      · exact hfile
    · obtain ⟨d, hd⟩ := hasDirectory_iff.mp h.cwd
      refine ⟨d, hd, (h.enrolled _ d hd written).mpr hbelow, ?_⟩
      rw [if_pos rfl]
      exact Directory.hasFile_put.mpr (Or.inl rfl)

theorem clashes_remove (removed : String) (p : Path) (name : String) :
    (fs.remove removed).Clashes p name ↔
      fs.Clashes p name ∧ ¬ (fs.cwd = p ∧ removed = name) := by
  obtain ⟨c, hc⟩ := hasDirectory_iff.mp h.cwd
  rw [remove_eq hc]
  split_ifs with hremoved
  · rw [clashes_modify (f := (·.remove removed)) (fun _ => rfl) fun d => d.subdirectories_remove _]
    constructor
    · rintro ⟨d, hd, hname, hfile⟩
      split_ifs at hfile with hp
      · obtain ⟨hne, hold⟩ := Directory.hasFile_remove.mp hfile
        exact ⟨⟨d, hd, hname, hold⟩, fun ⟨_, heq⟩ => hne heq.symm⟩
      · exact ⟨⟨d, hd, hname, hfile⟩, fun ⟨hcwd, _⟩ => hp hcwd.symm⟩
    · rintro ⟨⟨d, hd, hname, hfile⟩, hkeep⟩
      refine ⟨d, hd, hname, ?_⟩
      split_ifs with hp
      · exact Directory.hasFile_remove.mpr ⟨fun heq => hkeep ⟨hp.symm, heq.symm⟩, hfile⟩
      · exact hfile
  · -- there was no such file, so there was no clash over it either
    constructor
    · intro hclash
      refine ⟨hclash, ?_⟩
      rintro ⟨rfl, rfl⟩
      obtain ⟨d, hd, -, hfile⟩ := hclash
      rw [hc] at hd
      rw [← Option.some.inj hd] at hfile
      exact hremoved hfile
    · exact And.left

/-- **What one operation does to the clashes.** They come from files put under the names of
subdirectories and go with the removal of these files. -/
theorem clashes_apply_iff (op : Operation) (p : Path) (name : String) :
    (fs.apply op).Clashes p name ↔
      fs.Clashes p name ∧ ¬ fs.Clears op p name ∨ fs.Shadows op p name := by
  unfold Clears Shadows
  cases op with
  | makeDirectory text =>
    rw [Filesystem.apply, clashes_makeDirectory]
    simp [Operation.written?]
  | changeDirectory text =>
    have hdirs : (fs.changeDirectory text).directories = fs.directories := by
      rw [changeDirectory_eq]
      split_ifs <;> rfl
    rw [Filesystem.apply, clashes_congr hdirs]
    simp [Operation.written?]
  | touch written =>
    rw [Filesystem.apply, touch_eq_write, h.clashes_write]
    simp [Operation.written?]
  | write written content =>
    rw [Filesystem.apply, h.clashes_write]
    simp [Operation.written?]
  | remove removed =>
    rw [Filesystem.apply, h.clashes_remove]
    simp [Operation.written?]
  | record entry =>
    have hdirs : (fs.record entry).directories = fs.directories := rfl
    rw [Filesystem.apply, clashes_congr hdirs]
    simp [Operation.written?]

end WellFormed

theorem not_clashes_seed (p : Path) (name : String) : ¬ seed.Clashes p name := by
  rintro ⟨d, hd, hname, hfile⟩
  have hmem : d ∈ seed.directories := mem_of_directory? hd
  -- the two upper directories have no files, and home has no subdirectories
  simp only [seed, List.mem_cons, List.not_mem_nil, or_false] at hmem
  rcases hmem with rfl | rfl | rfl
  · cases hfile
  · cases hfile
  · cases hname

end MissionShell.Filesystem

namespace MissionShell.Shell
open Filesystem (Clashes WellFormed)

/-! ## One line -/

def Shadows (fs : Filesystem) (line : String) (p : Path) (name : String) : Prop :=
  ∃ op, operation? line = some op ∧ fs.Shadows op p name

def Clears (fs : Filesystem) (line : String) (p : Path) (name : String) : Prop :=
  ∃ op, operation? line = some op ∧ fs.Clears op p name

theorem clashes_next_iff {fs : Filesystem} (h : fs.WellFormed) (line : String) (p : Path)
    (name : String) :
    (next fs line).Clashes p name ↔
      fs.Clashes p name ∧ ¬ Clears fs line p name ∨ Shadows fs line p name := by
  rw [next_eq]
  unfold Clears Shadows
  cases operation? line with
  | none => simp
  | some op => simpa using h.clashes_apply_iff op p name

/-! ## Runs -/

/-- Some line of the run puts a file into the directory `p` under the name of a subdirectory, and no
line after it removes the file. -/
def Shadowed (fs : Filesystem) (lines : List String) (p : Path) (name : String) : Prop :=
  ∃ before line rest, lines = before ++ line :: rest ∧ Shadows (after fs before) line p name ∧
    ∀ earlier other later, rest = earlier ++ other :: later →
      ¬ Clears (after fs (before ++ line :: earlier)) other p name

theorem shadowed_append_singleton (fs : Filesystem) (lines : List String) (last : String) (p : Path)
    (name : String) :
    Shadowed fs (lines ++ [last]) p name ↔
      Shadowed fs lines p name ∧ ¬ Clears (after fs lines) last p name ∨
        Shadows (after fs lines) last p name := by
  constructor
  · rintro ⟨before, line, rest, hsplit, hshadow, hkeep⟩
    rcases List.eq_nil_or_concat rest with rfl | ⟨middle, final, rfl⟩
    · -- the last line is the one that puts the file there
      obtain ⟨rfl, hlast⟩ := List.append_inj' hsplit rfl
      rw [List.singleton_inj.mp hlast]
      exact Or.inr hshadow
    · rw [List.concat_eq_append, ← List.cons_append, ← List.append_assoc] at hsplit
      obtain ⟨hlines, hlast⟩ := List.append_inj' hsplit rfl
      rw [← List.singleton_inj.mp hlast] at hkeep
      refine Or.inl ⟨⟨before, line, middle, hlines, hshadow, ?_⟩, ?_⟩
      · rintro earlier other later rfl
        exact hkeep earlier other (later ++ [last]) (by simp)
      · rw [hlines]
        exact hkeep middle last [] (by simp)
  · rintro (⟨⟨before, line, rest, rfl, hshadow, hkeep⟩, hlast⟩ | hshadow)
    · refine ⟨before, line, rest ++ [last], by simp, hshadow, ?_⟩
      intro earlier other later hsplit
      rcases List.eq_nil_or_concat later with rfl | ⟨middle, final, rfl⟩
      · obtain ⟨rfl, hother⟩ := List.append_inj' hsplit rfl
        rw [← List.singleton_inj.mp hother]
        exact hlast
      · rw [List.concat_eq_append, ← List.cons_append, ← List.append_assoc] at hsplit
        exact hkeep earlier other middle (List.append_inj' hsplit rfl).1
    · refine ⟨lines, last, [], rfl, hshadow, ?_⟩
      intro earlier other later hsplit
      cases earlier <;> cases hsplit

theorem clashes_after_iff {fs : Filesystem} (h : fs.Reachable) {p : Path} {name : String}
    (hnone : ¬ fs.Clashes p name) (lines : List String) :
    (after fs lines).Clashes p name ↔ Shadowed fs lines p name := by
  induction lines using List.reverseRecOn with
  | nil =>
    constructor
    · exact fun hclash => absurd hclash hnone
    · rintro ⟨before, line, rest, hsplit, -⟩
      simp at hsplit
  | append_singleton lines line ih =>
    rw [after_append_singleton, clashes_next_iff (reachable_after h lines).wellFormed, ih,
      shadowed_append_singleton]

/-- **When a name stands for a file and a directory at once.** From the seed on, the clashes are
those of the files that were put under the names of subdirectories and have not been removed. -/
theorem clashes_after_seed_iff (lines : List String) (p : Path) (name : String) :
    (after Filesystem.seed lines).Clashes p name ↔ Shadowed Filesystem.seed lines p name :=
  clashes_after_iff .seed (Filesystem.not_clashes_seed p name) lines

/-- A directory is made, and then a file of its name. -/
theorem mkdir_touch_clash :
    ¬ ∀ (lines : List String) (p : Path) (d : Directory),
      (after Filesystem.seed lines).directory? p = some d →
        ∀ name ∈ d.subdirectories, d.hasFile name = false := by
  intro h
  have hfile := h ["mkdir d", "touch d"] Path.home _ rfl "d" (List.mem_singleton.mpr rfl)
  cases hfile

end MissionShell.Shell
