import MissionShell.Proofs.Shell.Operation

/-!
# Files by name and by path

A file is found in two ways: in a given directory by its exact name, and anywhere by a spelling whose
last segment is the name. Commands make files under any word, and only some words are segments.

* `Filesystem.WellFormed.isName_of_fileAt?` : what is found by a spelling has a segment for its name;
* `Filesystem.WellFormed.fileAt?_join_iff`, `Filesystem.WellFormed.fileAt?_name_iff` : which files are
  found by the spelling of their directory and their name, and which by their name alone;
* `Shell.fileAt?_after_seed` : the same of the snapshots that lines leave, with what listings show;
* `Shell.touch_slash_unaddressable` : files that no spelling finds.
-/

namespace MissionShell

namespace Filesystem

namespace WellFormed
variable {fs : Filesystem} (h : fs.WellFormed)
include h

/-- A file that a directory holds is the one that is found under its name. -/
theorem file?_of_mem {p : Path} {d : Directory} {f : File} (hd : fs.directory? p = some d)
    (hf : f ∈ d.files) : fs.file? p f.name = some f := by
  rw [Filesystem.file?, hd, Option.bind_some]
  exact (h.sound p d hd).file?_eq_some_iff.mpr ⟨hf, rfl⟩

/-- A spelling is read segment by segment, so it finds no file whose name is not a segment. -/
theorem isName_of_fileAt? {text : String} {f : File} (hf : fs.fileAt? text = some f) :
    Path.IsName f.name := by
  have hproper : (fs.resolve text).Proper := (h.proper _ h.cwd).resolve text
  obtain ⟨name, hname, hfile⟩ := Option.bind_eq_some_iff.mp hf
  obtain ⟨d, hd, hfound⟩ := Option.bind_eq_some_iff.mp hfile
  have hsame : f.name = name := ((h.sound _ d hd).file?_eq_some_iff.mp hfound).2
  rw [hsame]
  exact hproper.name hname

variable {p : Path} {d : Directory} {f : File} (hf : f ∈ d.files)
include hf

theorem fileAt?_join_iff (hd : fs.directory? p = some d) :
    fs.fileAt? (p.toString ++ "/" ++ f.name) = some f ↔ Path.IsName f.name := by
  refine ⟨h.isName_of_fileAt?, fun hname => ?_⟩
  have hproper : p.Proper := h.proper p (hasDirectory_of_some hd)
  have hleads : fs.resolve (p.toString ++ "/" ++ f.name) = p.child f.name := by
    rw [Filesystem.resolve, Path.resolve_append_slash _ (Path.toString_ne_empty p),
      Path.resolve_toString _ hproper, Path.follow_name p hname]
  rw [fileAt?_of_resolve hleads]
  exact h.file?_of_mem hd hf

theorem fileAt?_name_iff (hd : fs.directory? fs.cwd = some d) :
    fs.fileAt? f.name = some f ↔ Path.IsName f.name := by
  refine ⟨h.isName_of_fileAt?, fun hname => ?_⟩
  rw [fileAt?_of_resolve (Path.resolve_name _ hname)]
  exact h.file?_of_mem hd hf

end WellFormed

end Filesystem

namespace Shell

/-- A listing of a file shows the operand. -/
theorem list_of_fileAt? {fs : Filesystem} {name : String} {f : File}
    (hoption : Listing.isOption name = false) (hf : fs.fileAt? name = some f) :
    Listing.run fs [name] = .ok (.print name) := by
  simp [Listing.run, Listing.Request.ofArguments, hoption, hf]

theorem showFile_of_file? {fs : Filesystem} {name : String} {f : File}
    (hf : fs.file? fs.cwd name = some f) (rest : List String) :
    showFile fs (name :: rest) = .ok (.print f.content) := by
  simp only [showFile, hf]

/-- **Which files have an address**: those whose name is a segment of its own. In the working
directory such a name alone will do, and what can be shown by it can be listed by it, unless it reads
as an option. -/
theorem fileAt?_after_seed (lines : List String) {fs : Filesystem}
    (hfs : after Filesystem.seed lines = fs) {p : Path} {d : Directory} {f : File}
    (hd : fs.directory? p = some d) (hf : f ∈ d.files) :
    (fs.fileAt? (p.toString ++ "/" ++ f.name) = some f ↔ Path.IsName f.name) ∧
      (p = fs.cwd →
        fs.file? fs.cwd f.name = some f ∧
        (fs.fileAt? f.name = some f ↔ Path.IsName f.name) ∧
        run fs "cat" [f.name] = .ok (.print f.content) ∧
        (Path.IsName f.name → Listing.isOption f.name = false →
          run fs "ls" [f.name] = .ok (.print f.name))) := by
  have hwf : fs.WellFormed := hfs ▸ (reachable_after .seed lines).wellFormed
  refine ⟨hwf.fileAt?_join_iff hf hd, ?_⟩
  rintro rfl
  have hfile := hwf.file?_of_mem hd hf
  have hname := hwf.fileAt?_name_iff hf hd
  exact ⟨hfile, hname, showFile_of_file? hfile [],
    fun hsegment hoption => list_of_fileAt? hoption (hname.mpr hsegment)⟩

/-- The directory that `touch notes` leaves at home, and the file that it makes. -/
theorem fileAt?_after_seed_notes :
    ∃ fs d f, after Filesystem.seed ["touch notes"] = fs ∧ fs.directory? Path.home = some d ∧
      f ∈ d.files ∧ Path.IsName f.name ∧ fs.fileAt? "/home/user/notes" = some f ∧
      run fs "ls" [f.name] = .ok (.print "notes") := by
  refine ⟨_, _, ⟨"notes", ""⟩, rfl, rfl, .tail _ (.tail _ (.head _)), ?_⟩
  have hname : Path.IsName "notes" := by decide
  obtain ⟨hjoin, hhere⟩ := fileAt?_after_seed ["touch notes"] rfl (p := Path.home) rfl
    (f := ⟨"notes", ""⟩) (.tail _ (.tail _ (.head _)))
  obtain ⟨-, -, -, hlist⟩ := hhere rfl
  exact ⟨hname, hjoin.mpr hname, hlist hname (by decide)⟩

/-- A file with a slash in its name is shown, but no spelling finds it and it cannot be listed; one whose
name reads as an option is shown, and listing it lists the directory. -/
theorem touch_slash_unaddressable :
    (¬ ∀ (lines : List String) (p : Path) (d : Directory) (f : File),
      (after Filesystem.seed lines).directory? p = some d → f ∈ d.files →
        (after Filesystem.seed lines).fileAt? (p.toString ++ "/" ++ f.name) = some f) ∧
      run (after Filesystem.seed ["touch a/b"]) "cat" ["a/b"] = .ok (.print "") ∧
      run (after Filesystem.seed ["touch a/b"]) "ls" ["a/b"] = .error (.cannotList "a/b") ∧
      run (after Filesystem.seed ["touch -x"]) "cat" ["-x"] = .ok (.print "") ∧
      run (after Filesystem.seed ["touch -x"]) "ls" ["-x"] =
        run (after Filesystem.seed ["touch -x"]) "ls" [] := by
  refine ⟨fun h => ?_, rfl, rfl, rfl, rfl⟩
  have hfound := h ["touch a/b"] Path.home _ ⟨"a/b", ""⟩ rfl (.tail _ (.tail _ (.head _)))
  cases hfound

end Shell

end MissionShell
