import MissionShell.Proofs.Shell.Success

/-!
# Finding the way

A spelling is read from a working directory, and what it leads to has a canonical spelling of its own.
That spelling means the same everywhere, and two spellings that are followed one after the other lead
where the second behind the first does.

* `Path.normalize_of_relative` : the text that is read is the working directory, a slash and the spelling;
* `Path.canonical_normalize`, `Path.normalize_normalize`, `Path.normalize_append_slash` : the canonical
  spelling, where it leads and how it composes;
* `Filesystem.changeDirectory_append_slash` : two moves in one;
* `Path.normalize_composes` : all of it, with the moves of the shell.
-/

namespace MissionShell

namespace Path

/-! ## Canonical spellings -/

theorem proper_parse (text : String) : (parse text).Proper := proper_root.follow text

theorem parse_normalize (text cwd : String) :
    parse (normalize text cwd) = (parse cwd).resolve text :=
  parse_toString ((proper_parse cwd).resolve text)

theorem normalize_of_absolute {text : String} (h : isAbsolute text = true) (cwd : String) :
    normalize text cwd = (parse text).toString := by
  rw [normalize, resolve, if_pos h]

/-- A spelling that does not start with a slash is read behind the working directory and a slash. -/
theorem normalize_of_relative {text : String} (h : isAbsolute text = false) (cwd : String) :
    normalize text cwd = (parse (cwd ++ "/" ++ text)).toString := by
  rw [normalize, resolve, if_neg (by simp [h]), parse, parse, follow_append_slash]

theorem canonical_normalize (text cwd : String) : Canonical (normalize text cwd) :=
  canonical_toString ((proper_parse cwd).resolve text)

/-- A canonical spelling is its own, wherever it is read. -/
theorem normalize_normalize (text cwd other : String) :
    normalize (normalize text cwd) other = normalize text cwd := by
  have habsolute : isAbsolute (normalize text cwd) = true := isAbsolute_toString _
  rw [normalize_of_absolute habsolute, parse_normalize, ← normalize]

/-- What is relative is read from where the spelling before it leads. -/
theorem resolve_resolve {first second : String} (hfirst : first ≠ "")
    (hsecond : isAbsolute second = false) (p : Path) :
    (p.resolve first).resolve second = p.resolve (first ++ "/" ++ second) := by
  rw [resolve_append_slash p hfirst, resolve, if_neg (by simp [hsecond])]

theorem normalize_append_slash {first second : String} (hfirst : first ≠ "")
    (hsecond : isAbsolute second = false) (cwd : String) :
    normalize second (normalize first cwd) = normalize (first ++ "/" ++ second) cwd := by
  rw [normalize, parse_normalize, resolve_resolve hfirst hsecond, normalize]

end Path

/-! ## Moving about -/

namespace Filesystem

/-- Two moves that both lead to a directory, the second from where the first has led. -/
theorem changeDirectory_append_slash {fs : Filesystem} {first second : String} (hfirst : first ≠ "")
    (hsecond : Path.isAbsolute second = false)
    (hthere : fs.hasDirectory (fs.resolve first) = true)
    (hfurther : (fs.changeDirectory first).hasDirectory ((fs.changeDirectory first).resolve second) =
      true) :
    fs.hasDirectory (fs.resolve (first ++ "/" ++ second)) = true ∧
      fs.changeDirectory (first ++ "/" ++ second) =
        (fs.changeDirectory first).changeDirectory second := by
  have hmove : fs.changeDirectory first = { fs with cwd := fs.resolve first } := by
    rw [changeDirectory_eq, if_pos hthere]
  have hplace : (fs.changeDirectory first).resolve second = fs.resolve (first ++ "/" ++ second) := by
    rw [hmove]
    exact Path.resolve_resolve hfirst hsecond fs.cwd
  have hthrough : fs.hasDirectory (fs.resolve (first ++ "/" ++ second)) = true := by
    rw [hplace, hmove] at hfurther
    exact hfurther
  refine ⟨hthrough, ?_⟩
  rw [changeDirectory_eq, if_pos hthrough, changeDirectory_eq (fs.changeDirectory first),
    if_pos hfurther, hplace, hmove]

end Filesystem

namespace Shell

theorem changeDirectory_eq_ok_iff {fs gs : Filesystem} {text : String} {rest : List String} :
    changeDirectory fs (text :: rest) = .ok (.become gs) ↔
      fs.hasDirectory (fs.resolve text) = true ∧ gs = fs.changeDirectory text := by
  unfold changeDirectory
  dsimp only [List.head?_cons, Option.getD_some]
  split_ifs with h
  · simp [h, eq_comm]
  · simp [h]

end Shell

/-- **Spellings are resolved canonically**: the text that is read has a canonical spelling for its result,
which means the same wherever it is read, and results compose like texts. So two moves of the shell that
succeed, the second relative, are a single one. -/
theorem Path.normalize_composes :
    (∀ text cwd, isAbsolute text = false →
        normalize text cwd = (parse (cwd ++ "/" ++ text)).toString) ∧
      (∀ text cwd, Canonical (normalize text cwd)) ∧
      (∀ text cwd other, normalize (normalize text cwd) other = normalize text cwd) ∧
      (∀ first second cwd, first ≠ "" → isAbsolute second = false →
        normalize second (normalize first cwd) = normalize (first ++ "/" ++ second) cwd) ∧
      ∀ (fs gs hs : Filesystem) (first second : String), fs.Reachable → first ≠ "" →
        isAbsolute second = false →
        Shell.changeDirectory fs [first] = .ok (.become gs) →
        Shell.changeDirectory gs [second] = .ok (.become hs) →
        fs.changeDirectory (first ++ "/" ++ second) = hs ∧
          Shell.changeDirectory fs [first ++ "/" ++ second] = .ok (.become hs) ∧
          hs.cwd.toString = normalize (first ++ "/" ++ second) fs.cwd.toString := by
  refine ⟨fun _ cwd h => normalize_of_relative h cwd, canonical_normalize, normalize_normalize,
    fun _ _ cwd hfirst hsecond => normalize_append_slash hfirst hsecond cwd, ?_⟩
  intro fs gs hs first second hreach hfirst hsecond hone htwo
  obtain ⟨hthere, rfl⟩ := Shell.changeDirectory_eq_ok_iff.mp hone
  obtain ⟨hfurther, rfl⟩ := Shell.changeDirectory_eq_ok_iff.mp htwo
  obtain ⟨hthrough, hsame⟩ :=
    Filesystem.changeDirectory_append_slash hfirst hsecond hthere hfurther
  refine ⟨hsame, Shell.changeDirectory_eq_ok_iff.mpr ⟨hthrough, hsame.symm⟩, ?_⟩
  rw [← hsame, ← hreach.wellFormed.toString_resolve, Filesystem.changeDirectory_eq, if_pos hthrough]

/-- Two moves with detours, through the directory above and back into a new one. -/
theorem Path.normalize_composes_detour :
    (Filesystem.seed.apply (.makeDirectory "ops")).Reachable ∧ "..//user/." ≠ "" ∧
      isAbsolute "../user/ops/" = false ∧
      normalize "../user/ops/" (normalize "..//user/." "/home/user") = "/home/user/ops" ∧
      ∃ gs hs, Shell.changeDirectory (Filesystem.seed.apply (.makeDirectory "ops")) ["..//user/."] =
          .ok (.become gs) ∧
        Shell.changeDirectory gs ["../user/ops/"] = .ok (.become hs) ∧
        (Filesystem.seed.apply (.makeDirectory "ops")).changeDirectory "..//user/./../user/ops/" = hs ∧
        hs.cwd.toString = "/home/user/ops" := by
  obtain ⟨-, -, -, hcompose, hmoves⟩ := normalize_composes
  have hreach := Filesystem.Reachable.seed.apply (.makeDirectory "ops")
  have hfirst : "..//user/." ≠ "" := by decide
  have hsecond : isAbsolute "../user/ops/" = false := by decide
  obtain ⟨hsame, -, hspelling⟩ := hmoves _ _ _ _ _ hreach hfirst hsecond rfl rfl
  refine ⟨hreach, hfirst, hsecond, ?_, _, _, rfl, rfl, hsame, ?_⟩
  · rw [hcompose _ _ _ hfirst hsecond]
    rfl
  · rw [hspelling]
    rfl

end MissionShell
