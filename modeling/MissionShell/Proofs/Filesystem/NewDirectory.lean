import MissionShell.Proofs.Filesystem.PointUpdate

/-!
# Making a directory

A directory can be made below one that is there, under a name that nothing has. Where that fails, the
reason is found on a walk up to the nearest directory, and it tells whether a file stands anywhere above
in the place of a directory.

* `Filesystem.Gains` : nothing has changed but that one directory more is there;
* `Path.Above`, `Filesystem.Vacant`, `Filesystem.Occupied`, `Filesystem.Obstructed` : what can be found at a
  path and above it;
* `Filesystem.Climb`, `Filesystem.WellFormed.climb_missingCause` : the walk up, step by step on spellings;
* `Filesystem.WellFormed.missingCause_eq_notADirectory_iff` : what it tells;
* `Filesystem.Prevents` : what is in the way, for each cause;
* `Filesystem.MakesDirectory`, `Filesystem.Reachable.makesDirectory` : when a directory is made, what then is
  different, and why it is not made otherwise.
-/

namespace MissionShell

/-! ## The directories above -/

/-- `q` is passed on the way from the root to `p`. -/
def Path.Above (q p : Path) : Prop := q.segments <+: p.segments ∧ q ≠ p

theorem Path.not_above_root (q : Path) : ¬ q.Above root := by
  rintro ⟨hbelow, hne⟩
  exact hne (congrArg Path.mk (List.prefix_nil.mp hbelow))

theorem Path.above_child_iff {q p : Path} {name : String} :
    q.Above (p.child name) ↔ q = p ∨ q.Above p := by
  have hchild : q.segments = p.segments ++ [name] ↔ q = p.child name :=
    ⟨fun h => congrArg Path.mk h, fun h => congrArg Path.segments h⟩
  have hlong : q.segments <+: p.segments → q ≠ p.child name := by
    rintro hbelow rfl
    have hlength := hbelow.length_le
    simp only [Path.child, List.length_append, List.length_singleton] at hlength
    omega
  rw [Path.Above, Path.Above, Path.child, List.prefix_concat_iff, hchild, ← Path.child]
  constructor
  · rintro ⟨hsame | hbelow, hne⟩
    · exact absurd hsame hne
    · exact (eq_or_ne q p).imp_right fun h => ⟨hbelow, h⟩
  · rintro (rfl | ⟨hbelow, -⟩)
    · exact ⟨Or.inr (List.prefix_refl _), hlong (List.prefix_refl _)⟩
    · exact ⟨Or.inr hbelow, hlong hbelow⟩

namespace Filesystem

/-- All that is passed on the way to a directory are directories. -/
theorem WellFormed.hasDirectory_above {fs : Filesystem} (h : fs.WellFormed) {p q : Path}
    (hp : fs.hasDirectory p = true) (hq : q.Above p) : fs.hasDirectory q = true := by
  induction p using Path.childInduction with
  | root => exact absurd hq (Path.not_above_root q)
  | child p name ih =>
    have hparent := h.parent _ hp
    rw [Path.parent_child] at hparent
    rcases Path.above_child_iff.mp hq with rfl | habove
    · exact hparent
    · exact ih hparent habove

/-! ## One directory more -/

/-- From `fs` to `gs` nothing has changed but that the empty directory `p` is there, as the last child of its
parent. -/
structure Gains (fs gs : Filesystem) (p : Path) : Prop where
  new : p.toString ∉ fs.directoryPaths
  directoryPaths : gs.directoryPaths.Perm (p.toString :: fs.directoryPaths)
  made : gs.directory? p = some (Directory.empty p)
  enrolled : ∃ name d, p.name? = some name ∧ fs.directory? p.parent = some d ∧
    gs.directory? p.parent = some { d with entries := d.entries ++ [.directory name] }
  directory? : ∀ q, q ≠ p → q ≠ p.parent → gs.directory? q = fs.directory? q
  filesIn : ∀ q, gs.filesIn q = fs.filesIn q
  file? : ∀ q name, gs.file? q name = fs.file? q name
  cwd : gs.cwd = fs.cwd
  history : gs.history = fs.history

theorem directoryPaths_addDirectory (fs : Filesystem) (parent : Path) (name : String) :
    (fs.addDirectory parent name).directoryPaths.Perm
      ((parent.child name).toString :: fs.directoryPaths) := by
  rw [directoryPaths_eq, directoryPaths_eq, map_path_addDirectory, List.map_append]
  refine (List.mergeSort_perm _ _).trans ?_
  refine (List.perm_append_singleton _ _).trans ?_
  exact (List.mergeSort_perm _ _).symm.cons _

theorem filesIn_addDirectory {fs : Filesystem} {parent : Path} {name : String}
    (hnew : fs.hasDirectory (parent.child name) = false) (p : Path) :
    (fs.addDirectory parent name).filesIn p = fs.filesIn p := by
  rw [filesIn, filesIn, directory?_addDirectory hnew]
  split_ifs with hp hparent
  · rw [hp, hasDirectory_eq_false_iff.mp hnew]
    rfl
  · rw [Option.map_map]
    congr 2
    funext d
    exact d.files_enroll name
  · rfl

/-- The files of a directory are all that is needed to find one. -/
theorem file?_eq_find?_filesIn (fs : Filesystem) (p : Path) (name : String) :
    fs.file? p name = (fs.filesIn p).find? (·.name = name) := by
  rw [Filesystem.file?, filesIn]
  cases fs.directory? p <;> rfl

/-- The spelling of a new directory is new. -/
theorem WellFormed.toString_notMem {fs : Filesystem} (h : fs.WellFormed) {p : Path}
    (hp : p.Proper) (hnew : fs.hasDirectory p = false) : p.toString ∉ fs.directoryPaths := by
  rw [mem_directoryPaths]
  rintro ⟨q, hq, hspell⟩
  have hsame : q = p := (Path.toString_inj (h.proper q hq) hp).mp hspell
  rw [hsame, hnew] at hq
  cases hq

theorem WellFormed.gains_addDirectory {fs : Filesystem} (h : fs.WellFormed) {parent : Path}
    {name : String} {d : Directory} (hd : fs.directory? parent = some d)
    (hproper : (parent.child name).Proper) (hnew : fs.hasDirectory (parent.child name) = false) :
    fs.Gains (fs.addDirectory parent name) (parent.child name) := by
  have hfind := directory?_addDirectory hnew
  have hself : parent ≠ parent.child name := by
    rintro heq
    rw [← heq, hasDirectory_of_some hd] at hnew
    cases hnew
  have hfiles := filesIn_addDirectory hnew
  refine ⟨h.toString_notMem hproper hnew, fs.directoryPaths_addDirectory parent name, ?_, ?_, ?_,
    hfiles, fun q other => ?_, rfl, rfl⟩
  · rw [hfind, if_pos rfl]
  · refine ⟨name, d, Path.name?_child _ _, by rw [Path.parent_child, hd], ?_⟩
    rw [Path.parent_child, hfind, if_neg hself, if_pos rfl, hd]
    rfl
  · intro q hq hparent
    rw [Path.parent_child] at hparent
    rw [hfind, if_neg hq, if_neg hparent]
  · rw [file?_eq_find?_filesIn, hfiles, ← file?_eq_find?_filesIn]

/-! ## What stands in the way -/

/-- There is room for the directory `p`: its parent is there, and nothing below it has its name. -/
structure Vacant (fs : Filesystem) (p : Path) : Prop where
  new : fs.hasDirectory p = false
  parent : fs.hasDirectory p.parent = true
  free : ∀ name, p.name? = some name → fs.file? p.parent name = none

def Occupied (fs : Filesystem) (p : Path) : Prop :=
  fs.hasDirectory p = true ∨ (fs.fileAt? p.toString).isSome = true

/-- On the way to `p` there is a file where no directory is. -/
def Obstructed (fs : Filesystem) (p : Path) : Prop :=
  ∃ q, q.Above p ∧ fs.hasDirectory q = false ∧ (fs.fileAt? q.toString).isSome = true

theorem fileAt?_toString_child {fs : Filesystem} {p : Path} {name : String}
    (hp : (p.child name).Proper) : fs.fileAt? (p.child name).toString = fs.file? p name :=
  fileAt?_of_resolve (Path.resolve_toString _ hp)

theorem obstructed_child_iff {fs : Filesystem} {p : Path} {name : String} :
    fs.Obstructed (p.child name) ↔
      fs.hasDirectory p = false ∧ (fs.fileAt? p.toString).isSome = true ∨ fs.Obstructed p := by
  simp only [Obstructed, Path.above_child_iff, or_and_right, exists_or, exists_eq_left]

/-- Nothing stands in the way to what is below a directory. -/
theorem WellFormed.not_obstructed {fs : Filesystem} (h : fs.WellFormed) {p : Path}
    (hparent : fs.hasDirectory p.parent = true) : ¬ fs.Obstructed p := by
  rintro ⟨q, hq, hnone, -⟩
  obtain ⟨name, hname⟩ := Path.exists_eq_child (p := p) fun hroot => Path.not_above_root q (hroot ▸ hq)
  have hthere : fs.hasDirectory q = true := by
    rcases Path.above_child_iff.mp (hname ▸ hq) with rfl | habove
    · exact hparent
    · exact h.hasDirectory_above hparent habove
  rw [hnone] at hthere
  cases hthere

/-! ## The walk up -/

/-- The walk up from the spelling `text`: if the directory that should hold it is there, the walk ends with
what it finds in it, and if not, it goes on from there. -/
inductive Climb (fs : Filesystem) : String → MakeDirectoryError → Prop where
  | top : Climb fs "/" .notFound
  | met {text : String} {d : Directory} (htext : text ≠ "/") (hd : d ∈ fs.directories)
    (hpath : d.path.toString = Path.spellParent text) :
    Climb fs text (if d.hasFile (Path.spellName text) then .notADirectory else .notFound)
  | up {text : String} {cause : MakeDirectoryError} (htext : text ≠ "/")
    (hnone : Path.spellParent text ∉ fs.directoryPaths) (h : Climb fs (Path.spellParent text) cause) :
    Climb fs text cause

theorem missingCause_child (fs : Filesystem) (p : Path) (name : String) :
    fs.missingCause (p.child name).segments.reverse =
      match fs.directory? p with
      | some d => if d.hasFile name then .notADirectory else .notFound
      | none => fs.missingCause p.segments.reverse := by
  cases hd : fs.directory? p <;>
    simp only [Path.child, List.reverse_append, List.reverse_singleton, List.singleton_append,
      missingCause, List.reverse_reverse, hd]

/-- The walk ends, wherever it begins, with the cause that is reported. -/
theorem WellFormed.climb_missingCause {fs : Filesystem} (h : fs.WellFormed) {p : Path}
    (hp : p.Proper) : fs.Climb p.toString (fs.missingCause p.segments.reverse) := by
  -- the walk goes by spellings and the cause by segments: each step takes the last one off both
  induction p using Path.childInduction with
  | root => exact .top
  | child p name ih =>
    have hproper : p.Proper := by simpa using hp.parent
    have hname : Path.IsName name := hp.name (Path.name?_child p name)
    have hslash : (p.child name).toString ≠ "/" := fun heq =>
      Path.child_ne_root p name ((Path.toString_eq_slash hp).mp heq)
    have hparent : Path.spellParent (p.child name).toString = p.toString := by
      rw [Path.toString_child hproper,
        Path.spellParent_spellChild (Path.toString_ne_empty p) hname.slash_notMem]
    have hlast : Path.spellName (p.child name).toString = name := by
      rw [Path.toString_child hproper, Path.spellName_spellChild _ hname.slash_notMem]
    rw [missingCause_child]
    cases hd : fs.directory? p with
    | some d =>
      have hspell : d.path.toString = Path.spellParent (p.child name).toString := by
        rw [path_of_directory? hd, hparent]
      have hmet := Climb.met hslash (mem_of_directory? hd) hspell
      rwa [hlast] at hmet
    | none =>
      have hnone := hasDirectory_eq_false_iff.mpr hd
      refine .up hslash ?_ ?_
      · rw [hparent]
        exact h.toString_notMem hproper hnone
      · rw [hparent]
        exact ih hproper

theorem missingCause_cases (fs : Filesystem) (up : List String) :
    fs.missingCause up = .notADirectory ∨ fs.missingCause up = .notFound := by
  induction up with
  | nil => exact Or.inr rfl
  | cons name up ih =>
    unfold missingCause
    split
    · split_ifs
      · exact Or.inl rfl
      · exact Or.inr rfl
    · exact ih

/-- The nearest directory is enough to know whether a file stands in the way anywhere. -/
theorem WellFormed.missingCause_eq_notADirectory_iff {fs : Filesystem} (h : fs.WellFormed) {p : Path}
    (hp : p.Proper) (hnone : fs.hasDirectory p = false) (name : String) :
    fs.missingCause p.segments.reverse = .notADirectory ↔ fs.Obstructed (p.child name) := by
  induction p using Path.childInduction generalizing name with
  | root =>
    rw [h.root] at hnone
    cases hnone
  | child p last ih =>
    have hproper : p.Proper := by simpa using hp.parent
    rw [missingCause_child, obstructed_child_iff, fileAt?_toString_child hp, Filesystem.file?]
    cases hd : fs.directory? p with
    | some d =>
      -- above the nearest directory there are directories only, so the walk misses nothing by ending here
      have hclear : ¬ fs.Obstructed (p.child last) :=
        h.not_obstructed (by rw [Path.parent_child, hasDirectory_of_some hd])
      have hfile : ((some d).bind (·.file? last)).isSome = d.hasFile last := rfl
      simp only [hnone, hclear, hfile, true_and, or_false]
      cases d.hasFile last <;> simp
    | none =>
      have hbefore := hasDirectory_eq_false_iff.mpr hd
      simp [ih hproper hbefore last]

/-! ## Outcomes -/

/-- What is at the path `p` or above it that prevents a directory there, for each cause. -/
def Prevents (fs : Filesystem) (p : Path) : MakeDirectoryError → Prop
  | .alreadyExists => fs.Occupied p
  | .notADirectory => fs.Obstructed p
  | .notFound => fs.hasDirectory p.parent = false ∧ ¬ fs.Obstructed p

/-- A directory that there is no room for is prevented by something. -/
theorem vacant_or_prevents (fs : Filesystem) {p : Path} (hp : p.Proper) :
    fs.Vacant p ∨ ∃ cause, fs.Prevents p cause := by
  by_cases hobstructed : fs.Obstructed p
  · exact Or.inr ⟨.notADirectory, hobstructed⟩
  by_cases hoccupied : fs.Occupied p
  · exact Or.inr ⟨.alreadyExists, hoccupied⟩
  cases hparent : fs.hasDirectory p.parent with
  | false => exact Or.inr ⟨.notFound, hparent, hobstructed⟩
  | true =>
    rw [Occupied, not_or, Bool.not_eq_true, Bool.not_eq_true] at hoccupied
    refine Or.inl ⟨hoccupied.1, hparent, fun name hname => ?_⟩
    obtain ⟨last, hlast⟩ := Path.exists_eq_child (p := p) (by rintro rfl; cases hname)
    rw [hlast, Path.name?_child, Option.some_inj] at hname
    rw [hname] at hlast
    rw [hlast] at hp hoccupied
    rw [fileAt?_toString_child hp, Option.isSome_eq_false_iff, Option.isNone_iff_eq_none]
      at hoccupied
    exact hoccupied.2

namespace WellFormed
variable {fs : Filesystem} (h : fs.WellFormed) {text : String}
include h

theorem proper_resolve (text : String) : (fs.resolve text).Proper :=
  (h.proper _ h.cwd).resolve text

/-- What is no directory is below something. -/
theorem exists_eq_child {p : Path} (hnew : fs.hasDirectory p = false) :
    ∃ name, p = p.parent.child name := by
  refine Path.exists_eq_child fun hroot => ?_
  rw [hroot, h.root] at hnew
  cases hnew

theorem makeDirectory?_of_vacant (hvacant : fs.Vacant (fs.resolve text)) :
    ∃ next, fs.makeDirectory? text = .ok next ∧ fs.Gains next (fs.resolve text) := by
  obtain ⟨hnew, hparent, hfree⟩ := hvacant
  obtain ⟨name, hname⟩ := h.exists_eq_child hnew
  obtain ⟨d, hd⟩ := hasDirectory_iff.mp hparent
  have hfile : d.hasFile name = false := by
    have hnone := hfree name (by rw [hname, Path.name?_child])
    rw [Filesystem.file?, hd, Option.bind_some] at hnone
    rw [Directory.hasFile, hnone]
    rfl
  have hproper := h.proper_resolve text
  rw [hname] at hproper hnew
  have hgains := h.gains_addDirectory hd hproper hnew
  rw [← hname] at hgains
  refine ⟨_, ?_, hgains⟩
  rw [makeDirectory?_of_resolve hname, hnew, hd]
  simp [hfile]

theorem makeDirectory?_of_occupied (hoccupied : fs.Occupied (fs.resolve text)) :
    fs.makeDirectory? text = .error .alreadyExists := by
  cases hnew : fs.hasDirectory (fs.resolve text) with
  | true => exact makeDirectory?_of_hasDirectory hnew
  | false =>
    obtain ⟨name, hname⟩ := h.exists_eq_child hnew
    have hproper := h.proper_resolve text
    rw [Occupied, hnew] at hoccupied
    rw [hname] at hproper hnew hoccupied
    rw [fileAt?_toString_child hproper, Filesystem.file?] at hoccupied
    rw [makeDirectory?_of_resolve hname, hnew]
    cases hd : fs.directory? (fs.resolve text).parent with
    | none => simp [hd] at hoccupied
    | some d =>
      have hfile : d.hasFile name = true := by simpa [hd, Directory.hasFile] using hoccupied
      simp [hfile]

/-- Below a directory that is missing, the walk up gives the cause. -/
theorem makeDirectory?_of_missing (hmissing : fs.hasDirectory (fs.resolve text).parent = false) :
    fs.makeDirectory? text = .error (fs.missingCause (fs.resolve text).parent.segments.reverse) ∧
      (fs.missingCause (fs.resolve text).parent.segments.reverse = .notADirectory ↔
        fs.Obstructed (fs.resolve text)) := by
  have hnew : fs.hasDirectory (fs.resolve text) = false := by
    by_contra hthere
    have hparent := h.parent _ (by simpa using hthere)
    rw [hmissing] at hparent
    cases hparent
  obtain ⟨name, hname⟩ := h.exists_eq_child hnew
  have hnone := hasDirectory_eq_false_iff.mp hmissing
  constructor
  · rw [hname] at hnew
    rw [makeDirectory?_of_resolve hname, hnew, hnone]
    rfl
  · conv_rhs => rw [hname]
    exact h.missingCause_eq_notADirectory_iff (h.proper_resolve text).parent hmissing name

theorem makeDirectory?_of_obstructed (hobstructed : fs.Obstructed (fs.resolve text)) :
    fs.makeDirectory? text = .error .notADirectory := by
  have hmissing : fs.hasDirectory (fs.resolve text).parent = false := by
    by_contra hthere
    exact h.not_obstructed (by simpa using hthere) hobstructed
  obtain ⟨hcause, hiff⟩ := h.makeDirectory?_of_missing hmissing
  rw [hcause, hiff.mpr hobstructed]

theorem makeDirectory?_of_not_obstructed (hmissing : fs.hasDirectory (fs.resolve text).parent = false)
    (hclear : ¬ fs.Obstructed (fs.resolve text)) : fs.makeDirectory? text = .error .notFound := by
  obtain ⟨hcause, hiff⟩ := h.makeDirectory?_of_missing hmissing
  rw [hcause, (fs.missingCause_cases _).resolve_left fun hfile => hclear (hiff.mp hfile)]

theorem makeDirectory?_of_prevents {cause : MakeDirectoryError}
    (hcause : fs.Prevents (fs.resolve text) cause) : fs.makeDirectory? text = .error cause := by
  cases cause with
  | alreadyExists => exact h.makeDirectory?_of_occupied hcause
  | notADirectory => exact h.makeDirectory?_of_obstructed hcause
  | notFound => exact h.makeDirectory?_of_not_obstructed hcause.1 hcause.2

theorem makeDirectory?_eq_ok_iff :
    (∃ next, fs.makeDirectory? text = .ok next) ↔ fs.Vacant (fs.resolve text) := by
  refine ⟨?_, fun hvacant => (h.makeDirectory?_of_vacant hvacant).imp fun _ hmade => hmade.1⟩
  rintro ⟨next, hnext⟩
  refine (fs.vacant_or_prevents (h.proper_resolve text)).resolve_right ?_
  rintro ⟨cause, hcause⟩
  rw [h.makeDirectory?_of_prevents hcause] at hnext
  cases hnext

theorem makeDirectory?_eq_error_iff {cause : MakeDirectoryError} :
    fs.makeDirectory? text = .error cause ↔ fs.Prevents (fs.resolve text) cause := by
  refine ⟨fun herror => ?_, h.makeDirectory?_of_prevents⟩
  rcases fs.vacant_or_prevents (h.proper_resolve text) with hvacant | ⟨other, hother⟩
  · obtain ⟨next, hnext, -⟩ := h.makeDirectory?_of_vacant hvacant
    rw [hnext] at herror
    cases herror
  · rw [h.makeDirectory?_of_prevents hother, Except.error.injEq] at herror
    exact herror ▸ hother

end WellFormed

/-- Making the directory `p`, spelled `text`, from `fs`: when it is made, what then is different, and for
which reason it is not. The walk up from its parent ends, and without a directory there it gives the
reason. -/
structure MakesDirectory (fs : Filesystem) (text : String) (p : Path) : Prop where
  spelling : p.toString = Path.normalize text fs.cwd.toString
  succeeds : (∃ next, fs.makeDirectory? text = .ok next) ↔ fs.Vacant p
  gains : ∀ next, fs.makeDirectory? text = .ok next → fs.Gains next p ∧ fs.makeDirectory text = next
  alreadyExists : fs.makeDirectory? text = .error .alreadyExists ↔ fs.Occupied p
  notADirectory : fs.makeDirectory? text = .error .notADirectory ↔ fs.Obstructed p
  notFound : fs.makeDirectory? text = .error .notFound ↔
    fs.hasDirectory p.parent = false ∧ ¬ fs.Obstructed p
  climb : ∃ cause, fs.Climb p.parent.toString cause ∧
    (fs.hasDirectory p.parent = false → fs.makeDirectory? text = .error cause)
  fails : ∀ cause, fs.makeDirectory? text = .error cause →
    fs.makeDirectory text = fs ∧ (fs.makeDirectory text).sameSnapshot fs = true

/-- **Making a directory** does what it should and fails for the reason that it gives, in every snapshot
that operations can make and under every spelling. -/
theorem Reachable.makesDirectory {fs : Filesystem} (h : fs.Reachable) (text : String) :
    fs.MakesDirectory text (fs.resolve text) := by
  have hwf := h.wellFormed
  have hproper := hwf.proper_resolve text
  refine ⟨hwf.toString_resolve text, hwf.makeDirectory?_eq_ok_iff, fun next hnext => ⟨?_, ?_⟩,
    hwf.makeDirectory?_eq_error_iff, hwf.makeDirectory?_eq_error_iff,
    hwf.makeDirectory?_eq_error_iff, ?_, fun cause hcause => ?_⟩
  · obtain ⟨made, hmade, hgains⟩ :=
      hwf.makeDirectory?_of_vacant (hwf.makeDirectory?_eq_ok_iff.mp ⟨next, hnext⟩)
    rw [hnext, Except.ok.injEq] at hmade
    exact hmade ▸ hgains
  · rw [makeDirectory, hnext]
  · exact ⟨_, hwf.climb_missingCause hproper.parent, fun hmissing =>
      (hwf.makeDirectory?_of_missing hmissing).1⟩
  · have hsame : fs.makeDirectory text = fs := by rw [makeDirectory, hcause]
    refine ⟨hsame, ?_⟩
    rw [hsame]
    simp [sameSnapshot]

/-- A spelling with detours below a file, and one that leads to a new directory beside it. -/
theorem makesDirectory_detours :
    (seed.apply (.touch "ops")).Reachable ∧
      (seed.apply (.touch "ops")).MakesDirectory "./ops/x/../y//z"
        (((Path.home.child "ops").child "y").child "z") ∧
      (seed.apply (.touch "ops")).Obstructed (((Path.home.child "ops").child "y").child "z") ∧
      (seed.apply (.touch "ops")).makeDirectory? "./ops/x/../y//z" = .error .notADirectory ∧
      (seed.apply (.touch "ops")).Gains ((seed.apply (.touch "ops")).makeDirectory "../user/docs/")
        (Path.home.child "docs") := by
  have hreach := Reachable.seed.apply (.touch "ops")
  have hbelow := hreach.makesDirectory "./ops/x/../y//z"
  have hbeside := hreach.makesDirectory "../user/docs/"
  have hcause : (seed.apply (.touch "ops")).makeDirectory? "./ops/x/../y//z" = .error .notADirectory :=
    rfl
  obtain ⟨hgains, hnext⟩ := hbeside.gains _ rfl
  exact ⟨hreach, hbelow, hbelow.notADirectory.mp hcause, hcause, hnext ▸ hgains⟩

end Filesystem

end MissionShell
