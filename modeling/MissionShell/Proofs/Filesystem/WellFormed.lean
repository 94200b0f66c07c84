import MissionShell.Proofs.Filesystem.Lookup

/-!
# Well-formed filesystems

The directories of a snapshot, as they are looked up by path, and the subdirectories that their
parents name describe one tree, and the working directory lies in it. The two ready-made snapshots
are well-formed, and every operation keeps it that way.

* `Filesystem.WellFormed` : the invariant;
* `Filesystem.WellFormed.modify`, `Filesystem.WellFormed.addDirectory` : the two changes to the
  directories keep it;
* `Filesystem.Reachable` : the snapshots that operations make of the ready-made ones;
* `Filesystem.Reachable.wellFormed` : they are all well-formed;
* `Filesystem.Walk` : the paths that are found from the root down by the names of subdirectories;
* `Filesystem.Representation`, `Filesystem.Reachable.representation` : how look-up, spellings and the
  directories' own lists agree.
-/

namespace MissionShell.Filesystem

/-- The directories found by path are those of a tree of proper paths: they go up to the root, and
each names exactly those of its children that are directories. No two children of one kind share a
name. -/
structure WellFormed (fs : Filesystem) : Prop where
  distinct : (fs.directories.map (·.path)).Nodup
  proper : ∀ p, fs.hasDirectory p = true → p.Proper
  root : fs.hasDirectory Path.root = true
  cwd : fs.hasDirectory fs.cwd = true
  parent : ∀ p, fs.hasDirectory p = true → fs.hasDirectory p.parent = true
  enrolled : ∀ p d, fs.directory? p = some d →
    ∀ s, s ∈ d.subdirectories ↔ fs.hasDirectory (p.child s) = true
  sound : ∀ p d, fs.directory? p = some d → d.Sound

namespace WellFormed

/-! ## The ways to change a snapshot -/

/-- Only the directories and the place in them matter. -/
theorem of_directories {fs gs : Filesystem} (h : fs.WellFormed)
    (hdirs : gs.directories = fs.directories) (hcwd : gs.hasDirectory gs.cwd = true) :
    gs.WellFormed := by
  have hfind : gs.directory? = fs.directory? := by
    funext p
    rw [directory?, directory?, hdirs]
  have hhas : gs.hasDirectory = fs.hasDirectory := by
    funext p
    rw [hasDirectory, hasDirectory, hfind]
  refine ⟨hdirs ▸ h.distinct, ?_, ?_, hcwd, ?_, ?_, ?_⟩
  · rw [hhas]
    exact h.proper
  · rw [hhas]
    exact h.root
  · rw [hhas]
    exact h.parent
  · rw [hfind, hhas]
    exact h.enrolled
  · rw [hfind]
    exact h.sound

/-- A change to the files of one directory. -/
theorem modify {fs : Filesystem} (h : fs.WellFormed) (p : Path) {f : Directory → Directory}
    (hpath : ∀ d, (f d).path = d.path) (hsub : ∀ d, (f d).subdirectories = d.subdirectories)
    (hsound : ∀ d, d.Sound → (f d).Sound) : (fs.modify p f).WellFormed := by
  have hhas : (fs.modify p f).hasDirectory = fs.hasDirectory := by
    funext q
    exact hasDirectory_modify hpath fs p q
  have hold : ∀ q d, (fs.modify p f).directory? q = some d →
      ∃ e, fs.directory? q = some e ∧ (d = e ∨ d = f e) := by
    intro q d hd
    rw [directory?_modify hpath] at hd
    split_ifs at hd with hq
    · obtain ⟨e, he, rfl⟩ := Option.map_eq_some_iff.mp hd
      exact ⟨e, hq ▸ he, Or.inr rfl⟩
    · exact ⟨d, hd, Or.inl rfl⟩
  refine ⟨?_, hhas ▸ h.proper, hhas ▸ h.root, hhas ▸ h.cwd, hhas ▸ h.parent, ?_, ?_⟩
  · rw [map_path_modify hpath]
    exact h.distinct
  · intro q d hd s
    obtain ⟨e, he, rfl | rfl⟩ := hold q d hd
    · rw [hhas, h.enrolled q d he]
    · rw [hhas, hsub, h.enrolled q e he]
  · intro q d hd
    obtain ⟨e, he, rfl | rfl⟩ := hold q d hd
    · exact h.sound q d he
    · exact hsound e (h.sound q e he)

/-- A new directory below one that is there. -/
theorem addDirectory {fs : Filesystem} (h : fs.WellFormed) {parent : Path} {name : String}
    {d : Directory} (hd : fs.directory? parent = some d) (hname : Path.IsName name)
    (hnew : fs.hasDirectory (parent.child name) = false) : (fs.addDirectory parent name).WellFormed := by
  have hparent : fs.hasDirectory parent = true := hasDirectory_of_some hd
  refine ⟨?_, ?_, hasDirectory_addDirectory.mpr (Or.inl h.root),
    hasDirectory_addDirectory.mpr (Or.inl h.cwd), ?_, ?_, ?_⟩
  · rw [map_path_addDirectory, List.nodup_append]
    refine ⟨h.distinct, List.nodup_singleton _, ?_⟩
    rintro p hp q hq rfl
    rw [List.mem_singleton] at hq
    rw [hq, ← hasDirectory_iff_mem, hnew] at hp
    cases hp
  · intro p hp
    rcases hasDirectory_addDirectory.mp hp with hp | rfl
    · exact h.proper p hp
    · exact (h.proper parent hparent).child hname
  · intro p hp
    rw [hasDirectory_addDirectory]
    rcases hasDirectory_addDirectory.mp hp with hp | rfl
    · exact Or.inl (h.parent p hp)
    · rw [Path.parent_child]
      exact Or.inl hparent
  · intro q e he s
    rw [hasDirectory_addDirectory, Path.child_inj]
    rw [directory?_addDirectory hnew] at he
    split_ifs at he with hq hp
    · -- the new directory is empty, and nothing was below it before
      have hempty : e.subdirectories = [] := by rw [← Option.some.inj he]; rfl
      have hbelow : ¬ fs.hasDirectory (q.child s) = true := by
        intro hs
        have hold := h.parent _ hs
        rw [Path.parent_child, hq, hnew] at hold
        cases hold
      have hself : q ≠ parent := by
        rintro rfl
        rw [← hq, hparent] at hnew
        cases hnew
      simp [hempty, hbelow, hself]
    · subst hp
      rw [hd, Option.map_some, Option.some.injEq] at he
      rw [← he, Directory.subdirectories_enroll, List.mem_append, List.mem_singleton,
        h.enrolled q d hd]
      simp
    · rw [h.enrolled q e he]
      simp [hp]
  · intro q e he
    rw [directory?_addDirectory hnew] at he
    split_ifs at he with hq hp
    · rw [← Option.some.inj he]
      exact Directory.sound_empty q
    · subst hp
      rw [hd, Option.map_some, Option.some.injEq] at he
      rw [← he]
      refine (h.sound q d hd).enroll fun hmem => ?_
      rw [h.enrolled q d hd, hnew] at hmem
      cases hmem
    · exact h.sound q e he

/-! ## Every operation -/

theorem makeDirectory {fs : Filesystem} (h : fs.WellFormed) (text : String) :
    (fs.makeDirectory text).WellFormed := by
  rcases fs.makeDirectory_cases text with hsame | ⟨parent, name, d, htext, hd, hnew, -, hnext⟩
  · rw [hsame]
    exact h
  · rw [hnext]
    -- the new path was read off a spelling, so its last segment is a name
    have hproper := (h.proper _ h.cwd).resolve text
    refine h.addDirectory hd (hproper.name (s := name) ?_) hnew
    rw [← Filesystem.resolve, htext, Path.name?_child]

theorem changeDirectory {fs : Filesystem} (h : fs.WellFormed) (text : String) :
    (fs.changeDirectory text).WellFormed := by
  rw [changeDirectory_eq]
  split_ifs with hp
  · exact h.of_directories rfl hp
  · exact h

theorem write {fs : Filesystem} (h : fs.WellFormed) (name content : String) :
    (fs.write name content).WellFormed := by
  rw [write_eq_put, put]
  split_ifs
  · exact h.modify _ (fun _ => rfl) (fun d => d.subdirectories_put _) fun _ hd => hd.put _
  · exact h

theorem remove {fs : Filesystem} (h : fs.WellFormed) (name : String) :
    (fs.remove name).WellFormed := by
  unfold Filesystem.remove
  split_ifs
  · exact h.modify _ (fun _ => rfl) (fun d => d.subdirectories_remove _) fun _ hd => hd.remove _
  · exact h

theorem record {fs : Filesystem} (h : fs.WellFormed) (entry : String) :
    (fs.record entry).WellFormed := h.of_directories rfl h.cwd

theorem apply {fs : Filesystem} (h : fs.WellFormed) (op : Operation) : (fs.apply op).WellFormed := by
  cases op with
  | makeDirectory text => exact h.makeDirectory text
  | changeDirectory text => exact h.changeDirectory text
  | touch name =>
    rw [Filesystem.apply, touch_eq_write]
    exact h.write name ""
  | write name content => exact h.write name content
  | remove name => exact h.remove name
  | record entry => exact h.record entry

end WellFormed

/-! ## The ready-made snapshots -/

theorem wellFormed_empty : empty.WellFormed := by
  have hfind : ∀ p, empty.directory? p = if p = Path.root then some (Directory.empty p) else none := by
    intro p
    by_cases h : p = Path.root
    · subst h
      rfl
    · simp [empty, directory?, Directory.empty, h, Ne.symm h]
  have hhas : ∀ p, empty.hasDirectory p = true ↔ p = Path.root := by
    intro p
    rw [hasDirectory, hfind]
    split_ifs with h <;> simp [h]
  refine ⟨List.nodup_singleton _, ?_, rfl, rfl, ?_, ?_, ?_⟩
  · intro p hp
    rw [(hhas p).mp hp]
    exact Path.proper_root
  · intro p hp
    rw [(hhas p).mp hp]
    rfl
  · intro p d hd s
    rw [hhas]
    rw [hfind] at hd
    split_ifs at hd
    rw [← Option.some.inj hd]
    simp [Directory.empty, Directory.subdirectories]
  · intro p d hd
    rw [hfind] at hd
    split_ifs at hd
    rw [← Option.some.inj hd]
    exact Directory.sound_empty p

theorem wellFormed_seed : seed.WellFormed := by
  have hhome : Path.IsName "home" := by decide
  have huser : Path.IsName "user" := by decide
  have hone : (empty.addDirectory Path.root "home").WellFormed :=
    wellFormed_empty.addDirectory (d := Directory.empty Path.root) rfl hhome rfl
  have htwo : ((empty.addDirectory Path.root "home").addDirectory (Path.root.child "home")
      "user").WellFormed :=
    hone.addDirectory (d := Directory.empty (Path.root.child "home")) rfl huser rfl
  have hfile : ∀ (fs : Filesystem), fs.WellFormed → ∀ f : File,
      (fs.modify Path.home (·.put f)).WellFormed := fun _ h f =>
    h.modify _ (fun _ => rfl) (fun d => d.subdirectories_put f) fun _ hd => hd.put f
  exact (hfile _ (hfile _ htwo secretFile) readmeFile).of_directories rfl rfl

inductive Reachable : Filesystem → Prop where
  | empty : Reachable empty
  | seed : Reachable seed
  | apply {fs : Filesystem} (h : Reachable fs) (op : Operation) : Reachable (fs.apply op)

theorem Reachable.wellFormed {fs : Filesystem} (h : fs.Reachable) : fs.WellFormed := by
  induction h with
  | empty => exact wellFormed_empty
  | seed => exact wellFormed_seed
  | apply _ op ih => exact ih.apply op

/-! ## The index and the tree -/

/-- The paths that lead from the root down by the names that directories list. -/
inductive Walk (fs : Filesystem) : Path → Prop where
  | root : Walk fs Path.root
  | down {p : Path} {d : Directory} {name : String} (h : Walk fs p) (hd : fs.directory? p = some d)
      (hname : name ∈ d.subdirectories) : Walk fs (p.child name)

theorem WellFormed.hasDirectory_iff_walk {fs : Filesystem} (h : fs.WellFormed) (p : Path) :
    fs.hasDirectory p = true ↔ fs.Walk p := by
  constructor
  · induction p using Path.childInduction with
    | root => exact fun _ => .root
    | child p name ih =>
      intro hp
      have hparent := h.parent _ hp
      rw [Path.parent_child] at hparent
      obtain ⟨d, hd⟩ := hasDirectory_iff.mp hparent
      exact .down (ih hparent) hd ((h.enrolled p d hd name).mpr hp)
  · intro hwalk
    induction hwalk with
    | root => exact h.root
    | down _ hd hname _ => exact (h.enrolled _ _ hd _).mp hname

/-- What is found at the spelling `text`: the directory `d`, which stands in its parent's list just
once and whose own list leads to directories. -/
structure Located (fs : Filesystem) (text : String) (d : Directory) : Prop where
  found : fs.directory? (fs.resolve text) = some d
  path : d.path.toString = text
  parent : d.parentPath?.map Path.toString =
    if text = "/" then none else some (Path.spellParent text)
  name : text ≠ "/" → d.name = Path.spellName text
  listed : text ≠ "/" → Path.spellParent text ∈ fs.directoryPaths ∧
    ∃ e, fs.directory? (fs.resolve (Path.spellParent text)) = some e ∧
      e.subdirectories.count d.name = 1
  below : ∀ s ∈ d.subdirectories, Path.spellChild text s ∈ fs.directoryPaths
  subdirectories : d.subdirectories.Nodup
  files : d.fileNames.Nodup

/-- The index of spellings, the tree and the working directory are in step, so that the operations
on files find the working directory. -/
structure Representation (fs : Filesystem) : Prop where
  root : "/" ∈ fs.directoryPaths
  cwd : fs.cwd.toString ∈ fs.directoryPaths
  canonical : ∀ text ∈ fs.directoryPaths, Path.Canonical text
  located : ∀ text ∈ fs.directoryPaths, ∃ d, fs.Located text d
  walk : ∀ p, fs.hasDirectory p = true ↔ fs.Walk p
  write : ∀ name content, fs.write name content = fs.modify fs.cwd (·.put ⟨name, content⟩)
  remove : ∃ d, fs.directory? fs.cwd = some d ∧
    ∀ name, fs.remove name = if d.hasFile name then fs.modify fs.cwd (·.remove name) else fs

namespace WellFormed

theorem mem_directoryPaths_toString {fs : Filesystem} {p : Path} (hp : fs.hasDirectory p = true) :
    p.toString ∈ fs.directoryPaths := mem_directoryPaths.mpr ⟨p, hp, rfl⟩

theorem resolve_toString {fs : Filesystem} (h : fs.WellFormed) {p : Path}
    (hp : fs.hasDirectory p = true) : fs.resolve p.toString = p :=
  Path.resolve_toString _ (h.proper p hp)

/-- What a spelling means can be read from the spelling of the working directory. -/
theorem toString_resolve {fs : Filesystem} (h : fs.WellFormed) (text : String) :
    (fs.resolve text).toString = Path.normalize text fs.cwd.toString := by
  rw [Path.normalize, Path.parse_toString (h.proper _ h.cwd), resolve]

/-- A directory other than the root stands in its parent's list just once. -/
theorem count_name {fs : Filesystem} (h : fs.WellFormed) {p : Path} {name : String} {e : Directory}
    (hp : fs.hasDirectory (p.child name) = true) (he : fs.directory? p = some e) :
    e.subdirectories.count name = 1 :=
  List.count_eq_one_of_mem (h.sound p e he).subdirectories ((h.enrolled p e he name).mpr hp)

theorem located {fs : Filesystem} (h : fs.WellFormed) {p : Path} {d : Directory}
    (hd : fs.directory? p = some d) : fs.Located p.toString d := by
  have hp : fs.hasDirectory p = true := hasDirectory_of_some hd
  have hproper := h.proper p hp
  have hpath := path_of_directory? hd
  have hbelow : ∀ s ∈ d.subdirectories, Path.spellChild p.toString s ∈ fs.directoryPaths := by
    intro s hs
    rw [← Path.toString_child hproper]
    exact mem_directoryPaths_toString ((h.enrolled p d hd s).mp hs)
  have hfound : fs.directory? (fs.resolve p.toString) = some d := by rw [h.resolve_toString hp, hd]
  rcases eq_or_ne p Path.root with rfl | hroot
  · refine ⟨hfound, by rw [hpath], ?_, fun hne => absurd rfl hne, fun hne => absurd rfl hne, hbelow,
      (h.sound _ d hd).subdirectories, (h.sound _ d hd).fileNames⟩
    simp [Directory.parentPath?, hpath]
  · obtain ⟨name, hchild⟩ := Path.exists_eq_child hroot
    have hparent := h.parent p hp
    have hname : Path.IsName name := hproper.name (by rw [hchild, Path.name?_child])
    have hslash : p.toString ≠ "/" := fun he => hroot ((Path.toString_eq_slash hproper).mp he)
    have hspell : Path.spellParent p.toString = p.parent.toString := by
      conv_lhs => rw [hchild]
      rw [Path.toString_child hproper.parent,
        Path.spellParent_spellChild (Path.toString_ne_empty _) hname.slash_notMem]
    have hdname : d.name = name := by
      rw [Directory.name, hpath, hchild, Path.name?_child]
      rfl
    obtain ⟨e, he⟩ := hasDirectory_iff.mp hparent
    refine ⟨hfound, by rw [hpath], ?_, fun _ => ?_, fun _ => ⟨?_, e, ?_, ?_⟩, hbelow,
      (h.sound _ d hd).subdirectories, (h.sound _ d hd).fileNames⟩
    · rw [if_neg hslash, hspell, Directory.parentPath?, hpath, if_neg hroot]
      rfl
    · rw [hdname, hchild, Path.toString_child hproper.parent,
        Path.spellName_spellChild _ hname.slash_notMem]
    · rw [hspell]
      exact mem_directoryPaths_toString hparent
    · rw [hspell, h.resolve_toString hparent, he]
    · rw [hdname]
      exact h.count_name (hchild ▸ hp) he

end WellFormed

/-- **The index and the tree are in step** in every snapshot that operations can make. -/
theorem Reachable.representation {fs : Filesystem} (h : fs.Reachable) : fs.Representation := by
  have hwf := h.wellFormed
  refine ⟨?_, ?_, ?_, ?_, hwf.hasDirectory_iff_walk, write_eq hwf.cwd, ?_⟩
  · exact WellFormed.mem_directoryPaths_toString hwf.root
  · exact WellFormed.mem_directoryPaths_toString hwf.cwd
  · intro text htext
    obtain ⟨p, hp, rfl⟩ := mem_directoryPaths.mp htext
    exact Path.canonical_toString (hwf.proper p hp)
  · intro text htext
    obtain ⟨p, hp, rfl⟩ := mem_directoryPaths.mp htext
    obtain ⟨d, hd⟩ := hasDirectory_iff.mp hp
    exact ⟨d, hwf.located hd⟩
  · obtain ⟨d, hd⟩ := hasDirectory_iff.mp hwf.cwd
    exact ⟨d, hd, remove_eq hd⟩

/-- A spelling with detours, and a file that takes the name of a directory. -/
theorem representation_detour :
    ((seed.apply (.makeDirectory "./ops//")).apply (.touch "ops")).Reachable ∧
      ((seed.apply (.makeDirectory "./ops//")).apply (.touch "ops")).Representation :=
  ⟨(Reachable.seed.apply _).apply _, ((Reachable.seed.apply _).apply _).representation⟩

end MissionShell.Filesystem
