import MissionShell.Proofs.Filesystem.NewDirectory
import MissionShell.Proofs.Shell.Success

/-!
# What a line tells and what it changes

A line that fails says so and attaches no snapshot, and one that attaches a snapshot prints nothing.
Each command has one part of the snapshot that it may change, and leaves the others alone.

* `Command.word`, `Command.ofName_eq_iff` : the word that names a command;
* `Redirect.exists_sign_of_parse?` : a redirection shows in the arguments;
* `Outcome.Coherent`, `Shell.coherent_execute` : how the parts of what is told agree;
* `Shell.Change`, `Shell.change_of_run` : what a command that leaves a snapshot has done;
* `Shell.Confined`, `Shell.Change.confined` : where the two snapshots may differ;
* `Shell.execute_coherent` : both of every line, and what runs of lines keep.
-/

namespace MissionShell

/-! ## Words and signs -/

/-- The word that names a command in lower case. No word is that of an unknown one. -/
def Command.word : Command → String
  | ls => "ls"
  | pwd => "pwd"
  | cd => "cd"
  | cat => "cat"
  | mkdir => "mkdir"
  | touch => "touch"
  | echo => "echo"
  | rm => "rm"
  | ssh => "ssh"
  | clear => "clear"
  | unknown => ""

theorem Command.ofName_eq_iff {name : String} {c : Command} (hc : c ≠ .unknown) :
    ofName name = c ↔ Text.lowercase name = c.word := by
  constructor
  · rintro rfl
    unfold ofName at hc ⊢
    split at hc <;> simp_all [word]
  · intro h
    unfold ofName
    rw [h]
    cases c <;> rfl

theorem Redirect.sign_mem_of_parse? {text : String} {r : Redirect} (h : parse? text = some r) :
    '>' ∈ text.toList := by
  by_contra hsign
  have hnone : text.toList.dropWhile (!isSign ·) = [] := by
    rw [List.dropWhile_eq_nil_iff]
    intro c hc
    have hne : c ≠ '>' := fun heq => hsign (heq ▸ hc)
    simp [isSign, hne]
  rw [parse?, hnone] at h
  cases h

theorem Redirect.exists_sign_of_parse? {arguments : List String} {r : Redirect}
    (h : parse? (" ".intercalate arguments) = some r) : ∃ a ∈ arguments, '>' ∈ a.toList :=
  Text.exists_mem_of_mem_intercalate (by decide) (sign_mem_of_parse? h)

/-! ## Outcomes -/

theorem CommandError.report_ne_empty (e : CommandError) : e.report ≠ "" := by
  have hend : ∀ {text tail : String}, tail ≠ "" → text ++ tail ≠ "" := fun htail h =>
    htail (String.append_eq_empty_iff.mp h).2
  cases e with
  | cannotList | cannotEnter | cannotShow | cannotRemove | unknownCommand => exact hend (by decide)
  | nothingToShow | nothingToMake | nothingToTouch | nothingToRemove => decide
  | cannotMake name cause => exact hend (by cases cause <;> decide)

namespace Outcome

/-- The parts of what is told agree: a failure says something and leaves no snapshot, and a snapshot is
left in silence. -/
structure Coherent (r : Outcome) : Prop where
  success : r.success = true ↔ r.error = none
  filesystemChanged : r.filesystemChanged = true ↔ ∃ fs, r.filesystem = some fs
  failure : r.success = false → r.filesystem = none ∧ r.output ≠ ""
  attached : ∀ fs, r.filesystem = some fs → r.output = ""

theorem coherent_ofResult (result : Except CommandError Effect) : (ofResult result).Coherent := by
  refine ⟨Option.isNone_iff_eq_none, Option.isSome_iff_exists, fun hfailed => ?_, fun fs hfs => ?_⟩
  · rcases result with e | text | fs
    · exact ⟨rfl, e.report_ne_empty⟩
    · cases hfailed
    · cases hfailed
  · rcases result with e | text | fs
    · cases hfs
    · cases hfs
    · rfl

/-- A line of blanks is answered like a command that prints nothing. -/
theorem coherent_silent : silent.Coherent := coherent_ofResult (.ok (.print ""))

end Outcome

namespace Shell

/-! ## What a command has done -/

/-- A command on some arguments that leaves a snapshot leaves this one. -/
inductive Change (fs : Filesystem) : Command → List String → Filesystem → Prop where
  | enter (arguments : List String) :
    Change fs .cd arguments (fs.changeDirectory (arguments.head?.getD Path.home.toString))
  | make {text : String} {gs : Filesystem} (h : fs.makeDirectory? text = .ok gs)
    (rest : List String) : Change fs .mkdir (text :: rest) gs
  | touch (name : String) (rest : List String) : Change fs .touch (name :: rest) (fs.touch name)
  | redirect {arguments : List String} {r : Redirect}
    (h : Redirect.parse? (" ".intercalate arguments) = some r) :
    Change fs .echo arguments (fs.write r.target r.content)
  | remove (name : String) (rest : List String) : Change fs .rm (name :: rest) (fs.remove name)

theorem change_of_run {fs gs : Filesystem} {name : String} {arguments : List String}
    (h : run fs name arguments = .ok (.become gs)) : Change fs (Command.ofName name) arguments gs := by
  unfold run at h
  cases hname : Command.ofName name with
  | ls =>
    simp only [hname, Listing.run] at h
    split_ifs at h <;> cases h
  | pwd | ssh | clear | unknown =>
    rw [hname] at h
    cases h
  | cd =>
    simp only [hname, changeDirectory] at h
    split_ifs at h
    cases h
    exact .enter arguments
  | cat =>
    simp only [hname, showFile] at h
    split at h
    · cases h
    · split at h <;> cases h
  | mkdir =>
    simp only [hname, makeDirectory] at h
    split at h
    · cases h
    · next text rest =>
      cases hmade : fs.makeDirectory? text with
      | error cause =>
        rw [hmade] at h
        cases h
      | ok next =>
        rw [hmade] at h
        cases h
        exact .make hmade rest
  | touch =>
    simp only [hname, touchFile] at h
    split at h
    · cases h
    · cases h
      exact .touch _ _
  | echo =>
    simp only [hname, echo] at h
    split at h
    · next r hparse =>
      cases h
      exact .redirect hparse
    · cases h
  | rm =>
    simp only [hname, removeFile] at h
    split at h
    · cases h
    · split_ifs at h
      cases h
      exact .remove _ _

/-! ## Where the snapshots differ -/

/-- From `fs` to `gs` only that has changed which a command of the lower-case name `name` may change. -/
structure Confined (fs : Filesystem) (name : String) (arguments : List String) (gs : Filesystem) :
    Prop where
  history : gs.history = fs.history
  cwd : gs.cwd ≠ fs.cwd → name = "cd"
  directoryPaths : gs.directoryPaths ≠ fs.directoryPaths → name = "mkdir"
  made : name = "mkdir" →
    ∃ path ∉ fs.directoryPaths, gs.directoryPaths.Perm (path :: fs.directoryPaths)
  filesIn : ∀ p, gs.filesIn p ≠ fs.filesIn p →
    p = fs.cwd ∧ (name = "touch" ∨ name = "rm" ∨ name = "echo" ∧ ∃ a ∈ arguments, '>' ∈ a.toList)

/-- A command that changes a single file, and may. -/
theorem Confined.of_frame {fs gs : Filesystem} {file name : String} {arguments : List String}
    (h : fs.Frame gs file) (hmkdir : name ≠ "mkdir")
    (hfiles : name = "touch" ∨ name = "rm" ∨ name = "echo" ∧ ∃ a ∈ arguments, '>' ∈ a.toList) :
    Confined fs name arguments gs := by
  refine ⟨h.history, fun hcwd => absurd h.cwd hcwd, fun hpaths => absurd h.directoryPaths hpaths,
    fun hname => absurd hname hmkdir, fun p hp => ⟨?_, hfiles⟩⟩
  by_contra hne
  rw [Filesystem.filesIn, h.directory? p hne] at hp
  exact hp rfl

theorem Confined.of_changeDirectory (fs : Filesystem) (text : String) (arguments : List String) :
    Confined fs "cd" arguments (fs.changeDirectory text) := by
  obtain ⟨hdirs, hhistory⟩ : (fs.changeDirectory text).directories = fs.directories ∧
      (fs.changeDirectory text).history = fs.history := by
    rw [Filesystem.changeDirectory_eq]
    split_ifs <;> exact ⟨rfl, rfl⟩
  refine ⟨hhistory, fun _ => rfl, fun hpaths => absurd ?_ hpaths, fun hname => absurd hname (by decide),
    fun p hp => absurd ?_ hp⟩
  · exact Filesystem.directoryPaths_congr (by rw [hdirs])
  · rw [Filesystem.filesIn, Filesystem.filesIn, Filesystem.directory?, Filesystem.directory?, hdirs]

theorem Confined.of_makeDirectory? {fs gs : Filesystem} (hwf : fs.WellFormed) {text : String}
    (h : fs.makeDirectory? text = .ok gs) (arguments : List String) :
    Confined fs "mkdir" arguments gs := by
  obtain ⟨parent, name, d, hresolve, -, hnew, -, rfl⟩ := Filesystem.makeDirectory?_cases h
  have hproper : (parent.child name).Proper :=
    hresolve ▸ (hwf.proper _ hwf.cwd).resolve text
  refine ⟨rfl, fun hcwd => absurd rfl hcwd, fun _ => rfl, fun _ => ?_, fun p hp => absurd ?_ hp⟩
  · exact ⟨_, hwf.toString_notMem hproper hnew, fs.directoryPaths_addDirectory parent name⟩
  · exact Filesystem.filesIn_addDirectory hnew p

theorem Change.confined {fs gs : Filesystem} (hwf : fs.WellFormed) {c : Command}
    {arguments : List String} (h : Change fs c arguments gs) : Confined fs c.word arguments gs := by
  cases h with
  | enter => exact .of_changeDirectory fs _ arguments
  | make hmade rest => exact .of_makeDirectory? hwf hmade _
  | touch name rest =>
    exact .of_frame (fs.touch_eq_write name ▸ fs.frame_write name "") (by decide) (.inl rfl)
  | redirect hparse =>
    exact .of_frame (fs.frame_write _ _) (by decide)
      (.inr (.inr ⟨rfl, Redirect.exists_sign_of_parse? hparse⟩))
  | remove name rest => exact .of_frame (fs.frame_remove name) (by decide) (.inr (.inl rfl))

/-- A command that leaves a snapshot is one of those that are named. -/
theorem Change.ne_unknown {fs gs : Filesystem} {c : Command} {arguments : List String}
    (h : Change fs c arguments gs) : c ≠ .unknown := by
  cases h <;> decide

/-! ## Lines -/

theorem coherent_execute (fs : Filesystem) (line : String) : (execute fs line).Coherent := by
  unfold execute
  split
  · exact Outcome.coherent_silent
  · exact Outcome.coherent_ofResult _

/-- A snapshot comes with the words of a command that leaves it. -/
theorem exists_change {fs gs : Filesystem} {line : String}
    (h : (execute fs line).filesystem = some gs) : ∃ word arguments,
      Text.words line = word :: arguments ∧ Change fs (Command.ofName word) arguments gs := by
  unfold execute at h
  split at h
  · cases h
  · next word arguments hwords =>
    refine ⟨word, arguments, hwords, change_of_run ?_⟩
    generalize run fs word arguments = result at h ⊢
    rcases result with e | text | next
    · cases h
    · cases h
    · rw [Option.some.inj h]

theorem confined_execute {fs gs : Filesystem} (hwf : fs.WellFormed) {line : String}
    (h : (execute fs line).filesystem = some gs) : ∃ word arguments,
      Text.words line = word :: arguments ∧ Confined fs (Text.lowercase word) arguments gs := by
  obtain ⟨word, arguments, hwords, hchange⟩ := exists_change h
  refine ⟨word, arguments, hwords, ?_⟩
  rw [(Command.ofName_eq_iff hchange.ne_unknown).mp rfl]
  exact hchange.confined hwf

/-! ## Runs -/

theorem directoryPaths_subset_next (fs : Filesystem) (line : String) :
    fs.directoryPaths ⊆ (next fs line).directoryPaths := by
  rw [next_eq]
  cases operation? line with
  | none => exact List.Subset.refl _
  | some op => exact fs.directoryPaths_subset_apply op

theorem directoryPaths_subset_after (fs : Filesystem) (lines : List String) :
    fs.directoryPaths ⊆ (after fs lines).directoryPaths := by
  induction lines using List.reverseRecOn with
  | nil => exact List.Subset.refl _
  | append_singleton lines line ih =>
    rw [after_append_singleton]
    exact List.Subset.trans ih (directoryPaths_subset_next _ line)

/-- Home can be entered without saying so wherever it is there. -/
theorem success_enterHome {fs : Filesystem} (hwf : fs.WellFormed)
    (hhome : Path.home.toString ∈ fs.directoryPaths) {line word : String}
    (hwords : Text.words line = [word]) (hword : Text.lowercase word = "cd") :
    (execute fs line).success = true := by
  have hname : Command.ofName word = .cd := (Command.ofName_eq_iff (by decide)).mpr hword
  obtain ⟨p, hp, hspell⟩ := Filesystem.mem_directoryPaths.mp hhome
  have hresolve : fs.resolve Path.home.toString = p := by rw [← hspell, hwf.resolve_toString hp]
  rw [success_execute hwords, run, hname]
  calc (changeDirectory fs []).isOk = fs.hasDirectory (fs.resolve Path.home.toString) :=
        isOk_changeDirectory fs []
    _ = true := by rw [hresolve, hp]

/-- **Lines tell what they do and do no more**, in every snapshot that operations can make. No run of
lines removes a directory, and from the seed the way home is always open. -/
theorem execute_coherent {fs : Filesystem} (h : fs.Reachable) :
    (∀ line, (execute fs line).Coherent ∧
      ∀ gs, (execute fs line).filesystem = some gs → ∃ word arguments,
        Text.words line = word :: arguments ∧ Confined fs (Text.lowercase word) arguments gs) ∧
      (∀ lines more,
        (after fs lines).directoryPaths ⊆ (after fs (lines ++ more)).directoryPaths) ∧
      ∀ lines line word, Text.words line = [word] → Text.lowercase word = "cd" →
        (execute (after Filesystem.seed lines) line).success = true := by
  refine ⟨fun line => ⟨coherent_execute fs line, fun gs => confined_execute h.wellFormed⟩,
    fun lines more => ?_, fun lines line word hwords hword => ?_⟩
  · rw [after, after, List.foldl_append]
    exact directoryPaths_subset_after _ more
  · have hhome : Path.home.toString ∈ Filesystem.seed.directoryPaths :=
      Filesystem.WellFormed.mem_directoryPaths_toString Filesystem.wellFormed_seed.cwd
    exact success_enterHome (reachable_after .seed lines).wellFormed
      (directoryPaths_subset_after _ lines hhome) hwords hword

/-- Commands in capitals: a directory is made and nothing else is changed, and home is entered again. -/
theorem execute_coherent_capitals :
    Filesystem.seed.Reachable ∧
      (∃ gs, (execute Filesystem.seed "MKDIR ops").filesystem = some gs ∧
        Confined Filesystem.seed "mkdir" ["ops"] gs) ∧
      (execute (after Filesystem.seed ["cd /", "mkdir ops"]) "Cd").success = true := by
  obtain ⟨hlines, -, hhome⟩ := execute_coherent .seed
  refine ⟨.seed, ?_, hhome ["cd /", "mkdir ops"] "Cd" "Cd" (by decide) (by decide)⟩
  obtain ⟨gs, hgs⟩ : ∃ gs, (execute Filesystem.seed "MKDIR ops").filesystem = some gs := ⟨_, rfl⟩
  obtain ⟨word, arguments, hwords, hconfined⟩ := (hlines "MKDIR ops").2 gs hgs
  have hsplit : Text.words "MKDIR ops" = ["MKDIR", "ops"] := by decide
  have hlower : Text.lowercase "MKDIR" = "mkdir" := by decide
  obtain ⟨rfl, rfl⟩ := List.cons.inj (hwords.symm.trans hsplit)
  rw [hlower] at hconfined
  exact ⟨gs, hgs, hconfined⟩

end Shell

end MissionShell
