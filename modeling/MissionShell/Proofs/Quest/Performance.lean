import MissionShell.Proofs.Filesystem.Persistence
import MissionShell.Proofs.Quest.Step
import MissionShell.Proofs.Quest.Submission
import MissionShell.Proofs.Shell.Success
import Mathlib.Tactic.IntervalCases

/-!
# Whether a completed step was carried out

The steps of the first mission look at the line and, but for one of them, not at what it did. So a line
that fails can complete a step: the one that shows or removes a file that is not there, and the one that
makes a folder whose name is taken. Nothing else can go wrong with a line that completes a step, as long
as the folder is not entered from a folder of the same name.

* `Step.exists_words_of_advances`, `Step.exists_argument_of_advances` : the words of a line that answers
  a step without a check;
* `Mission.success_readSecretFile`, `Mission.success_createFolder`, … : when the line that completes
  one of the steps succeeds;
* `Mission.Obstacle`, `Mission.success_of_advances` : the same for whichever step it is;
* `Engine.completed_without_success` : a completed step that was not carried out;
* `Engine.success_of_stepCompleted` : when a completed step was carried out.
-/

namespace MissionShell

/-! ## The words of the line -/

/-- A line that answers a step without a check names the command that the step asks for, on arguments
that differ from the expected ones in the case of letters alone. -/
theorem Step.exists_words_of_advances {s : Step} (hs : s.check = none) {line word : String}
    {fs : Filesystem} (hadv : (s.validate line fs).advances = true)
    (hword : ∀ c ∈ s.commands, (Text.words c).head? = some word) :
    ∃ name arguments, Text.words line = name :: arguments ∧
      Command.ofName name = Command.ofName word ∧
      ∃ c ∈ s.commands, arguments.map Text.lowercase = (Text.words c).tail.map Text.lowercase := by
  obtain ⟨c, hc, hwords⟩ := ((advances_validate_iff hs line fs).mp hadv).words
  obtain ⟨rest, hrest⟩ := List.head?_eq_some_iff.mp (hword c hc)
  rw [hrest, List.map_cons, List.map_eq_cons_iff] at hwords
  obtain ⟨name, arguments, hline, hname, harguments⟩ := hwords
  refine ⟨name, arguments, hline, by rw [Command.ofName, hname, Command.ofName], c, hc, ?_⟩
  rw [hrest, List.tail_cons, harguments]

/-- If the step asks for a command on one argument, the line has one too. -/
theorem Step.exists_argument_of_advances {s : Step} (hs : s.check = none) {line word : String}
    {fs : Filesystem} (hadv : (s.validate line fs).advances = true)
    (hword : ∀ c ∈ s.commands, (Text.words c).head? = some word)
    (hlength : ∀ c ∈ s.commands, (Text.words c).tail.length = 1) :
    ∃ name argument, Text.words line = [name, argument] ∧
      Command.ofName name = Command.ofName word := by
  obtain ⟨name, arguments, hline, hname, c, hc, harguments⟩ :=
    exists_words_of_advances hs hadv hword
  have hone : arguments.length = 1 := by
    rw [← List.length_map Text.lowercase, harguments, List.length_map, hlength c hc]
  obtain ⟨argument, rfl⟩ := List.length_eq_one_iff.mp hone
  exact ⟨name, argument, hline, hname⟩

theorem Listing.isOption_of_lowercase_eq {a b : String} (h : Text.lowercase a = Text.lowercase b)
    (hb : isOption b = true) : isOption a = true := by
  rw [isOption, decide_eq_true_eq, ← Text.head?_lowercase Text.isMark_dash] at hb ⊢
  rw [h, hb]

namespace Mission
open Filesystem (WellFormed)
open Shell (execute next success_execute)

/-! ## Step by step -/

section Steps
variable {fs gs : Filesystem} {line : String}

theorem success_establishConnection (hadv : (establishConnection.validate line gs).advances = true) :
    (execute fs line).success = true := by
  have hword : ∀ c ∈ establishConnection.commands, (Text.words c).head? = some "ssh" := by decide
  obtain ⟨name, arguments, hline, hname, -⟩ := Step.exists_words_of_advances rfl hadv hword
  rw [success_execute hline, Shell.run, hname]
  rfl

/-- A step that asks for a listing without a target. -/
theorem success_listing (h : fs.WellFormed) {s : Step} (hs : s.check = none)
    (hword : ∀ c ∈ s.commands, (Text.words c).head? = some "ls")
    (hoptions : ∀ c ∈ s.commands, ∀ a ∈ (Text.words c).tail, Listing.isOption a = true)
    (hadv : (s.validate line gs).advances = true) : (execute fs line).success = true := by
  obtain ⟨name, arguments, hline, hname, c, hc, harguments⟩ :=
    Step.exists_words_of_advances hs hadv hword
  rw [success_execute hline, Shell.run, hname]
  refine Shell.isOk_list h fun a ha => ?_
  have hmem := List.mem_map_of_mem (f := Text.lowercase) ha
  rw [harguments] at hmem
  obtain ⟨b, hb, hlower⟩ := List.mem_map.mp hmem
  exact Listing.isOption_of_lowercase_eq hlower.symm (hoptions c hc b hb)

theorem success_checkLocation (hadv : (checkLocation.validate line gs).advances = true) :
    (execute fs line).success = true := by
  have hword : ∀ c ∈ checkLocation.commands, (Text.words c).head? = some "pwd" := by decide
  obtain ⟨name, arguments, hline, hname, -⟩ := Step.exists_words_of_advances rfl hadv hword
  rw [success_execute hline, Shell.run, hname]
  rfl

theorem success_readSecretFile (hadv : (readSecretFile.validate line gs).advances = true) :
    (execute fs line).success = (fs.file? fs.cwd ".secret.txt").isSome := by
  have hline : Text.words line = ["cat", ".secret.txt"] := (words_eq_of_exactLine rfl hadv).trans (by decide)
  rw [success_execute hline]
  exact Shell.isOk_showFile fs ".secret.txt" []

theorem success_createFolder (h : fs.WellFormed)
    (hadv : (createFolder.validate line gs).advances = true) :
    (execute fs line).success =
      !(fs.hasDirectory (fs.cwd.child "hackzone") || (fs.file? fs.cwd "hackzone").isSome) := by
  have hline : Text.words line = ["mkdir", "hackzone"] := (words_eq_of_exactLine rfl hadv).trans (by decide)
  rw [success_execute hline, ← h.isOk_makeDirectory?_name isName_hackzone]
  exact Shell.isOk_makeDirectory fs "hackzone" []

/-- The one check that looks at where the line led. It does not look at where it came from, which
matters in a folder of that very name. -/
theorem success_enterFolder (h : fs.WellFormed)
    (hadv : (enterFolder.validate line (next fs line)).advances = true)
    (hname : ¬ (fs.cwd.name? = some "hackzone" ∧
      fs.hasDirectory (fs.cwd.child "hackzone") = false)) :
    (execute fs line).success = true := by
  have hnext := Shell.wellFormed_next h line
  obtain ⟨htrim, harrived⟩ := (advances_inHackzone (hnext.proper _ hnext.cwd) line).mp hadv
  have hwords : Text.words line = ["cd", "hackzone"] := by
    rw [← Text.words_trim, htrim]
    decide
  have hresolve : fs.resolve "hackzone" = fs.cwd.child "hackzone" :=
    Path.resolve_name _ isName_hackzone
  have hsuccess : (execute fs line).success = fs.hasDirectory (fs.cwd.child "hackzone") := by
    rw [success_execute hwords, ← hresolve]
    exact Shell.isOk_changeDirectory fs ["hackzone"]
  cases hdir : fs.hasDirectory (fs.cwd.child "hackzone") with
  | true => rw [hsuccess, hdir]
  | false =>
    -- the line led nowhere, so the place where it arrived is the one where it started
    have hstay : next fs line = fs := by
      have hop : Shell.operation? line = some (.changeDirectory "hackzone") := by
        rw [Shell.operation?, hwords]
        rfl
      rw [Shell.next_eq, hop, Option.elim_some, Filesystem.apply, Filesystem.changeDirectory_eq,
        hresolve, hdir]
      rfl
    rw [hstay] at harrived
    exact absurd ⟨harrived, hdir⟩ hname

theorem success_createScript (hadv : (createScript.validate line gs).advances = true) :
    (execute fs line).success = true := by
  have hword : ∀ c ∈ createScript.commands, (Text.words c).head? = some "touch" := by decide
  obtain ⟨name, file, hline, hname⟩ := Step.exists_argument_of_advances rfl hadv hword (by decide)
  rw [success_execute hline, Shell.run, hname]
  rfl

theorem success_writeScript (hadv : (writeScript.validate line gs).advances = true) :
    (execute fs line).success = true := by
  obtain ⟨c, hc, hline⟩ := words_of_exactLine rfl hadv
  have hall : ∀ c ∈ ["echo \"run\" > exploit.sh", "echo 'run' > exploit.sh",
      "echo run > exploit.sh"], (Text.words c).head? = some "echo" := by decide
  obtain ⟨rest, hrest⟩ := List.head?_eq_some_iff.mp (hall c hc)
  rw [success_execute (hline.trans hrest)]
  rfl

/-- The file is the one that the line names, in whatever case. -/
theorem success_verifyScript (fs : Filesystem)
    (hadv : (verifyScript.validate line gs).advances = true) :
    ∃ name, (Text.words line)[1]? = some name ∧
      (execute fs line).success = (fs.file? fs.cwd name).isSome := by
  have hword : ∀ c ∈ verifyScript.commands, (Text.words c).head? = some "cat" := by decide
  obtain ⟨name, file, hline, hname⟩ := Step.exists_argument_of_advances rfl hadv hword (by decide)
  refine ⟨file, by rw [hline]; rfl, ?_⟩
  rw [success_execute hline, Shell.run, hname]
  exact Shell.isOk_showFile fs file []

theorem success_cleanUp (hadv : (cleanUp.validate line gs).advances = true) :
    (execute fs line).success = (fs.file? fs.cwd "exploit.sh").isSome := by
  have hline : Text.words line = ["rm", "exploit.sh"] := (words_eq_of_exactLine rfl hadv).trans (by decide)
  rw [success_execute hline]
  exact Shell.isOk_removeFile fs "exploit.sh" []

end Steps

/-! ## What can be in the way -/

/-- What can be in the way of a line that completes a step, by the number of steps taken before. -/
def Obstacle (line : String) (fs : Filesystem) : Nat → Prop
  | 3 => fs.file? fs.cwd ".secret.txt" = none
  | 5 => fs.hasDirectory (fs.cwd.child "hackzone") = true ∨ (fs.file? fs.cwd "hackzone").isSome = true
  | 6 => fs.cwd.name? = some "hackzone" ∧ fs.hasDirectory (fs.cwd.child "hackzone") = false
  | 9 => ∃ name, (Text.words line)[1]? = some name ∧ fs.file? fs.cwd name = none
  | 10 => fs.file? fs.cwd "exploit.sh" = none
  | _ => False

/-- The history of the snapshot is in nobody's way. -/
theorem obstacle_congr {fs gs : Filesystem} (h : fs.SameTree gs) (line : String) (n : Nat) :
    Obstacle line gs n ↔ Obstacle line fs n := by
  unfold Obstacle
  rw [h.file?, h.hasDirectory, h.cwd]

/-- A line that completes a step, other than that of entering the folder, succeeds exactly if nothing
is in its way. -/
theorem success_iff {fs : Filesystem} (h : fs.WellFormed) {n : Nat} {step : Step} {line : String}
    (hstep : first.steps[n]? = some step) (hn : n ≠ 6)
    (hadv : (step.validate line (next fs line)).advances = true) :
    (execute fs line).success = true ↔ ¬ Obstacle line fs n := by
  have hlt : n < 11 := (List.getElem?_eq_some_iff.mp hstep).1
  interval_cases n
  · obtain rfl : establishConnection = step := Option.some.inj hstep
    simp [Obstacle, success_establishConnection hadv]
  · obtain rfl : listContents = step := Option.some.inj hstep
    have hsuccess := success_listing h (s := listContents) rfl (by decide) (by decide) hadv
    simp [Obstacle, hsuccess]
  · obtain rfl : findHiddenFiles = step := Option.some.inj hstep
    have hsuccess := success_listing h (s := findHiddenFiles) rfl (by decide) (by decide) hadv
    simp [Obstacle, hsuccess]
  · obtain rfl : readSecretFile = step := Option.some.inj hstep
    simp [Obstacle, success_readSecretFile hadv, Option.isSome_iff_ne_none]
  · obtain rfl : checkLocation = step := Option.some.inj hstep
    simp [Obstacle, success_checkLocation hadv]
  · obtain rfl : createFolder = step := Option.some.inj hstep
    simp [Obstacle, success_createFolder h hadv]
  · exact absurd rfl hn
  · obtain rfl : createScript = step := Option.some.inj hstep
    simp [Obstacle, success_createScript hadv]
  · obtain rfl : writeScript = step := Option.some.inj hstep
    simp [Obstacle, success_writeScript hadv]
  · obtain rfl : verifyScript = step := Option.some.inj hstep
    obtain ⟨name, hname, hsuccess⟩ := success_verifyScript fs hadv
    simp [Obstacle, hname, hsuccess, Option.isSome_iff_ne_none]
  · obtain rfl : cleanUp = step := Option.some.inj hstep
    simp [Obstacle, success_cleanUp hadv, Option.isSome_iff_ne_none]

theorem success_of_advances {fs : Filesystem} (h : fs.WellFormed) {n : Nat} {step : Step}
    {line : String} (hstep : first.steps[n]? = some step)
    (hadv : (step.validate line (next fs line)).advances = true) (hfree : ¬ Obstacle line fs n) :
    (execute fs line).success = true := by
  by_cases hn : n = 6
  · subst hn
    obtain rfl : enterFolder = step := Option.some.inj hstep
    exact success_enterFolder h hadv hfree
  · exact (success_iff h hstep hn hadv).mpr hfree

end Mission

namespace Engine

/-- **When a completed step was carried out**: a line that completes a step of the first mission has
succeeded unless an obstacle was in its way, and with one in its way it has failed. Of the folder that is
entered from a folder of its name only the first half is said. -/
theorem success_of_stepCompleted {e : Engine} (he : Engine.start none = .ok e) {calls : List Call}
    (hcalls : ∀ c ∈ calls, c.Stays) {line : String}
    (hdone : ((e.after calls).submit line).1.stepCompleted = true) :
    ∃ n fs, (e.after calls).Stands Mission.first n fs ∧ n < Mission.first.steps.length ∧
      (¬ Mission.Obstacle line fs n →
        ((e.after calls).submit line).1.outcome.success = true) ∧
      (n ≠ 6 → Mission.Obstacle line fs n →
        ((e.after calls).submit line).1.outcome.success = false) := by
  obtain ⟨n, fs, -, hstands, hfs⟩ := reaches_wellFormed he hcalls
  obtain ⟨gs, hsame, houtcome, ⟨step, hstep, hadv, -, -⟩ | ⟨-, hnone, -⟩⟩ := hstands.submit line
  · have hgs := hsame.wellFormed hfs
    refine ⟨n, fs, hstands, (List.getElem?_eq_some_iff.mp hstep).1, fun hfree => ?_, fun hn hbar => ?_⟩
    · rw [houtcome]
      rw [← Mission.obstacle_congr hsame] at hfree
      exact Mission.success_of_advances hgs hstep hadv hfree
    · rw [houtcome, Bool.eq_false_iff]
      rw [← Mission.obstacle_congr hsame] at hbar
      exact fun hsuccess => (Mission.success_iff hgs hstep hn hadv).mp hsuccess hbar
  · rw [hnone] at hdone
    cases hdone

/-- The second step is completed after the first, in the home directory. -/
theorem success_of_stepCompleted_ls :
    Engine.start none = .ok (new.load Mission.first) ∧ (∀ c ∈ [Call.submit "ssh"], c.Stays) ∧
      (((new.load Mission.first).after [.submit "ssh"]).submit "ls").1.stepCompleted = true ∧
      ∃ n fs, ((new.load Mission.first).after [.submit "ssh"]).Stands Mission.first n fs ∧
        n < Mission.first.steps.length ∧
        (¬ Mission.Obstacle "ls" fs n →
          (((new.load Mission.first).after [.submit "ssh"]).submit "ls").1.outcome.success = true) ∧
        (n ≠ 6 → Mission.Obstacle "ls" fs n →
          (((new.load Mission.first).after [.submit "ssh"]).submit "ls").1.outcome.success = false) := by
  have hstays : ∀ c ∈ [Call.submit "ssh"], c.Stays := by simp [Call.Stays]
  have hdone : (((new.load Mission.first).after [.submit "ssh"]).submit "ls").1.stepCompleted = true := by
    rfl
  exact ⟨rfl, hstays, hdone, success_of_stepCompleted rfl hstays hdone⟩

def astray : List String := ["ssh", "ls", "ls -a", "cd /"]

/-- The secret file is asked for in a directory that does not have it. -/
theorem completed_without_success :
    ¬ ∀ (e : Engine) (lines : List String) (line : String), Engine.start none = .ok e →
      ((e.after (lines.map .submit)).submit line).1.stepCompleted = true →
        ((e.after (lines.map .submit)).submit line).1.outcome.success = true := by
  intro h
  let e := new.load Mission.first
  have hdone : ((e.after (astray.map .submit)).submit "cat .secret.txt").1.stepCompleted = true := by rfl
  have hsuccess := h e astray "cat .secret.txt" rfl hdone
  -- the listings in the log do not compute, but the tree is the one that the lines leave at the shell
  have hzero := Mission.built_first.taken_zero Mission.unmarked_first
  obtain ⟨n, fs, hstands, hsame⟩ := (new.stands_load hzero).submits (.refl _) astray
  obtain ⟨gs, hgs, houtcome, -⟩ := hstands.submit "cat .secret.txt"
  have hfile : gs.file? gs.cwd ".secret.txt" = none := by
    rw [(hsame.trans hgs).file?, (hsame.trans hgs).cwd]
    rfl
  have hadv : (Mission.readSecretFile.validate "cat .secret.txt" gs).advances = true := rfl
  rw [houtcome, Mission.success_readSecretFile hadv, hfile] at hsuccess
  cases hsuccess

end Engine

end MissionShell
