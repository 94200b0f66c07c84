import MissionShell.Proofs.Shell.Columns

/-!
# Options and operands

Arguments are gone through one by one: one that starts with a dash gives its letters to the options, and any
other is an operand. A listing looks for two letters among all that were gathered and at the first operand,
so neither the way in which options are grouped nor where they stand is of any matter.

* `Listing.Scan`, `Listing.Scan.ofArguments` : the letters and the operands of some arguments;
* `Listing.Scan.mem_letters_iff`, `Listing.Scan.operands_eq` : where they come from;
* `Listing.Request.ofArguments_eq_scan` : what is asked for is read off them;
* `Listing.Alike` : arguments that ask for the same;
* `Listing.Answers` : what a listing answers by its operand and the two letters;
* `Listing.run_determined` : listings give such answers, and the same ones to arguments that are alike.
-/

namespace MissionShell.Listing

/-! ## Going through the arguments -/

/-- The letters of the options and the operands that have been met, each in their order. -/
structure Scan where
  letters : List Char
  operands : List String
deriving DecidableEq

namespace Scan

def take (s : Scan) (argument : String) : Scan :=
  if isOption argument then { s with letters := s.letters ++ argument.toList.filter (· ≠ '-') }
  else { s with operands := s.operands ++ [argument] }

def ofArguments (arguments : List String) : Scan := arguments.foldl take ⟨[], []⟩

theorem ofArguments_append_singleton (arguments : List String) (a : String) :
    ofArguments (arguments ++ [a]) = (ofArguments arguments).take a := by
  simp [ofArguments]

theorem mem_letters_take {s : Scan} {a : String} {c : Char} (hc : c ≠ '-') :
    c ∈ (s.take a).letters ↔ c ∈ s.letters ∨ isOption a = true ∧ c ∈ a.toList := by
  unfold take
  split_ifs with ha <;> simp [ha, hc]

theorem operands_take (s : Scan) (a : String) :
    (s.take a).operands = s.operands ++ [a].filter (!isOption ·) := by
  unfold take
  split_ifs with ha <;> simp [ha]

end Scan

abbrev Asks (c : Char) (arguments : List String) : Prop :=
  ∃ a ∈ arguments, isOption a = true ∧ c ∈ a.toList

namespace Scan

theorem mem_letters_iff {arguments : List String} {c : Char} (hc : c ≠ '-') :
    c ∈ (ofArguments arguments).letters ↔ Asks c arguments := by
  induction arguments using List.reverseRecOn with
  | nil => simp [ofArguments]
  | append_singleton arguments a ih =>
    rw [ofArguments_append_singleton, mem_letters_take hc, ih]
    simp [Asks, or_and_right, exists_or]

theorem operands_eq (arguments : List String) :
    (ofArguments arguments).operands = arguments.filter (!isOption ·) := by
  induction arguments using List.reverseRecOn with
  | nil => rfl
  | append_singleton arguments a ih =>
    rw [ofArguments_append_singleton, operands_take, ih, List.filter_append]

end Scan

/-- What is asked for is read off the letters and the operands. -/
theorem Request.ofArguments_eq_scan (arguments : List String) :
    Request.ofArguments arguments =
      ⟨'a' ∈ (Scan.ofArguments arguments).letters, 'l' ∈ (Scan.ofArguments arguments).letters,
        (Scan.ofArguments arguments).operands.head?⟩ := by
  have hany : ∀ c, c ≠ '-' → (arguments.any fun a => isOption a && a.toList.contains c) =
      decide (c ∈ (Scan.ofArguments arguments).letters) := by
    intro c hc
    rw [Bool.eq_iff_iff, decide_eq_true_eq, Scan.mem_letters_iff hc]
    simp
  rw [Request.ofArguments, hany 'a' (by decide), hany 'l' (by decide), Scan.operands_eq,
    List.head?_filter]

example : Scan.ofArguments ["-la", "docs", "-a"] = ⟨['l', 'a', 'a'], ["docs"]⟩ := by decide

/-! ## Arguments that ask for the same -/

/-- Each of the two letters stands in options of both or of neither, and both have the same first operand
or none. -/
structure Alike (as bs : List String) : Prop where
  hidden : Asks 'a' as ↔ Asks 'a' bs
  long : Asks 'l' as ↔ Asks 'l' bs
  operand : as.find? (!isOption ·) = bs.find? (!isOption ·)

theorem Alike.request {as bs : List String} (h : Alike as bs) :
    Request.ofArguments as = Request.ofArguments bs := by
  rw [Request.ofArguments_eq_scan, Request.ofArguments_eq_scan]
  simp only [Scan.operands_eq, List.head?_filter, h.operand, Scan.mem_letters_iff (c := 'a') (by decide),
    Scan.mem_letters_iff (c := 'l') (by decide), h.hidden, h.long]

theorem Alike.run {as bs : List String} (h : Alike as bs) (fs : Filesystem) :
    run fs as = run fs bs := by
  simp only [Listing.run, h.request]

/-! ## Answers -/

/-- The answer to a listing of `target`: there is one if a file or a directory is found there, and a file
comes first and is shown by the operand itself. Nothing is changed. -/
structure Answers (fs : Filesystem) (target : String) (hidden long : Bool) (r : Outcome) : Prop where
  success : r.success = true ↔
    (fs.fileAt? target).isSome ∨ fs.hasDirectory (fs.resolve target) = true
  file : (fs.fileAt? target).isSome → r.output = if long then longLine target else target
  directory : fs.fileAt? target = none → fs.hasDirectory (fs.resolve target) = true →
    r.output = if long then "\n".intercalate ((fs.list (fs.resolve target) hidden).map longLine)
      else "  ".intercalate (fs.list (fs.resolve target) hidden)
  failure : r.success = false → r.output = (CommandError.cannotList target).report ∧
    r.error = some (CommandError.cannotList target).summary
  filesystem : r.filesystem = none

section Run
variable {fs : Filesystem} {arguments : List String}

theorem getD_target :
    (Request.ofArguments arguments).target.getD fs.cwd.toString = operand fs arguments := rfl

theorem run_of_file (hfile : (fs.fileAt? (operand fs arguments)).isSome) :
    run fs arguments = .ok (.print
      (if (Request.ofArguments arguments).long then longLine (operand fs arguments)
        else operand fs arguments)) := by
  simp only [Listing.run, getD_target, hfile, if_true]

theorem run_of_directory (hfile : fs.fileAt? (operand fs arguments) = none)
    (hdirectory : fs.hasDirectory (fs.resolve (operand fs arguments)) = true) :
    run fs arguments = .ok (.print
      (if (Request.ofArguments arguments).long then
        "\n".intercalate ((fs.list (fs.resolve (operand fs arguments))
          (Request.ofArguments arguments).hidden).map longLine)
      else "  ".intercalate (fs.list (fs.resolve (operand fs arguments))
        (Request.ofArguments arguments).hidden))) := by
  simp only [Listing.run, getD_target, hfile, hdirectory, Option.isSome_none, Bool.false_eq_true, if_false,
    if_true]

theorem run_of_missing (hfile : fs.fileAt? (operand fs arguments) = none)
    (hdirectory : fs.hasDirectory (fs.resolve (operand fs arguments)) = false) :
    run fs arguments = .error (.cannotList (operand fs arguments)) := by
  simp only [Listing.run, getD_target, hfile, hdirectory, Option.isSome_none, Bool.false_eq_true, if_false]

end Run

theorem answers_run (fs : Filesystem) (arguments : List String) :
    Answers fs (operand fs arguments) (Request.ofArguments arguments).hidden
      (Request.ofArguments arguments).long (Outcome.ofResult (run fs arguments)) := by
  cases hfile : fs.fileAt? (operand fs arguments) with
  | some f =>
    have hsome : (fs.fileAt? (operand fs arguments)).isSome := by rw [hfile]; rfl
    rw [run_of_file hsome]
    refine ⟨iff_of_true rfl (Or.inl hsome), fun _ => rfl, fun hnone => ?_, fun h => ?_, rfl⟩
    · rw [hfile] at hnone
      cases hnone
    · cases h
  | none =>
    have hnone : ¬ (fs.fileAt? (operand fs arguments)).isSome := by simp [hfile]
    cases hdirectory : fs.hasDirectory (fs.resolve (operand fs arguments)) with
    | true =>
      rw [run_of_directory hfile hdirectory]
      exact ⟨iff_of_true rfl (Or.inr hdirectory), fun h => absurd h hnone, fun _ _ => rfl,
        fun h => (by cases h), rfl⟩
    | false =>
      rw [run_of_missing hfile hdirectory]
      refine ⟨iff_of_false Bool.false_ne_true ?_, fun h => absurd h hnone, fun _ h => ?_,
        fun _ => ⟨rfl, rfl⟩, rfl⟩
      · simp [hfile, hdirectory]
      · rw [hdirectory] at h
        cases h

/-- **A listing goes by two letters and one operand**, in every snapshot that operations can make: arguments
that are alike have one result, and the answer is that of the first operand, or of the working directory,
which always has one. -/
theorem run_determined {fs : Filesystem} (h : fs.Reachable) :
    (∀ as bs, Alike as bs → run fs as = run fs bs) ∧
    (∀ arguments, Answers fs ((Scan.ofArguments arguments).operands.head?.getD fs.cwd.toString)
      ('a' ∈ (Scan.ofArguments arguments).letters) ('l' ∈ (Scan.ofArguments arguments).letters)
      (Outcome.ofResult (run fs arguments))) ∧
    ∀ arguments, (Scan.ofArguments arguments).operands = [] →
      (Outcome.ofResult (run fs arguments)).success = true := by
  have hanswers : ∀ arguments,
      Answers fs ((Scan.ofArguments arguments).operands.head?.getD fs.cwd.toString)
        ('a' ∈ (Scan.ofArguments arguments).letters) ('l' ∈ (Scan.ofArguments arguments).letters)
        (Outcome.ofResult (run fs arguments)) := fun arguments => by
    have hanswer := answers_run fs arguments
    rw [Request.ofArguments_eq_scan, operand, ← List.head?_filter, ← Scan.operands_eq] at hanswer
    exact hanswer
  refine ⟨fun as bs halike => halike.run fs, hanswers, fun arguments hnone => ?_⟩
  have hwf := h.wellFormed
  rw [(hanswers arguments).success, hnone, List.head?_nil, Option.getD_none,
    hwf.resolve_toString hwf.cwd]
  exact Or.inr hwf.cwd

/-- A file that has the name of the working directory is what is listed there, options grouped and repeated
in two ways list the directory above alike, and operands behind the first are of no matter. -/
theorem run_determined_twin :
    ∃ fs, Shell.after Filesystem.seed ["mkdir d", "touch d", "cd d"] = fs ∧ fs.Reachable ∧
      (Outcome.ofResult (run fs [])).output = "/home/user/d" ∧
      Alike ["-la", "..", "x"] ["..", "-z", "-a-", "-lll"] ∧
      run fs ["-la", "..", "x"] = run fs ["..", "-z", "-a-", "-lll"] := by
  have hreach := Shell.reachable_after .seed ["mkdir d", "touch d", "cd d"]
  obtain ⟨halike, hanswers, -⟩ := run_determined hreach
  have hsame : Alike ["-la", "..", "x"] ["..", "-z", "-a-", "-lll"] :=
    ⟨by decide, by decide, by decide⟩
  exact ⟨_, rfl, hreach, (hanswers []).file rfl, hsame, halike _ _ hsame⟩

end MissionShell.Listing
