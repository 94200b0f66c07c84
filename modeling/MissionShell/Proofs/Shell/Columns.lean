import MissionShell.Proofs.Shell.Operation
import Mathlib.Data.List.Perm.Basic

/-!
# The columns of long listings

A long listing tells directories from files by the text that an entry is shown by, and a directory by the
slash behind its name. A file can be shown by such a text as well: under an operand that was typed with a
slash at its end, or by a name that ends in one. Its line then is that of a directory.

* `Listing.Shown` : what a line shows, with its text, its proper line and whether the text misleads;
* `Listing.longLine_eq_line_iff` : which lines have the columns of what they show;
* `Directory.exists_shown` : the children of a directory in the order in which they are listed;
* `Listing.Shows` : what a listing shows;
* `Listing.run_long` : the lines of a long listing;
* `Listing.run_long_append_slash` : the spellings under which files have the columns of directories.
-/

namespace MissionShell

/-! ## Lines -/

namespace Listing

def directoryLine (text : String) : String :=
  directoryPermissions ++ " 1 user user     4096 Nov 15 10:30 " ++ text

def fileLine (text : String) : String :=
  File.permissions ++ " 1 user user     1024 Nov 15 10:30 " ++ text

/-- What a line of a listing shows: a directory by its name, or a file by a text. -/
inductive Shown where
  | directory (name : String)
  | file (text : String)
deriving DecidableEq

namespace Shown

def text : Shown → String
  | directory name => name ++ "/"
  | file text => text

def line : Shown → String
  | directory name => directoryLine (name ++ "/")
  | file text => fileLine text

/-- A file that is shown by a text that ends in a slash. -/
def Misleading : Shown → Prop
  | directory _ => False
  | file text => text.toList.getLast? = some '/'

instance (s : Shown) : Decidable s.Misleading := by
  cases s <;> unfold Misleading <;> infer_instance

end Shown

theorem longLine_of_slash {text : String} (h : text.toList.getLast? = some '/') :
    longLine text = directoryLine text := if_pos h

/-- No line has the columns of both kinds. -/
theorem directoryLine_ne_fileLine (text other : String) : directoryLine text ≠ fileLine other := by
  intro h
  have hhead := congrArg (·.toList.head?) h
  simp [directoryLine, fileLine, directoryPermissions, File.permissions] at hhead

/-- A line has the columns of what it shows exactly if it does not mislead. -/
theorem longLine_eq_line_iff (s : Shown) : longLine s.text = s.line ↔ ¬ s.Misleading := by
  cases s with
  | directory name =>
    have hlast : (name ++ "/").toList.getLast? = some '/' := by simp
    exact iff_of_true (longLine_of_slash hlast) not_false
  | file text =>
    by_cases h : text.toList.getLast? = some '/'
    · refine iff_of_false (fun heq => ?_) (not_not.mpr h)
      exact directoryLine_ne_fileLine text text ((longLine_of_slash h).symm.trans heq)
    · exact iff_of_true (if_neg h) h

theorem longLine_of_misleading {s : Shown} (h : s.Misleading) :
    longLine s.text = directoryLine s.text := by
  cases s with
  | directory name => exact h.elim
  | file text => exact longLine_of_slash h

end Listing

/-! ## The children of a directory -/

open Listing (Shown)

def Entry.visible (showHidden : Bool) : Entry → Bool
  | directory _ => true
  | file f => showHidden || !f.hidden

def Entry.shown : Entry → Shown
  | directory name => .directory name
  | file f => .file f.name

namespace Directory

/-- The subdirectories and then the files are the entries in another order. -/
theorem perm_shown (entries : List Entry) (showHidden : Bool) :
    ((entries.filterMap Entry.directoryName?).map Shown.directory ++
        ((entries.filterMap Entry.file?).filter fun f => showHidden || !f.hidden).map
          fun f => Shown.file f.name).Perm
      ((entries.filter (Entry.visible showHidden)).map Entry.shown) := by
  induction entries with
  | nil => exact .refl _
  | cons e entries ih =>
    cases e with
    | directory name => exact ih.cons _
    | file f =>
      have hnames : (Entry.file f :: entries).filterMap Entry.directoryName? =
          entries.filterMap Entry.directoryName? := rfl
      have hfiles : (Entry.file f :: entries).filterMap Entry.file? =
          f :: entries.filterMap Entry.file? := rfl
      rw [hnames, hfiles]
      by_cases h : (showHidden || !f.hidden) = true
      · have hvisible : (Entry.file f).visible showHidden = true := h
        rw [List.filter_cons_of_pos hvisible,
          List.filter_cons_of_pos (p := fun f : File => showHidden || !f.hidden) h]
        -- a file stands behind all subdirectories, wherever it was made
        exact List.perm_middle.trans (ih.cons _)
      · have hhidden : ¬ (Entry.file f).visible showHidden = true := h
        rw [List.filter_cons_of_neg hhidden,
          List.filter_cons_of_neg (p := fun f : File => showHidden || !f.hidden) h]
        exact ih

/-- A listing shows each visible child once. -/
theorem exists_shown (d : Directory) (showHidden : Bool) :
    ∃ shown : List Shown,
      shown.Perm ((d.entries.filter (Entry.visible showHidden)).map Entry.shown) ∧
        shown.map Shown.text = d.list showHidden := by
  refine ⟨_, (List.mergeSort_perm _ fun a b => a.text ≤ b.text).trans (perm_shown _ _), ?_⟩
  -- what is sorted are the texts, and what is shown goes with them
  have hsort : ∀ shown : List Shown, (shown.mergeSort fun a b => a.text ≤ b.text).map Shown.text =
      (shown.map Shown.text).mergeSort := fun _ => List.map_mergeSort fun _ _ _ _ => rfl
  rw [hsort, List.map_append, List.map_map, List.map_map]
  rfl

end Directory

/-! ## What is listed -/

theorem Filesystem.fileAt?_append_slash (fs : Filesystem) {text : String} (htext : text ≠ "") :
    fs.fileAt? (text ++ "/") = fs.fileAt? text := by
  have hresolve : fs.resolve (text ++ "/") = fs.resolve text := by
    have happend := fs.cwd.resolve_append_slash htext ""
    rwa [String.append_empty, Path.follow_nil] at happend
  simp only [Filesystem.fileAt?, hresolve]

namespace Listing

/-- What is listed, as it was typed: the first argument that is no option, or the working directory. -/
def operand (fs : Filesystem) (arguments : List String) : String :=
  (arguments.find? (!isOption ·)).getD fs.cwd.toString

/-- What a listing shows: the file that the operand leads to, by the operand as it was typed, or else
the visible children of the directory that it leads to. -/
inductive Shows (fs : Filesystem) (arguments : List String) : List Shown → Prop
  | file (hfile : (fs.fileAt? (operand fs arguments)).isSome) :
      Shows fs arguments [.file (operand fs arguments)]
  | directory {d : Directory} {shown : List Shown}
      (hfile : fs.fileAt? (operand fs arguments) = none)
      (hdirectory : fs.directory? (fs.resolve (operand fs arguments)) = some d)
      (hshown : shown.Perm
        ((d.entries.filter (Entry.visible (Request.ofArguments arguments).hidden)).map Entry.shown)) :
      Shows fs arguments shown

theorem long_of_option {arguments : List String}
    (h : ∃ a ∈ arguments, isOption a = true ∧ 'l' ∈ a.toList) :
    (Request.ofArguments arguments).long = true := by
  obtain ⟨a, ha, hoption, hl⟩ := h
  refine List.any_eq_true.mpr ⟨a, ha, ?_⟩
  rw [hoption, List.contains_iff_mem.mpr hl]
  rfl

/-- A long listing prints the lines of what it shows. -/
theorem exists_shows {fs : Filesystem} {arguments : List String} {effect : Effect}
    (hlong : (Request.ofArguments arguments).long = true) (hrun : run fs arguments = .ok effect) :
    ∃ shown, Shows fs arguments shown ∧
      effect = .print ("\n".intercalate (shown.map fun s => longLine s.text)) := by
  have htarget : (Request.ofArguments arguments).target.getD fs.cwd.toString =
      operand fs arguments := rfl
  simp only [run, hlong, htarget, if_true] at hrun
  split_ifs at hrun with hfile hdirectory
  · cases hrun
    exact ⟨_, .file hfile, by simp [Shown.text]⟩
  · obtain ⟨d, hd⟩ := Filesystem.hasDirectory_iff.mp hdirectory
    obtain ⟨shown, hperm, htexts⟩ := d.exists_shown (Request.ofArguments arguments).hidden
    cases hrun
    refine ⟨shown, .directory (Option.not_isSome_iff_eq_none.mp hfile) hd hperm, ?_⟩
    have hlist : fs.list (fs.resolve (operand fs arguments)) (Request.ofArguments arguments).hidden =
        shown.map Shown.text := by
      rw [Filesystem.list, hd, htexts]
      rfl
    rw [hlist, List.map_map]
    rfl

/-- **The lines of a long listing.** There is one for each thing shown, and it has the columns of what it
shows unless that is a file shown by a text that ends in a slash; such a file gets those of a directory. -/
theorem run_long {fs : Filesystem} {arguments : List String} {effect : Effect}
    (hlong : ∃ a ∈ arguments, isOption a = true ∧ 'l' ∈ a.toList)
    (hrun : run fs arguments = .ok effect) :
    ∃ shown, Shows fs arguments shown ∧
      effect = .print ("\n".intercalate (shown.map fun s => longLine s.text)) ∧
      ∀ s ∈ shown, (longLine s.text = s.line ↔ ¬ s.Misleading) ∧
        (s.Misleading → longLine s.text = directoryLine s.text) := by
  obtain ⟨shown, hshows, htext⟩ := exists_shows (long_of_option hlong) hrun
  exact ⟨shown, hshows, htext, fun s _ => ⟨longLine_eq_line_iff s, longLine_of_misleading⟩⟩

/-- A home with the file `x/` and the directory `x`, which a long listing shows by one text. -/
theorem run_long_home :
    ∃ (fs : Filesystem) (shown : List Shown),
      Shell.after Filesystem.seed ["touch x/", "mkdir x"] = fs ∧
      run fs ["-a", "-dl"] = .ok (.print ("\n".intercalate (shown.map fun s => longLine s.text))) ∧
      (Shown.file "x/" ∈ shown ∧ longLine "x/" ≠ fileLine "x/") ∧
      (Shown.directory "x" ∈ shown ∧ longLine "x/" = directoryLine "x/") := by
  have hlong : ∃ a ∈ ["-a", "-dl"], isOption a = true ∧ 'l' ∈ a.toList :=
    ⟨"-dl", by decide, by decide, by decide⟩
  have hrun : run (Shell.after Filesystem.seed ["touch x/", "mkdir x"]) ["-a", "-dl"] = .ok _ := rfl
  obtain ⟨shown, hshows, heffect, hlines⟩ := run_long hlong hrun
  cases hshows with
  | file hfile => cases hfile
  | directory hfile hdirectory hperm =>
    cases hdirectory
    have hx : Shown.file "x/" ∈ shown := hperm.mem_iff.mpr (by decide)
    have hdir : Shown.directory "x" ∈ shown := hperm.mem_iff.mpr (by decide)
    refine ⟨_, shown, rfl, congrArg _ heffect, ⟨hx, fun h => ?_⟩, hdir, ?_⟩
    · exact (hlines _ hx).1.mp h (by decide)
    · exact (hlines _ hdir).1.mpr (by decide)

/-- A file that is listed under a spelling with a slash behind it gets the columns of a directory. -/
theorem run_long_append_slash {fs : Filesystem} {text : String} (htext : text ≠ "")
    (hoption : isOption text = false) (hfile : (fs.fileAt? text).isSome) :
    run fs ["-l", text ++ "/"] = .ok (.print (directoryLine (text ++ "/"))) := by
  have hslash : isOption (text ++ "/") = false := by
    rwa [isOption, Path.head?_toList_append htext, ← isOption]
  have htarget : (Request.ofArguments ["-l", text ++ "/"]).target = some (text ++ "/") := by
    simp [Request.ofArguments, hslash, show isOption "-l" = true from rfl]
  have hlast : (text ++ "/").toList.getLast? = some '/' := by simp
  rw [← fs.fileAt?_append_slash htext] at hfile
  simp only [run, htarget, Option.getD_some, if_pos hfile]
  rw [← longLine_of_slash hlast]
  rfl

/-- Not every long listing has the columns of what it shows: `readme.txt/` gets those of a directory. -/
theorem columns_of_slash :
    ¬ ∀ (lines arguments : List String) (text : String),
      (∃ a ∈ arguments, isOption a = true ∧ 'l' ∈ a.toList) →
        run (Shell.after Filesystem.seed lines) arguments = .ok (.print text) →
          ∃ shown, Shows (Shell.after Filesystem.seed lines) arguments shown ∧
            text = "\n".intercalate (shown.map Shown.line) := by
  intro h
  obtain ⟨shown, hshows, htext⟩ := h [] ["-l", "readme.txt/"] (directoryLine "readme.txt/")
    ⟨"-l", by decide, by decide, by decide⟩ rfl
  cases hshows with
  | file hfile => exact directoryLine_ne_fileLine _ _ htext
  | directory hfile => cases hfile

end Listing

end MissionShell
