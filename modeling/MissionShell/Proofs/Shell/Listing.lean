import MissionShell.Proofs.Filesystem.NewDirectory
import MissionShell.Proofs.Shell.Addressing
import MissionShell.Proofs.Shell.Columns

/-!
# What a listing lists

A listing is put in order by the texts that it shows, subdirectories with a slash behind their names. Which
files it leaves out depends on a flag that is stored with a file when it is made and stays with it when it is
written again; the flag never comes apart from the name.

* `Text.InOrder` : the order of texts by code points;
* `Directory.sorted_list`, `Directory.perm_list`, `Directory.exists_shown_plain` : a full listing, and the
  plain one as a part of it;
* `Filesystem.Flags`, `Filesystem.Flagged` : flags that are stored with files, along a run of operations;
* `Filesystem.Flagged.flags_eq` : they are the flags of files that have just been made;
* `Filesystem.Reachable.lists` : the listings of every snapshot that operations can make.
-/

namespace MissionShell

/-! ## The order of a listing -/

/-- The first text does not come behind the second when they are compared by their code points. -/
def Text.InOrder (a b : String) : Prop :=
  ¬ List.Lex (fun m n : Nat => m < n) (b.toList.map Char.toNat) (a.toList.map Char.toNat)

theorem Text.inOrder_of_le {a b : String} (h : a ≤ b) : InOrder a b :=
  List.map_le (f := Char.toNat) (fun _ _ hlt => hlt) h

namespace Listing.Shown

def isDotFile : Shown → Bool
  | directory _ => false
  | file text => text.toList.head? = some '.'

theorem isDotFile_shown (e : Entry) : (!e.shown.isDotFile) = e.visible false := by
  cases e <;> rfl

end Listing.Shown

namespace Directory
open Listing (Shown)

theorem pairwise_list (d : Directory) (showHidden : Bool) :
    (d.list showHidden).Pairwise (· ≤ ·) := by
  have htrans : ∀ a b c : String, decide (a ≤ b) = true → decide (b ≤ c) = true →
      decide (a ≤ c) = true := fun a b c hab hbc =>
    decide_eq_true (String.le_trans (of_decide_eq_true hab) (of_decide_eq_true hbc))
  have htotal : ∀ a b : String, (decide (a ≤ b) || decide (b ≤ a)) = true := fun a b => by
    simpa using String.le_total a b
  exact (List.pairwise_mergeSort htrans htotal _).imp of_decide_eq_true

theorem sorted_list (d : Directory) (showHidden : Bool) :
    (d.list showHidden).Pairwise Text.InOrder :=
  (d.pairwise_list showHidden).imp Text.inOrder_of_le

/-- Texts that are in order are determined by what they are. -/
theorem list_eq_of_perm {d : Directory} {showHidden : Bool} {items : List String}
    (hsorted : items.Pairwise (· ≤ ·)) (hperm : (d.list showHidden).Perm items) :
    d.list showHidden = items :=
  List.Perm.eq_of_pairwise (fun _ _ _ _ => String.le_antisymm) (d.pairwise_list showHidden) hsorted hperm

/-- A full listing shows every child once. -/
theorem perm_list (d : Directory) :
    (d.list true).Perm (d.subdirectories.map (· ++ "/") ++ d.files.map (·.name)) := by
  have hall : d.files.filter (fun f => true || !f.hidden) = d.files := List.filter_true _
  rw [list, hall]
  exact List.mergeSort_perm _ _

/-- The plain listing is the full one without the files whose names start with a dot. -/
theorem exists_shown_plain (d : Directory) :
    ∃ shown : List Shown, shown.Perm (d.entries.map Entry.shown) ∧
      d.list true = shown.map Shown.text ∧
      d.list false = (shown.filter (!·.isDotFile)).map Shown.text := by
  obtain ⟨shown, hperm, htexts⟩ := d.exists_shown true
  obtain ⟨plain, hplain, hplaintexts⟩ := d.exists_shown false
  have hall : d.entries.filter (Entry.visible true) = d.entries :=
    List.filter_eq_self.mpr fun e _ => by cases e <;> rfl
  rw [hall] at hperm
  refine ⟨shown, hperm, htexts.symm, ?_⟩
  have hsame : plain.Perm (shown.filter (!·.isDotFile)) := by
    have hfilter := hperm.filter (!·.isDotFile)
    rw [List.filter_map] at hfilter
    simp only [Function.comp_def, Shown.isDotFile_shown] at hfilter
    exact hplain.trans hfilter.symm
  refine list_eq_of_perm ?_ ?_
  · have hsorted := d.pairwise_list true
    rw [← htexts] at hsorted
    exact hsorted.sublist (List.filter_sublist.map _)
  · rw [← hplaintexts]
    exact hsame.map _

end Directory

/-! ## Stored flags -/

namespace Filesystem

/-- For each directory and each name, whether the file there is stored as hidden, if there is one. -/
abbrev Flags := Path → String → Option Bool

namespace Flags

def ofName (name : String) : Bool := name.toList.head? = some '.'

def fresh (fs : Filesystem) : Flags := fun p name => (fs.file? p name).map fun _ => ofName name

def set (flags : Flags) (p : Path) (name : String) (flag : Option Bool) : Flags :=
  fun q other => if q = p ∧ other = name then flag else flags q other

/-- The flags after an operation on `fs`: touching a name puts a file there that has just been made, and
writing to a file keeps its flag. -/
def apply (flags : Flags) (fs : Filesystem) : Operation → Flags
  | .touch name => flags.set fs.cwd name (some (ofName name))
  | .write name _ => flags.set fs.cwd name (some ((flags fs.cwd name).getD (ofName name)))
  | .remove name => flags.set fs.cwd name none
  | .makeDirectory _ | .changeDirectory _ | .record _ => flags

end Flags

/-- The snapshots that operations make of the ready-made ones, with the flags that are stored in them. -/
inductive Flagged : Filesystem → Flags → Prop where
  | empty : Flagged empty (Flags.fresh empty)
  | seed : Flagged seed (Flags.fresh seed)
  | apply {fs : Filesystem} {flags : Flags} (h : Flagged fs flags) (op : Operation) :
      Flagged (fs.apply op) (flags.apply fs op)

theorem Flagged.reachable {fs : Filesystem} {flags : Flags} (h : fs.Flagged flags) : fs.Reachable := by
  induction h with
  | empty => exact .empty
  | seed => exact .seed
  | apply _ op ih => exact ih.apply op

theorem Reachable.exists_flagged {fs : Filesystem} (h : fs.Reachable) : ∃ flags, fs.Flagged flags := by
  induction h with
  | empty => exact ⟨_, .empty⟩
  | seed => exact ⟨_, .seed⟩
  | apply _ op ih =>
    obtain ⟨flags, hflags⟩ := ih
    exact ⟨_, hflags.apply op⟩

theorem file?_makeDirectory (fs : Filesystem) (text : String) (p : Path) (name : String) :
    (fs.makeDirectory text).file? p name = fs.file? p name := by
  rcases fs.makeDirectory_cases text with hsame | ⟨parent, new, d, -, -, hnew, -, hnext⟩
  · rw [hsame]
  · rw [hnext, file?_eq_find?_filesIn, file?_eq_find?_filesIn, filesIn_addDirectory hnew]

theorem file?_changeDirectory (fs : Filesystem) (text : String) (p : Path) (name : String) :
    (fs.changeDirectory text).file? p name = fs.file? p name := by
  rw [changeDirectory_eq]
  split_ifs <;> rfl

/-- A change to one file of the working directory changes its flag alone. -/
theorem Frame.fresh_eq {fs gs : Filesystem} {name : String} (h : fs.Frame gs name) :
    Flags.fresh gs =
      (Flags.fresh fs).set fs.cwd name ((gs.file? fs.cwd name).map fun _ => Flags.ofName name) := by
  funext p other
  unfold Flags.set
  split_ifs with hplace
  · rw [hplace.1, hplace.2, Flags.fresh]
  · rw [Flags.fresh, Flags.fresh, h.file? p other fun heq => hplace (Prod.mk.inj heq)]

namespace WellFormed
variable {fs : Filesystem} (h : fs.WellFormed)
include h

theorem fresh_write (name content : String) :
    Flags.fresh (fs.write name content) = (Flags.fresh fs).set fs.cwd name (some (Flags.ofName name)) := by
  obtain ⟨f, hf, -⟩ := (h.stores_write name content).stored
  rw [(fs.frame_write name content).fresh_eq, hf]
  rfl

/-- An operation does to the flags of files that have just been made what it does to the files. -/
theorem fresh_apply (op : Operation) : (Flags.fresh fs).apply fs op = Flags.fresh (fs.apply op) := by
  cases op with
  | makeDirectory text =>
    funext p name
    exact congrArg (Option.map _) (fs.file?_makeDirectory text p name).symm
  | changeDirectory text =>
    funext p name
    exact congrArg (Option.map _) (fs.file?_changeDirectory text p name).symm
  | touch name =>
    rw [Filesystem.apply, touch_eq_write, h.fresh_write]
    rfl
  | write name content =>
    -- the flag that is kept is the one that a new file would get
    have hkept : ((Flags.fresh fs) fs.cwd name).getD (Flags.ofName name) = Flags.ofName name := by
      rw [Flags.fresh]
      cases fs.file? fs.cwd name <;> rfl
    rw [Flags.apply, hkept]
    exact (h.fresh_write name content).symm
  | remove name =>
    rw [Filesystem.apply, (fs.frame_remove name).fresh_eq, fs.file?_remove name]
    rfl
  | record entry => rfl

end WellFormed

/-- Stored flags are those of files that have just been made, whatever has been written to them since. -/
theorem Flagged.flags_eq {fs : Filesystem} {flags : Flags} (h : fs.Flagged flags) :
    flags = Flags.fresh fs := by
  induction h with
  | empty | seed => rfl
  | apply hflags op ih =>
    rw [ih]
    exact hflags.reachable.wellFormed.fresh_apply op

def listBy (fs : Filesystem) (flags : Flags) (p : Path) (showHidden : Bool) : List String :=
  ((fs.subdirectoriesIn p).map (· ++ "/") ++
    ((fs.filesIn p).filter fun f => showHidden || flags p f.name = some false).map (·.name)).mergeSort

theorem Flagged.stored {fs : Filesystem} {flags : Flags} (h : fs.Flagged flags) {p : Path} {f : File}
    (hf : f ∈ fs.filesIn p) : flags p f.name = some f.hidden := by
  cases hd : fs.directory? p with
  | none => simp [filesIn, hd] at hf
  | some d =>
    rw [filesIn_of_directory? hd] at hf
    rw [h.flags_eq, Flags.fresh, h.reachable.wellFormed.file?_of_mem hd hf]
    rfl

theorem Flagged.listBy_eq {fs : Filesystem} {flags : Flags} (h : fs.Flagged flags) (p : Path)
    (showHidden : Bool) : fs.listBy flags p showHidden = fs.list p showHidden := by
  have hflag : ∀ f ∈ fs.filesIn p, (showHidden || decide (flags p f.name = some false)) =
      (showHidden || !f.hidden) := fun f hf => by
    rw [h.stored hf]
    cases f.hidden <;> simp
  rw [listBy, List.filter_congr hflag, Filesystem.list, filesIn, subdirectoriesIn]
  cases fs.directory? p with
  | none => simp
  | some d => rfl

/-! ## The listings of a snapshot -/

/-- The listings of the path `p` show the directory `d`: all of it in order and once each, and without the
files whose names start with a dot. -/
structure Lists (fs : Filesystem) (p : Path) (d : Directory) : Prop where
  sorted : (fs.list p true).Pairwise Text.InOrder
  complete : (fs.list p true).Perm (d.subdirectories.map (· ++ "/") ++ d.files.map (·.name))
  plain : ∃ shown : List Listing.Shown, shown.Perm (d.entries.map Entry.shown) ∧
    fs.list p true = shown.map Listing.Shown.text ∧
    fs.list p false = (shown.filter (!·.isDotFile)).map Listing.Shown.text

theorem list_of_directory? {fs : Filesystem} {p : Path} {d : Directory} (hd : fs.directory? p = some d)
    (showHidden : Bool) : fs.list p showHidden = d.list showHidden := by
  rw [list, hd]
  rfl

theorem lists_of_directory? {fs : Filesystem} {p : Path} {d : Directory}
    (hd : fs.directory? p = some d) : fs.Lists p d := by
  have hlist := fs.list_of_directory? hd
  obtain ⟨shown, hperm, hfull, hplain⟩ := d.exists_shown_plain
  refine ⟨?_, ?_, shown, hperm, ?_, ?_⟩
  · rw [hlist]
    exact d.sorted_list true
  · rw [hlist]
    exact d.perm_list
  · rw [hlist, hfull]
  · rw [hlist, hplain]

/-- **Listings are exact** in every snapshot that operations can make: those of a directory show what it
holds, any other path has empty ones, and it makes no difference that files go by the flags that were stored
when they were made. -/
theorem Reachable.lists {fs : Filesystem} (h : fs.Reachable) :
    (∀ (text : Option String) (d : Directory), fs.directory? (fs.target text) = some d →
      fs.Lists (fs.target text) d) ∧
    (∀ (text : Option String) (showHidden : Bool), fs.directory? (fs.target text) = none →
      fs.list (fs.target text) showHidden = []) ∧
    (∃ flags, fs.Flagged flags) ∧
    ∀ flags, fs.Flagged flags →
      (∀ (p : Path) (f : File), f ∈ fs.filesIn p →
        flags p f.name = some (f.name.toList.head? = some '.' : Bool)) ∧
      ∀ (p : Path) (showHidden : Bool), fs.listBy flags p showHidden = fs.list p showHidden := by
  refine ⟨fun _ _ hd => fs.lists_of_directory? hd, fun text showHidden hnone => ?_, h.exists_flagged,
    fun flags hflags => ⟨fun p f hf => hflags.stored hf, hflags.listBy_eq⟩⟩
  rw [list, hnone]
  rfl

def dottedHome : Directory :=
  ⟨Path.home, [.file ⟨".secret.txt", "burned"⟩, .file readmeFile, .file ⟨".x/", ""⟩, .directory ".x"]⟩

/-- A hidden file that is written over, and a file and a directory that are shown by one text. -/
theorem lists_dots :
    ∃ fs d, ((seed.apply (.write ".secret.txt" "burned")).apply (.touch ".x/")).apply
        (.makeDirectory ".x") = fs ∧ fs.Reachable ∧ fs.directory? (fs.target none) = some d ∧
      fs.Lists (fs.target none) d ∧
      fs.list (fs.target none) true = [".secret.txt", ".x/", ".x/", "readme.txt"] ∧
      fs.list (fs.target none) false = [".x/", "readme.txt"] ∧
      fs.directory? (fs.target (some "readme.txt")) = none ∧
      fs.list (fs.target (some "readme.txt")) true = [] := by
  have hreach := ((Reachable.seed.apply (.write ".secret.txt" "burned")).apply (.touch ".x/")).apply
    (.makeDirectory ".x")
  obtain ⟨hlists, hempty, -⟩ := hreach.lists
  have hfull : dottedHome.list true = [".secret.txt", ".x/", ".x/", "readme.txt"] :=
    Directory.list_eq_of_perm (by decide) ((List.mergeSort_perm _ _).trans (by decide))
  have hplain : dottedHome.list false = [".x/", "readme.txt"] :=
    Directory.list_eq_of_perm (by decide) ((List.mergeSort_perm _ _).trans (by decide))
  refine ⟨_, dottedHome, rfl, hreach, rfl, hlists none dottedHome rfl, ?_, ?_, rfl, ?_⟩
  · exact (list_of_directory? rfl true).trans hfull
  · exact (list_of_directory? rfl false).trans hplain
  · exact hempty (some "readme.txt") true rfl

end Filesystem

end MissionShell
