import MissionShell.Proofs.Filesystem.Persistence
import MissionShell.Proofs.Quest.Step
import MissionShell.Proofs.Quest.Submission

/-!
# The first mission can always be completed

One list of fourteen lines completes the first mission wherever it stands. The first three go to the
root and see to it that there is a folder called `hackzone` there, which nothing can prevent; from there
on the steps are taken one after the other. A line whose step was taken before does no harm.

* `Quest.Leads` : a script that takes some steps, and what it asks of the tree;
* `Quest.leads_of_takes` : lines that take their steps on every tree;
* `Filesystem.AtRoot`, `Filesystem.Free`, `Filesystem.Holds` : the tree after each of the first lines;
* `Mission.script`, `Engine.completed_after_script` : the script and what it does.
-/

namespace MissionShell

/-! ## Scripts -/

/-- From the first `n` steps and a tree with the property `P`, the lines lead to the first `m` steps
and a tree with the property `Q`. -/
def Quest.Leads (q : Quest) (n : Nat) (P : Filesystem → Prop) (lines : List String) (m : Nat)
    (Q : Filesystem → Prop) : Prop :=
  ∀ e : Engine, e.Reaches q n P → (e.after (lines.map .submit)).Reaches q m Q

/-- The line completes the step on every tree. -/
def Step.Takes (s : Step) (line : String) : Prop := ∀ fs, (s.validate line fs).advances = true

namespace Quest
variable {q : Quest} {n m k : Nat} {P Q R : Filesystem → Prop} {line : String} {lines more : List String}

theorem leads_nil (q : Quest) (n : Nat) (P : Filesystem → Prop) : q.Leads n P [] n P := fun _ h => h

theorem Leads.append (h : q.Leads n P lines m Q) (h' : q.Leads m Q more k R) :
    q.Leads n P (lines ++ more) k R := by
  intro e he
  rw [List.map_append, Engine.after, List.foldl_append]
  exact h' _ (h e he)

/-- A line that prepares the tree. -/
theorem Leads.pass (h : q.Leads n Q lines m R) (hP : Filesystem.OfTree P)
    (hnext : ∀ fs, P fs → Q (Shell.next fs line)) : q.Leads n P (line :: lines) m R :=
  fun _ he => h _ (he.submit hP hnext)

/-- A line that takes a step. -/
theorem Leads.take (h : q.Leads (n + 1) Q lines m R) (hP : Filesystem.OfTree P) {step : Step}
    (hstep : q.steps[n]? = some step) (hnext : ∀ fs, P fs → Q (Shell.next fs line))
    (hline : ∀ fs, P fs → (step.validate line (Shell.next fs line)).advances = true) :
    q.Leads n P (line :: lines) m R :=
  fun _ he => h _ (he.submit_step hP hstep hnext hline)

/-- Lines that take their steps on every tree, and keep the property. -/
theorem leads_of_takes (hP : Filesystem.OfTree P) {steps : List Step}
    (htakes : List.Forall₂ Step.Takes steps lines) (hsteps : steps <+: q.steps.drop n)
    (hkeep : ∀ l ∈ lines, ∀ fs, P fs → P (Shell.next fs l)) :
    q.Leads n P lines (n + lines.length) P := by
  induction htakes generalizing n with
  | nil => exact q.leads_nil n P
  | @cons step line steps lines hline _ ih =>
    obtain ⟨rest, hrest⟩ := hsteps
    have hstep : q.steps[n]? = some step := by
      rw [← List.head?_drop, ← hrest]
      rfl
    have htail : steps <+: q.steps.drop (n + 1) := by
      refine ⟨rest, ?_⟩
      rw [← List.tail_drop, ← hrest]
      rfl
    have hnext := ih htail fun l hl => hkeep l (List.mem_cons_of_mem line hl)
    rw [List.length_cons, Nat.add_comm lines.length, ← Nat.add_assoc]
    exact hnext.take hP hstep (hkeep line List.mem_cons_self) fun fs _ => hline _

end Quest

/-! ## The tree -/

namespace Filesystem

def AtRoot (fs : Filesystem) : Prop := fs.WellFormed ∧ fs.cwd = Path.root

def Free (name : String) (fs : Filesystem) : Prop :=
  fs.AtRoot ∧ fs.file? Path.root name = none

def Holds (name : String) (fs : Filesystem) : Prop :=
  fs.AtRoot ∧ fs.hasDirectory (Path.root.child name) = true

theorem ofTree_atRoot : OfTree AtRoot :=
  fun _ _ h ⟨hwf, hcwd⟩ => ⟨h.wellFormed hwf, h.cwd.trans hcwd⟩

theorem ofTree_free (name : String) : OfTree (Free name) :=
  fun fs gs h ⟨hroot, hfile⟩ => ⟨ofTree_atRoot fs gs h hroot, by rw [h.file?, hfile]⟩

theorem ofTree_holds (name : String) : OfTree (Holds name) :=
  fun fs gs h ⟨hroot, hdir⟩ => ⟨ofTree_atRoot fs gs h hroot, by rw [h.hasDirectory, hdir]⟩

variable {fs : Filesystem} {name : String}

theorem WellFormed.atRoot_changeDirectory (h : fs.WellFormed) : (fs.changeDirectory "/").AtRoot := by
  have hroot : fs.resolve "/" = Path.root := Path.resolve_toString fs.cwd Path.proper_root
  refine ⟨h.changeDirectory "/", ?_⟩
  rw [changeDirectory_eq, hroot, if_pos h.root]

theorem AtRoot.apply (h : fs.AtRoot) (op : Operation) (hop : ∀ text, op ≠ .changeDirectory text) :
    (fs.apply op).AtRoot := ⟨h.1.apply op, (cwd_apply hop fs).trans h.2⟩

theorem AtRoot.free_remove (h : fs.AtRoot) (name : String) : (fs.remove name).Free name := by
  refine ⟨h.apply (.remove name) fun _ => Operation.noConfusion, ?_⟩
  rw [← h.2]
  exact fs.file?_remove name

theorem Free.holds_makeDirectory (h : fs.Free name) (hname : Path.IsName name) :
    (fs.makeDirectory name).Holds name := by
  obtain ⟨hroot, hfile⟩ := h
  refine ⟨hroot.apply (.makeDirectory name) fun _ => Operation.noConfusion, ?_⟩
  rw [← hroot.2] at hfile ⊢
  exact hroot.1.hasDirectory_makeDirectory_name hname hfile

theorem Holds.apply (h : fs.Holds name) (op : Operation)
    (hop : ∀ text, op ≠ .changeDirectory text) : (fs.apply op).Holds name :=
  ⟨h.1.apply op hop, hasDirectory_apply h.2 op⟩

theorem Holds.cwd_changeDirectory (h : fs.Holds name) (hname : Path.IsName name) :
    (fs.changeDirectory name).cwd = Path.root.child name := by
  have hresolve : fs.resolve name = Path.root.child name := by
    rw [resolve, h.1.2, Path.resolve_name _ hname]
  rw [changeDirectory_eq, hresolve, if_pos h.2]

end Filesystem

namespace Shell

theorem next_of_operation? {line : String} {op : Filesystem.Operation}
    (h : operation? line = some op) (fs : Filesystem) : next fs line = fs.apply op := by
  rw [next_eq, h]
  rfl

/-- Only a line that changes the directory can take away what the root has. -/
theorem holds_next {fs : Filesystem} {name line : String} (h : fs.Holds name)
    (hline : ∀ text, operation? line ≠ some (.changeDirectory text)) : (next fs line).Holds name := by
  rw [next_eq]
  cases hop : operation? line with
  | none => exact h
  | some op => exact h.apply op fun text heq => hline text (heq ▸ hop)

end Shell

/-! ## The script -/

namespace Mission
open Filesystem (AtRoot Free Holds WellFormed)

def clearing : List String := ["cd /", "rm hackzone", "mkdir hackzone"]

def opening : List String := ["ssh", "ls", "ls -a", "cat .secret.txt", "pwd", "mkdir hackzone"]

def closing : List String :=
  ["touch exploit.sh", "echo run > exploit.sh", "cat exploit.sh", "rm exploit.sh"]

def script : List String := clearing ++ opening ++ "cd hackzone" :: closing

theorem leads_clearing : first.Leads 0 WellFormed clearing 0 (Holds "hackzone") := by
  have hcd : Shell.operation? "cd /" = some (.changeDirectory "/") := rfl
  have hrm : Shell.operation? "rm hackzone" = some (.remove "hackzone") := rfl
  have hmkdir : Shell.operation? "mkdir hackzone" = some (.makeDirectory "hackzone") := rfl
  have hmake : first.Leads 0 (Free "hackzone") ["mkdir hackzone"] 0 (Holds "hackzone") :=
    (first.leads_nil 0 _).pass (Filesystem.ofTree_free "hackzone") fun fs hfs => by
      rw [Shell.next_of_operation? hmkdir]
      exact hfs.holds_makeDirectory isName_hackzone
  have hfree : first.Leads 0 AtRoot ["rm hackzone", "mkdir hackzone"] 0 (Holds "hackzone") :=
    hmake.pass Filesystem.ofTree_atRoot fun fs hfs => by
      rw [Shell.next_of_operation? hrm]
      exact hfs.free_remove "hackzone"
  refine hfree.pass Filesystem.ofTree_wellFormed fun fs hfs => ?_
  rw [Shell.next_of_operation? hcd]
  exact hfs.atRoot_changeDirectory

theorem leads_opening : first.Leads 0 (Holds "hackzone") opening 6 (Holds "hackzone") := by
  have htakes : List.Forall₂ Step.Takes [establishConnection, listContents, findHiddenFiles,
      readSecretFile, checkLocation, createFolder] opening :=
    .cons (fun _ => rfl) <| .cons (fun _ => rfl) <| .cons (fun _ => rfl) <| .cons (fun _ => rfl) <|
      .cons (fun _ => rfl) <| .cons (fun _ => rfl) .nil
  refine Quest.leads_of_takes (n := 0) (Filesystem.ofTree_holds _) htakes ⟨_, rfl⟩ ?_
  intro line hline fs hfs
  refine Shell.holds_next hfs fun text => ?_
  have hstays : ∀ l ∈ opening, Shell.operation? l = none ∨
      Shell.operation? l = some (.makeDirectory "hackzone") := by decide
  rcases hstays line hline with hop | hop <;> rw [hop] <;> simp

/-- The folder is entered. -/
theorem leads_entering : first.Leads 6 (Holds "hackzone") ["cd hackzone"] 7 WellFormed := by
  have hcd : Shell.operation? "cd hackzone" = some (.changeDirectory "hackzone") := rfl
  have hstep : first.steps[6]? = some enterFolder := rfl
  refine .take (first.leads_nil 7 _) (Filesystem.ofTree_holds _) hstep
    (fun fs hfs => Shell.wellFormed_next hfs.1.1 _) fun fs hfs => ?_
  have hnext := Shell.wellFormed_next hfs.1.1 "cd hackzone"
  refine (advances_inHackzone (hnext.proper _ hnext.cwd) _).mpr ⟨by decide, ?_⟩
  rw [Shell.next_of_operation? hcd, Filesystem.apply, hfs.cwd_changeDirectory isName_hackzone,
    Path.name?_child]

theorem leads_closing : first.Leads 7 WellFormed closing 11 WellFormed := by
  have htakes : List.Forall₂ Step.Takes [createScript, writeScript, verifyScript, cleanUp] closing :=
    .cons (fun _ => rfl) <| .cons (fun _ => rfl) <| .cons (fun _ => rfl) <| .cons (fun _ => rfl) .nil
  exact Quest.leads_of_takes Filesystem.ofTree_wellFormed htakes ⟨[], rfl⟩
    fun line _ fs hfs => Shell.wellFormed_next hfs line

theorem leads_script : first.Leads 0 WellFormed script 11 WellFormed :=
  (leads_clearing.append leads_opening).append (leads_entering.append leads_closing)

end Mission

/-! ## Wherever the mission stands -/

namespace Engine

/-- **The first mission can always be completed**: whatever has been called on the engine, some list
of at most fourteen lines completes it, and the same list does every time. -/
theorem completed_after_script {e : Engine} (he : Engine.start none = .ok e) :
    ∃ lines : List String, lines.length ≤ 14 ∧ ∀ calls : List Call, (∀ c ∈ calls, c.Stays) →
      ((e.after calls).after (lines.map .submit)).completed = true := by
  refine ⟨Mission.script, Nat.le_refl 14, fun calls hcalls => ?_⟩
  obtain ⟨m, fs, hm, hstands, -⟩ := Mission.leads_script _ (reaches_wellFormed he hcalls)
  have hall : m = Mission.first.steps.length := Nat.le_antisymm hstands.plays.1 hm
  rw [completed, hstands.quest?_eq, Option.any_some, Mission.first.completed_taken hstands.plays.1]
  exact ⟨Nat.succ_pos 10, hall⟩

def mischief : List Call :=
  [.submit "cd ..", .reset, .submit "cd /", .submit "ssh", .submit "touch hackzone", .submit "cd home"]

theorem completed_after_script_mischief :
    Engine.start none = .ok (new.load Mission.first) ∧ (∀ c ∈ mischief, c.Stays) ∧
      ∃ lines : List String, lines.length ≤ 14 ∧
        (((new.load Mission.first).after mischief).after (lines.map .submit)).completed = true := by
  have hstays : ∀ c ∈ mischief, c.Stays := by simp [mischief, Call.Stays]
  obtain ⟨lines, hlength, hlines⟩ := completed_after_script (e := new.load Mission.first) rfl
  exact ⟨rfl, hstays, lines, hlength, hlines mischief hstays⟩

end Engine

end MissionShell
