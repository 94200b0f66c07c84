import MissionShell.Proofs.Quest.Submission
import MissionShell.Proofs.Shell.Agreement

/-!
# Sessions and quests do not touch the shell

Lines can be given to the shell alone, to a session, or to an engine with a quest. A session enters
them into histories and logs them, a quest judges them, and the answers and the trees are those of the
shell.

* `Driver`, `Driver.trace` : what takes lines, and its answers to some lines;
* `Driver.Simulates.trace` : answers that agree line by line agree all along;
* `Session.simulates`, `Engine.simulates` : a line given to a session, and to an engine;
* `Engine.trace_agrees` : runs of any length.
-/

namespace MissionShell

/-! ## Drivers -/

/-- What takes one line after the other: its answer to a line, and what it is then. -/
abbrev Driver (σ : Type) := σ → String → Outcome × σ

namespace Driver
variable {σ τ : Type}

def trace (d : Driver σ) (s : σ) : List String → List (Outcome × σ)
  | [] => []
  | line :: lines => d s line :: trace d (d s line).2 lines

/-- Where `R` relates the two drivers, their answers to a line agree and `R` relates them afterwards. -/
def Simulates (c : Driver σ) (d : Driver τ) (R : σ → τ → Prop) : Prop :=
  ∀ s t, R s t → ∀ line, (c s line).1.Agrees (d t line).1 ∧ R (c s line).2 (d t line).2

theorem Simulates.trace {c : Driver σ} {d : Driver τ} {R : σ → τ → Prop} (h : Simulates c d R)
    {s : σ} {t : τ} (hR : R s t) (lines : List String) :
    List.Forall₂ (fun a b => a.1.Agrees b.1 ∧ R a.2 b.2) (Driver.trace c s lines)
      (Driver.trace d t lines) := by
  induction lines generalizing s t with
  | nil => exact .nil
  | cons line lines ih =>
    have hline := h s t hR line
    exact .cons hline (ih hline.2)

end Driver

def Shell.driver : Driver Filesystem := fun fs line => (execute fs line, next fs line)

/-- An engine, of whose answers only those of the shell are looked at. -/
def Engine.driver : Driver Engine := fun e line => ((e.submit line).1.outcome, (e.submit line).2)

/-! ## One line -/

def Session.On (fs : Filesystem) (s : Session) : Prop := fs.SameTree s.filesystem

def Engine.On (fs : Filesystem) (e : Engine) : Prop := ∃ s, e.session? = some s ∧ Session.On fs s

theorem Session.simulates : Driver.Simulates Shell.driver process On := by
  intro fs s h line
  have hremember : fs.SameTree (s.remember line).filesystem := .trans h (s.sameTree_remember line)
  refine ⟨?_, ?_⟩
  · rw [s.outcome_process]
    exact Shell.agrees_execute hremember line
  · rw [On, s.filesystem_process]
    exact Shell.sameTree_next hremember line

theorem Engine.simulates : Driver.Simulates Shell.driver driver On := by
  rintro fs e ⟨s, hs, hfs⟩ line
  obtain ⟨p, hp, rfl⟩ := Option.map_eq_some_iff.mp hs
  obtain ⟨hanswer, htree⟩ := Session.simulates fs p.session hfs line
  have hsubmit : e.submit line = ((p.submit line).1, ⟨some (p.submit line).2⟩) := by
    rw [Engine.submit, hp]
  refine ⟨?_, (p.submit line).2.session, ?_, ?_⟩
  · rw [driver, hsubmit, p.outcome_submit]
    exact hanswer
  · rw [driver, hsubmit]
    rfl
  · rw [Session.On, p.filesystem_submit]
    exact htree

/-! ## Runs -/

theorem Engine.on_load (e : Engine) (q : Quest) : On q.initial (e.load q) := by
  refine ⟨Playthrough.openSession q, rfl, ?_⟩
  rw [Session.On, Playthrough.filesystem_openSession]
  exact .refl _

/-- **Every line is answered as by the shell alone**, in a quest of any steps from its own snapshot and
in a session from any snapshot, and after every line the tree is the one that the shell leaves. -/
theorem Engine.trace_agrees (lines : List String) :
    (∀ (e : Engine) (q : Quest),
      List.Forall₂ (fun a b => a.1.Agrees b.1 ∧
          ∃ s, b.2.session? = some s ∧ a.2.SameTree s.filesystem)
        (Driver.trace Shell.driver q.initial lines) (Driver.trace driver (e.load q) lines)) ∧
      ∀ fs : Filesystem,
        List.Forall₂ (fun a b => a.1.Agrees b.1 ∧ a.2.SameTree b.2.filesystem)
          (Driver.trace Shell.driver fs lines)
          (Driver.trace Session.process (Session.opened fs) lines) :=
  ⟨fun e q => Engine.simulates.trace (e.on_load q) lines,
    fun fs => Session.simulates.trace (s := fs) (t := Session.opened fs) (.refl fs) lines⟩

end MissionShell
