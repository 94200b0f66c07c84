import MissionShell.Proofs.Quest.Run
import MissionShell.Proofs.Session

/-!
# One line of a playthrough

A line that is submitted runs on the snapshot in force and is judged on the one that it leaves. The
engine is followed by three things: the quest it was loaded with, the number of steps taken, and the
snapshot.

* `Playthrough.verdict` : the verdict on a line that is run;
* `Playthrough.submit_of_advances`, `Playthrough.submit_of_not_advances` : the two things a line does;
* `Engine.Stands` : the engine plays a quest with `n` steps taken, on a given snapshot;
* `Engine.Stands.submit` : where a line takes it, and what it is answered;
* `Engine.Stands.submits` : the tree that some lines leave;
* `Engine.Plays.reset_eq` : where a reset takes it;
* `Engine.Reaches` : at least `n` steps are taken, on a snapshot with a given property;
* `Engine.Reaches.submit`, `Engine.Reaches.submit_step` : a line takes no step back, and a line that
  answers the next step takes one on;
* `Engine.Reaches.after`, `Engine.reaches_wellFormed` : what holds in every engine.
-/

namespace MissionShell

namespace Playthrough

/-- The verdict on a line that is run: it is judged on the snapshot that it leaves. -/
def verdict (p : Playthrough) (line : String) : Validation :=
  judge p.quest line (p.session.process line).2.filesystem

theorem exists_openStep?_of_advances {q : Quest} {line : String} {fs : Filesystem}
    (h : (judge q line fs).advances = true) : ∃ step, openStep? q = some step := by
  unfold judge at h
  split at h
  · next step hstep => exact ⟨step, hstep⟩
  · cases h

theorem submit_of_advances {p : Playthrough} {line : String} {step : Step}
    (hstep : openStep? p.quest = some step) (h : (p.verdict line).advances = true) :
    p.submit line =
      (⟨(p.session.process line).1, p.verdict line, true, p.quest.endsWithStep⟩,
        (Playthrough.mk p.quest (p.session.process line).2).advance step (p.verdict line)) := by
  have hfilter : ((openStep? p.quest).filter fun _ => (p.verdict line).advances) = some step := by
    rw [hstep, Option.filter_some, h]
    rfl
  unfold verdict at hfilter
  unfold submit
  dsimp only
  rw [hfilter]
  rfl

theorem submit_of_not_advances {p : Playthrough} {line : String}
    (h : (p.verdict line).advances = false) :
    p.submit line =
      (⟨(p.session.process line).1, p.verdict line, false, false⟩,
        ⟨p.quest, (p.session.process line).2⟩) := by
  have hfilter : ((openStep? p.quest).filter fun _ => (p.verdict line).advances) = none := by
    rw [h]
    cases openStep? p.quest <;> rfl
  unfold verdict at hfilter
  unfold submit
  dsimp only
  rw [hfilter]
  rfl

/-- A playthrough begins on the very snapshot that the quest starts from. -/
theorem filesystem_openSession (q : Quest) : (openSession q).filesystem = q.initial := by
  unfold openSession
  dsimp only
  split_ifs <;> rfl

theorem filesystem_advance (p : Playthrough) (step : Step) (v : Validation) :
    (p.advance step v).session.filesystem = p.session.filesystem := by
  unfold advance
  dsimp only
  split_ifs <;> rfl

/-- The line runs in the session, whatever the verdict on it. -/
theorem outcome_submit (p : Playthrough) (line : String) :
    (p.submit line).1.outcome = (p.session.process line).1 := by
  unfold submit
  dsimp only
  split <;> rfl

theorem filesystem_submit (p : Playthrough) (line : String) :
    (p.submit line).2.session.filesystem = (p.session.process line).2.filesystem := by
  unfold submit
  dsimp only
  split
  · exact filesystem_advance _ _ _
  · rfl

/-- The step that a line is judged by is the one behind those that are taken. -/
theorem judge_taken (q : Quest) {n : Nat} (hn : n ≤ q.steps.length) (line : String)
    (fs : Filesystem) :
    judge (q.taken n) line fs =
      (q.steps[n]?.map (·.validate line fs)).getD (.inert noStepMessage) := by
  unfold judge
  rw [openStep?_taken q hn]
  cases q.steps[n]? with
  | none => rfl
  | some step => rfl

end Playthrough

namespace Engine

/-! ## Where an engine stands -/

/-- The engine plays `q` with the first `n` steps taken, and its session stands on `fs`. -/
def Stands (e : Engine) (q : Quest) (n : Nat) (fs : Filesystem) : Prop :=
  n ≤ q.steps.length ∧ ∃ s, e.playthrough = some ⟨q.taken n, s⟩ ∧ s.filesystem = fs

theorem Stands.plays {e : Engine} {q : Quest} {n : Nat} {fs : Filesystem} (h : e.Stands q n fs) :
    e.Plays q n := by
  obtain ⟨hn, s, hs, -⟩ := h
  exact ⟨hn, s, hs⟩

theorem Stands.quest?_eq {e : Engine} {q : Quest} {n : Nat} {fs : Filesystem}
    (h : e.Stands q n fs) : e.quest? = some (q.taken n) := by
  obtain ⟨-, s, hs, -⟩ := h
  rw [quest?, hs]
  rfl

theorem stands_load (e : Engine) {q : Quest} (h : q.taken 0 = q) :
    (e.load q).Stands q 0 q.initial := by
  refine ⟨Nat.zero_le _, Playthrough.openSession q, ?_, Playthrough.filesystem_openSession q⟩
  rw [h]
  rfl

/-- **One line**: it runs on the tree in force. If it answers the step behind those that are taken, on
the snapshot that it leaves, that step is taken too; otherwise none is. -/
theorem Stands.submit {e : Engine} {q : Quest} {n : Nat} {fs : Filesystem} (h : e.Stands q n fs)
    (line : String) :
    ∃ gs, fs.SameTree gs ∧ (e.submit line).1.outcome = Shell.execute gs line ∧
      ((∃ step, q.steps[n]? = some step ∧
          (step.validate line (Shell.next gs line)).advances = true ∧
          (e.submit line).1.stepCompleted = true ∧
          (e.submit line).2.Stands q (n + 1) (Shell.next gs line)) ∨
        ((∀ step, q.steps[n]? = some step →
            (step.validate line (Shell.next gs line)).advances = false) ∧
          (e.submit line).1.stepCompleted = false ∧
          (e.submit line).2.Stands q n (Shell.next gs line))) := by
  obtain ⟨hn, s, hs, rfl⟩ := h
  refine ⟨(s.remember line).filesystem, s.sameTree_remember line, ?_⟩
  rw [← Session.outcome_process, ← Session.filesystem_process]
  have hsubmit : e.submit line =
      (((Playthrough.mk (q.taken n) s).submit line).1,
        ⟨some ((Playthrough.mk (q.taken n) s).submit line).2⟩) := by
    rw [Engine.submit, hs]
  have hverdict := Playthrough.judge_taken q hn line (s.process line).2.filesystem
  by_cases hadv : ((Playthrough.mk (q.taken n) s).verdict line).advances = true
  · obtain ⟨opened, hopened⟩ := Playthrough.exists_openStep?_of_advances hadv
    have hstep := hopened
    rw [Playthrough.openStep?_taken q hn, Option.map_eq_some_iff] at hstep
    obtain ⟨step, hstep, -⟩ := hstep
    have hlt : n < q.steps.length := (List.getElem?_eq_some_iff.mp hstep).1
    let p : Playthrough := ⟨q.taken n, (s.process line).2⟩
    let v := (Playthrough.mk (q.taken n) s).verdict line
    have hquest : (p.advance opened v).quest = q.taken (n + 1) := Quest.completeStep_taken q hlt
    rw [hsubmit, Playthrough.submit_of_advances hopened hadv]
    rw [Playthrough.verdict, hverdict, hstep] at hadv
    refine ⟨rfl, Or.inl ⟨step, hstep, hadv, rfl, hlt, (p.advance opened v).session, ?_, ?_⟩⟩
    · rw [← hquest]
    · exact Playthrough.filesystem_advance p opened v
  · rw [Bool.not_eq_true] at hadv
    rw [hsubmit, Playthrough.submit_of_not_advances hadv]
    refine ⟨rfl, Or.inr ⟨fun step hstep => ?_, rfl, hn, _, rfl, rfl⟩⟩
    rw [Playthrough.verdict, hverdict, hstep] at hadv
    exact hadv

/-- The tree that some lines leave is the one that they leave at the shell. -/
theorem Stands.submits {e : Engine} {q : Quest} {n : Nat} {fs gs : Filesystem} (h : e.Stands q n fs)
    (hsame : gs.SameTree fs) (lines : List String) :
    ∃ m hs, (e.after (lines.map .submit)).Stands q m hs ∧ (Shell.after gs lines).SameTree hs := by
  induction lines generalizing e n fs gs with
  | nil => exact ⟨n, fs, h, hsame⟩
  | cons line lines ih =>
    obtain ⟨ks, hks, -, ⟨-, -, -, -, hnext⟩ | ⟨-, -, hnext⟩⟩ := h.submit line
    · exact ih hnext (Shell.sameTree_next (hsame.trans hks) line)
    · exact ih hnext (Shell.sameTree_next (hsame.trans hks) line)

/-- The cursor and the marks are all that a run changes in the quest, and a reset clears both. -/
theorem Plays.reset_eq {e : Engine} {q : Quest} {n : Nat} (h : e.Plays q n) (hq : q.taken 0 = q) :
    e.reset = new.load q := by
  obtain ⟨-, s, hs⟩ := h
  rw [Engine.reset, hs, Option.map_some, Playthrough.restart, Quest.reset_taken, hq]
  rfl

/-! ## How far an engine is at least -/

/-- At least `n` steps of `q` are taken, and the snapshot has the property `P`. -/
def Reaches (e : Engine) (q : Quest) (n : Nat) (P : Filesystem → Prop) : Prop :=
  ∃ m fs, n ≤ m ∧ e.Stands q m fs ∧ P fs

section Reaches
variable {e : Engine} {q : Quest} {n : Nat} {P Q : Filesystem → Prop} (hP : Filesystem.OfTree P)

include hP

/-- No line takes a step back. -/
theorem Reaches.submit (h : e.Reaches q n P) {line : String}
    (hnext : ∀ fs, P fs → Q (Shell.next fs line)) : (e.submit line).2.Reaches q n Q := by
  obtain ⟨m, fs, hnm, hstands, hfs⟩ := h
  obtain ⟨gs, hsame, -, ⟨-, -, -, -, hafter⟩ | ⟨-, -, hafter⟩⟩ := hstands.submit line
  · exact ⟨m + 1, _, Nat.le_succ_of_le hnm, hafter, hnext gs (hP fs gs hsame hfs)⟩
  · exact ⟨m, _, hnm, hafter, hnext gs (hP fs gs hsame hfs)⟩

/-- A line that answers the step behind the `n` that are surely taken: it is taken now, or was. -/
theorem Reaches.submit_step (h : e.Reaches q n P) {step : Step} (hstep : q.steps[n]? = some step)
    {line : String} (hnext : ∀ fs, P fs → Q (Shell.next fs line))
    (hline : ∀ fs, P fs → (step.validate line (Shell.next fs line)).advances = true) :
    (e.submit line).2.Reaches q (n + 1) Q := by
  obtain ⟨m, fs, hnm, hstands, hfs⟩ := h
  obtain ⟨gs, hsame, -, ⟨-, -, -, -, hafter⟩ | ⟨hnone, -, hafter⟩⟩ := hstands.submit line
  · exact ⟨m + 1, _, Nat.succ_le_succ hnm, hafter, hnext gs (hP fs gs hsame hfs)⟩
  · have hlt : n < m := by
      refine Nat.lt_of_le_of_ne hnm fun heq => ?_
      have hadv := hline gs (hP fs gs hsame hfs)
      rw [hnone step (heq ▸ hstep)] at hadv
      cases hadv
    exact ⟨m, _, hlt, hafter, hnext gs (hP fs gs hsame hfs)⟩

/-- A property of the quest's own snapshot that no line can end. -/
theorem Reaches.after (h : e.Reaches q 0 P) (hq : q.taken 0 = q) (hinitial : P q.initial)
    (hnext : ∀ fs line, P fs → P (Shell.next fs line)) {calls : List Call}
    (hcalls : ∀ c ∈ calls, c.Stays) : (e.after calls).Reaches q 0 P := by
  induction calls generalizing e with
  | nil => exact h
  | cons c calls ih =>
    refine ih ?_ fun d hd => hcalls d (List.mem_cons_of_mem c hd)
    have hstays := hcalls c List.mem_cons_self
    cases c with
    | submit line => exact h.submit hP fun fs hfs => hnext fs line hfs
    | check line => exact h
    | reset =>
      obtain ⟨m, fs, -, hstands, -⟩ := h
      have hreset : e.reset = new.load q := hstands.plays.reset_eq hq
      exact ⟨0, q.initial, Nat.le_refl 0, by rw [call, hreset]; exact new.stands_load hq, hinitial⟩
    | startQuest id =>
      obtain ⟨error, herror⟩ := hstays
      rw [call_startQuest_of_error herror]
      exact h

end Reaches

/-- In every engine that was started with the first mission, the snapshot is well-formed. -/
theorem reaches_wellFormed {e : Engine} (he : Engine.start none = .ok e) {calls : List Call}
    (hcalls : ∀ c ∈ calls, c.Stays) :
    (e.after calls).Reaches Mission.first 0 Filesystem.WellFormed := by
  have hzero := Mission.built_first.taken_zero Mission.unmarked_first
  have hload : e = new.load Mission.first := (Except.ok.inj he).symm
  have hstands : e.Stands Mission.first 0 Filesystem.seed := hload ▸ new.stands_load hzero
  exact Reaches.after Filesystem.ofTree_wellFormed
    ⟨0, _, Nat.le_refl 0, hstands, Filesystem.wellFormed_seed⟩ hzero Filesystem.wellFormed_seed
    (fun _ line hfs => Shell.wellFormed_next hfs line) hcalls

end Engine

end MissionShell
