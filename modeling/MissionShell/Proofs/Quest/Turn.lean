import MissionShell.Proofs.Quest.Submission

/-!
# One submission in full

A submitted line is run once and then judged by the step under the cursor, on the snapshot that it has
left. If the verdict advances, exactly that step is completed and reported in the log, and the quest with
it if the step is the last; otherwise the line leaves nothing but what the session makes of it.

* `Playthrough.Turn` : what a line is answered and what it leaves;
* `Quest.Sound` : the cursor stands before an unmarked step of an unfinished quest, or behind the last;
* `Playthrough.turn_submit` : one submission;
* `Engine.Underway`, `Engine.Underway.after` : what every call keeps;
* `Engine.turn_after` : a submission after any calls.
-/

namespace MissionShell

/-- What submitting `line` to the playthrough `p` answers, and the playthrough `next` that it leaves. -/
structure Playthrough.Turn (p : Playthrough) (line : String) (answer : Submission)
    (next : Playthrough) : Prop where
  outcome : answer.outcome = (p.session.process line).1
  judged : ∀ step, p.quest.currentStep? = some step →
    answer.validation = step.validate line (p.session.process line).2.filesystem
  past : p.quest.currentStep? = none → answer.validation = .inert "No active step"
  stepCompleted : answer.stepCompleted = answer.validation.advances
  stays : answer.stepCompleted = false → next = ⟨p.quest, (p.session.process line).2⟩
  takes : answer.stepCompleted = true → ∃ step, p.quest.currentStep? = some step ∧
    step.completed = false ∧
    next.quest = { p.quest with
      steps := p.quest.steps.set p.quest.cursor { step with completed := true }
      cursor := p.quest.cursor + 1
      completed := decide (p.quest.cursor + 1 = p.quest.steps.length) } ∧
    next.session = { (p.session.process line).2 with
      log := (p.session.process line).2.log ++
        ⟨answer.validation.message.getD step.successMessage, .success⟩ ::
          if answer.questCompleted then [⟨p.quest.completionMessage, .success⟩] else [] }
  questCompleted : answer.questCompleted = true ↔
    answer.stepCompleted = true ∧ next.quest.cursor = next.quest.steps.length
  checked : ∀ step, p.quest.currentStep? = some step → step.check = none →
    p.check line = answer.validation

/-! ## One submission -/

namespace Quest

/-- Before the cursor passes the last step, neither the step under it nor the quest is marked. -/
structure Sound (q : Quest) : Prop where
  unmarked : ∀ step, q.currentStep? = some step → step.completed = false
  unfinished : q.cursor < q.steps.length → q.completed = false

theorem sound_taken (q : Quest) {n : Nat} (hn : n ≤ q.steps.length) : (q.taken n).Sound := by
  refine ⟨fun step hstep => ?_, fun hlt => ?_⟩
  · rw [currentStep?_taken q hn, Option.map_eq_some_iff] at hstep
    obtain ⟨s, -, rfl⟩ := hstep
    rfl
  · rw [cursor_taken, length_taken] at hlt
    rw [← Bool.not_eq_true, completed_taken q hn]
    omega

theorem cursor_lt_of_currentStep? {q : Quest} {step : Step} (h : q.currentStep? = some step) :
    q.cursor < q.steps.length := (List.getElem?_eq_some_iff.mp h).1

namespace Sound
variable {q : Quest} (h : q.Sound) {step : Step} (hstep : q.currentStep? = some step)
include h hstep

theorem completeStep_eq :
    q.completeStep = { q with
      steps := q.steps.set q.cursor { step with completed := true }
      cursor := q.cursor + 1
      completed := decide (q.cursor + 1 = q.steps.length) } := by
  have hlt := cursor_lt_of_currentStep? hstep
  have hlast : decide (q.steps.length ≤ q.cursor + 1) = decide (q.cursor + 1 = q.steps.length) :=
    decide_eq_decide.mpr (by omega)
  rw [completeStep, hstep]
  dsimp only
  rw [h.unfinished hlt, Bool.false_or, hlast]

theorem endsWithStep_eq : q.endsWithStep = decide (q.cursor + 1 = q.steps.length) := by
  rw [endsWithStep, hstep, h.completeStep_eq hstep]
  rfl

end Sound

end Quest

namespace Playthrough

theorem openStep?_of_sound {q : Quest} (h : q.Sound) : openStep? q = q.currentStep? := by
  rw [openStep?]
  cases hstep : q.currentStep? with
  | none => rfl
  | some step => simp [h.unmarked step hstep]

theorem judge_of_sound {q : Quest} (h : q.Sound) (line : String) (fs : Filesystem) :
    judge q line fs =
      (q.currentStep?.map (·.validate line fs)).getD (.inert noStepMessage) := by
  rw [judge, openStep?_of_sound h]
  cases q.currentStep? <;> rfl

/-- A step without a check of its own does not look at the snapshot. -/
theorem validate_congr {step : Step} (h : step.check = none) (line : String) (fs gs : Filesystem) :
    step.validate line fs = step.validate line gs := by
  rw [Step.validate, Step.validate, h]

theorem session_advance (p : Playthrough) (step : Step) (v : Validation) :
    (p.advance step v).session = { p.session with
      log := p.session.log ++ ⟨v.message.getD step.successMessage, .success⟩ ::
        if p.quest.endsWithStep then [⟨p.quest.completionMessage, .success⟩] else [] } := by
  unfold advance
  dsimp only
  split_ifs
  · simp [Session.addLine]
  · rfl

/-- **One submission**: what it answers and what it leaves. -/
theorem turn_submit {p : Playthrough} (h : p.quest.Sound) (line : String) :
    p.Turn line (p.submit line).1 (p.submit line).2 := by
  have hverdict : p.verdict line = _ := judge_of_sound h line (p.session.process line).2.filesystem
  have hjudged : ∀ step, p.quest.currentStep? = some step →
      p.verdict line = step.validate line (p.session.process line).2.filesystem := by
    intro step hstep
    rw [hverdict, hstep]
    rfl
  have hpast : p.quest.currentStep? = none → p.verdict line = .inert "No active step" := by
    intro hnone
    rw [hverdict, hnone]
    rfl
  have hchecked : ∀ step, p.quest.currentStep? = some step → step.check = none →
      p.check line = p.verdict line := by
    intro step hstep hcheck
    rw [check, hjudged step hstep, judge_of_sound h, hstep]
    exact validate_congr hcheck line _ _
  cases hadv : (p.verdict line).advances with
  | false =>
    rw [submit_of_not_advances hadv]
    refine ⟨rfl, hjudged, hpast, hadv.symm, fun _ => rfl, fun htaken => ?_, ?_, hchecked⟩
    · cases htaken
    · simp
  | true =>
    -- only a step can advance: the verdict past the last one is inert
    obtain ⟨step, hopen⟩ := exists_openStep?_of_advances hadv
    have hstep : p.quest.currentStep? = some step := openStep?_of_sound h ▸ hopen
    have hend := h.endsWithStep_eq hstep
    rw [submit_of_advances hopen hadv]
    refine ⟨rfl, hjudged, hpast, hadv.symm, fun hstays => ?_, fun _ => ?_, ?_, hchecked⟩
    · cases hstays
    · exact ⟨step, hstep, h.unmarked step hstep, h.completeStep_eq hstep, session_advance _ step _⟩
    · dsimp only [advance]
      rw [hend, h.completeStep_eq hstep]
      simp

end Playthrough

/-! ## Any state -/

namespace Engine

def Underway (e : Engine) : Prop := ∃ q n, q.taken 0 = q ∧ e.Plays q n

theorem underway_load (e : Engine) {q : Quest} (hq : q.taken 0 = q) : (e.load q).Underway :=
  ⟨q, 0, hq, e.plays_load hq⟩

namespace Underway
variable {e : Engine} (h : e.Underway)
include h

/-- A quest goes on, begins anew or is replaced by a mission that begins. -/
theorem call (c : Call) : (e.call c).Underway := by
  obtain ⟨q, n, hq, hn⟩ := h
  cases c with
  | submit line =>
    obtain ⟨m, -, -, hm⟩ := hn.submit line
    exact ⟨q, m, hq, hm⟩
  | check line => exact ⟨q, n, hq, hn⟩
  | reset => exact ⟨q, 0, hq, hn.reset⟩
  | startQuest id =>
    cases hfind : Mission.find id with
    | error error =>
      rw [call_startQuest_of_error hfind]
      exact ⟨q, n, hq, hn⟩
    | ok mission =>
      have hload : e.call (.startQuest id) = e.load mission := by
        rw [Engine.call, startQuest, hfind]
        rfl
      have hfirst : mission = Mission.first := by
        unfold Mission.find at hfind
        dsimp only at hfind
        split_ifs at hfind
        exact (Except.ok.inj hfind).symm
      rw [hload, hfirst]
      exact e.underway_load (Mission.built_first.taken_zero Mission.unmarked_first)

theorem after (calls : List Call) : (e.after calls).Underway := by
  induction calls generalizing e with
  | nil => exact h
  | cons c calls ih => exact ih (h.call c)

theorem exists_sound : ∃ p, e.playthrough = some p ∧ p.quest.Sound := by
  obtain ⟨q, n, -, hn, s, hs⟩ := h
  exact ⟨⟨q.taken n, s⟩, hs, q.sound_taken hn⟩

end Underway

/-- **One submission, exactly**: whatever has been called since the quest was loaded, the line runs once, is
judged on what it leaves, and completes the step under the cursor or none. -/
theorem turn_after {q : Quest} (hq : q.Built) (hsteps : ∀ s ∈ q.steps, s.completed = false)
    (e : Engine) (calls : List Call) (line : String) :
    ∃ p next, ((e.load q).after calls).playthrough = some p ∧
      (((e.load q).after calls).submit line).2.playthrough = some next ∧
      p.Turn line (((e.load q).after calls).submit line).1 next ∧
      ((e.load q).after calls).check line = p.check line := by
  obtain ⟨p, hp, hsound⟩ := ((e.underway_load (hq.taken_zero hsteps)).after calls).exists_sound
  refine ⟨p, (p.submit line).2, hp, ?_, ?_, ?_⟩
  · rw [submit, hp]
  · rw [submit, hp]
    exact Playthrough.turn_submit hsound line
  · rw [check, hp]

def drill : Quest where
  id := "drill"
  title := "Drill"
  initial := .seed
  steps := [{ number := 1, title := "Locate", expected := ["pwd"], successMessage := "Located" },
    { number := 2, title := "Leave", successMessage := "Left",
      check := some fun _ fs => ⟨fs.cwd = Path.root, none, some true⟩ }]
  completionMessage := "Done"

theorem built_drill : drill.Built :=
  (((Quest.Built.new "drill" "Drill" "" .seed).relabel "drill" "Drill" "" "" "Done").addSteps drill.steps)

/-- The last step of the drill: the verdict says nothing, so the step's own message is logged, and behind it
that of the quest. -/
theorem turn_after_drill :
    drill.Built ∧ (∀ s ∈ drill.steps, s.completed = false) ∧
      ∃ p next, ((new.load drill).after [.submit "pwd"]).playthrough = some p ∧
        p.Turn "cd /" (((new.load drill).after [.submit "pwd"]).submit "cd /").1 next ∧
        (((new.load drill).after [.submit "pwd"]).submit "cd /").1.questCompleted = true ∧
        next.session.log = (p.session.process "cd /").2.log ++ [⟨"Left", .success⟩, ⟨"Done", .success⟩] := by
  have hsteps : ∀ s ∈ drill.steps, s.completed = false := by decide
  obtain ⟨p, next, hp, -, hturn, -⟩ := turn_after built_drill hsteps new [.submit "pwd"] "cd /"
  have hcompleted : (((new.load drill).after [.submit "pwd"]).submit "cd /").1.questCompleted = true := rfl
  refine ⟨built_drill, hsteps, p, next, hp, hturn, hcompleted, ?_⟩
  obtain ⟨step, hstep, -, -, hsession⟩ := hturn.takes rfl
  cases hp
  cases hstep
  rw [hsession, hcompleted]
  rfl

end Engine

end MissionShell
