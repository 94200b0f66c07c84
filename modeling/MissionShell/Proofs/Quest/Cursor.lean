import MissionShell.Quest.Engine
import Mathlib.Data.List.Basic

/-!
# Quests by the number of steps taken

The cursor, the marks of the steps, the mark of the quest and the progress all say how many steps
have been taken. `Quest.taken q n` is the quest `q` with its first `n` steps taken; the moves of the
cursor lead from one such quest to another.

* `Quest.taken` : the quest at a given step, with what can be read off it;
* `Quest.completeStep_taken`, `Quest.reset_taken` : the moves of the cursor;
* `Quest.Built` : the quests that can be put together, `Quest.Built.taken_zero` : one of them in
  which no step is marked stands at its first step.
-/

namespace MissionShell

def Step.mark (done : Bool) (s : Step) : Step := { s with completed := done }

@[simp] theorem Step.completed_mark (done : Bool) (s : Step) : (s.mark done).completed = done := rfl

theorem Step.mark_completed (s : Step) : s.mark s.completed = s := rfl

namespace Quest

/-- The quest with its first `n` steps taken and the cursor behind them. -/
def taken (q : Quest) (n : Nat) : Quest :=
  { q with
    steps := (q.steps.take n).map (.mark true) ++ (q.steps.drop n).map (.mark false)
    cursor := n
    completed := decide (0 < n ∧ q.steps.length ≤ n) }

/-! ## Reading -/

@[simp] theorem cursor_taken (q : Quest) (n : Nat) : (q.taken n).cursor = n := rfl

@[simp] theorem length_taken (q : Quest) (n : Nat) : (q.taken n).steps.length = q.steps.length := by
  simp only [taken, List.length_append, List.length_map, List.length_take, List.length_drop]
  omega

theorem length_map_take (q : Quest) {n : Nat} (hn : n ≤ q.steps.length) (f : Step → Step) :
    ((q.steps.take n).map f).length = n := by
  rw [List.length_map, List.length_take, Nat.min_eq_left hn]

theorem getElem?_taken (q : Quest) {n : Nat} (hn : n ≤ q.steps.length) (i : Nat) :
    (q.taken n).steps[i]? = q.steps[i]?.map (.mark (decide (i < n))) := by
  have hlength := q.length_map_take hn (.mark true)
  unfold taken
  rw [List.getElem?_append, hlength]
  split_ifs with hi
  · simp [hi]
  · simp only [List.getElem?_map, List.getElem?_drop, hi, decide_false]
    congr 2
    omega

theorem currentStep?_taken (q : Quest) {n : Nat} (hn : n ≤ q.steps.length) :
    (q.taken n).currentStep? = q.steps[n]?.map (.mark false) := by
  rw [currentStep?, cursor_taken, getElem?_taken q hn]
  simp

theorem currentStep?_taken_eq_none (q : Quest) {n : Nat} (hn : n ≤ q.steps.length) :
    (q.taken n).currentStep? = none ↔ n = q.steps.length := by
  rw [currentStep?_taken q hn, Option.map_eq_none_iff, List.getElem?_eq_none_iff]
  omega

theorem completed_taken (q : Quest) {n : Nat} (hn : n ≤ q.steps.length) :
    (q.taken n).completed = true ↔ 0 < q.steps.length ∧ n = q.steps.length := by
  simp only [taken, decide_eq_true_eq]
  omega

theorem progress_taken (q : Quest) {n : Nat} (hn : n ≤ q.steps.length) :
    (q.taken n).progress = ⟨n, q.steps.length⟩ := by
  have hmarked : ((q.steps.take n).map (Step.mark true)).countP (·.completed) = n := by
    have hall : (q.steps.take n).countP ((·.completed) ∘ Step.mark true) = (q.steps.take n).length :=
      List.countP_eq_length.mpr fun _ _ => rfl
    rw [List.countP_map, hall, List.length_take, Nat.min_eq_left hn]
  have hunmarked : ((q.steps.drop n).map (Step.mark false)).countP (·.completed) = 0 := by
    rw [List.countP_map, List.countP_eq_zero]
    exact fun _ _ => Bool.false_ne_true
  rw [progress, length_taken, taken, List.countP_append, hmarked, hunmarked, Nat.add_zero]

/-- The marks are all that is different in the steps. -/
theorem map_mark_taken (q : Quest) (n : Nat) (done : Bool) :
    (q.taken n).steps.map (Step.mark done) = q.steps.map (Step.mark done) := by
  have hmark : ∀ before, Step.mark done ∘ Step.mark before = Step.mark done := fun _ => rfl
  simp only [taken, List.map_append, List.map_map, hmark]
  rw [← List.map_append, List.take_append_drop]

/-! ## Moves of the cursor -/

theorem completeStep_taken (q : Quest) {n : Nat} (hn : n < q.steps.length) :
    (q.taken n).completeStep = q.taken (n + 1) := by
  have hle : n ≤ q.steps.length := Nat.le_of_lt hn
  have hcurrent : (q.taken n).currentStep? = some (q.steps[n].mark false) := by
    rw [currentStep?_taken q hle, List.getElem?_eq_getElem hn]
    rfl
  have hsteps : (q.taken n).steps.set n (q.steps[n].mark true) = (q.taken (n + 1)).steps := by
    have hlength := q.length_map_take hle (.mark true)
    simp only [taken]
    rw [List.drop_eq_getElem_cons hn, List.map_cons, List.set_append_right _ _ (by omega), hlength,
      Nat.sub_self, List.set_cons_zero, List.take_succ_eq_append_getElem hn, List.map_append,
      List.append_assoc]
    rfl
  have hdone : (q.taken n).completed = false := by
    simp only [taken, decide_eq_false_iff_not]
    omega
  rw [completeStep, hcurrent]
  simp only [cursor_taken, length_taken, hdone, Bool.false_or]
  rw [show { q.steps[n].mark false with completed := true } = q.steps[n].mark true from rfl, hsteps]
  simp [taken]

theorem reset_taken (q : Quest) (n : Nat) : (q.taken n).reset = q.taken 0 := by
  have hsteps : (q.taken n).steps.map (Step.mark false) = (q.taken 0).steps := by
    rw [map_mark_taken]
    simp [taken]
  calc (q.taken n).reset
      = { q.taken 0 with steps := (q.taken n).steps.map (Step.mark false) } := rfl
    _ = q.taken 0 := by rw [hsteps]

/-! ## Quests as they are put together -/

/-- The quests that can be put together: a step is added behind the others, and the cursor and the
mark of the quest are only touched by the moves of the cursor. -/
inductive Built : Quest → Prop where
  | new (id title description : String) (initial : Filesystem) :
      Built { id, title, description, initial }
  | relabel {q : Quest} (h : Built q) (id title description welcomeMessage completionMessage : String) :
      Built { q with id, title, description, welcomeMessage, completionMessage }
  | addStep {q : Quest} (h : Built q) (s : Step) : Built { q with steps := q.steps ++ [s] }
  | completeStep {q : Quest} (h : Built q) : Built q.completeStep
  | reset {q : Quest} (h : Built q) : Built q.reset

theorem Built.addSteps {q : Quest} (h : Built q) (steps : List Step) :
    Built { q with steps := q.steps ++ steps } := by
  induction steps generalizing q with
  | nil =>
    rw [List.append_nil]
    exact h
  | cons s steps ih => simpa using ih (h.addStep s)

/-- Every step that the cursor has passed is marked. -/
theorem Built.marked {q : Quest} (h : Built q) :
    ∀ i < q.cursor, ∃ s, q.steps[i]? = some s ∧ s.completed = true := by
  induction h with
  | new => intro i hi; cases hi
  | relabel _ _ _ _ _ _ ih => exact ih
  | @addStep q _ s ih =>
    intro i hi
    obtain ⟨t, ht, hmark⟩ := ih i hi
    refine ⟨t, ?_, hmark⟩
    rw [List.getElem?_append_left (List.getElem?_eq_some_iff.mp ht).1, ht]
  | @completeStep q _ ih =>
    unfold Quest.completeStep
    split
    · exact ih
    · next t ht =>
      have hlength : q.cursor < q.steps.length := (List.getElem?_eq_some_iff.mp ht).1
      intro i hi
      rcases Nat.lt_succ_iff_lt_or_eq.mp hi with hi | rfl
      · obtain ⟨u, hu, hmark⟩ := ih i hi
        exact ⟨u, by rw [List.getElem?_set_ne (by omega), hu], hmark⟩
      · exact ⟨_, List.getElem?_set_self hlength, rfl⟩
  | reset => intro i hi; cases hi

/-- The quest is marked only when the cursor has moved. -/
theorem Built.cursor_pos {q : Quest} (h : Built q) (hq : q.completed = true) : 0 < q.cursor := by
  induction h with
  | new => cases hq
  | relabel _ _ _ _ _ _ ih => exact ih hq
  | addStep _ _ ih => exact ih hq
  | completeStep _ ih =>
    unfold Quest.completeStep at hq ⊢
    split
    · next hnone =>
      rw [hnone] at hq
      exact ih hq
    · exact Nat.succ_pos _
  | reset => cases hq

/-- Without a marked step the quest stands at its beginning. -/
theorem Built.taken_zero {q : Quest} (h : Built q) (hq : ∀ s ∈ q.steps, s.completed = false) :
    q.taken 0 = q := by
  have hcursor : q.cursor = 0 := by
    by_contra hne
    obtain ⟨s, hs, hmark⟩ := h.marked 0 (Nat.pos_of_ne_zero hne)
    rw [hq s (List.mem_of_getElem? hs)] at hmark
    cases hmark
  have hcompleted : q.completed = false := by
    by_contra hne
    have hpos := h.cursor_pos (by simpa using hne)
    omega
  have hsteps : (q.taken 0).steps = q.steps := by
    have hmark : ∀ s ∈ q.steps, s.mark false = s := fun s hs => by
      rw [← hq s hs, Step.mark_completed]
    calc (q.taken 0).steps = q.steps.map (Step.mark false) := by simp [taken]
      _ = q.steps.map fun s => s := List.map_congr_left hmark
      _ = q.steps := List.map_id' _
  calc q.taken 0 = { q with steps := (q.taken 0).steps, cursor := 0, completed := false } := rfl
    _ = q := by rw [hsteps, ← hcursor, ← hcompleted]

end Quest

namespace Mission

theorem built_first : first.Built :=
  ((Quest.Built.new firstId first.title first.description .seed).relabel firstId first.title
    first.description first.welcomeMessage first.completionMessage).addSteps first.steps

theorem unmarked_first : ∀ s ∈ first.steps, s.completed = false := by decide

end Mission

end MissionShell
