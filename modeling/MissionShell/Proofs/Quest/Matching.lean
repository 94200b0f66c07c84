import MissionShell.Proofs.Quest.Step
import MissionShell.Proofs.Quest.Submission
import Mathlib.Data.List.NodupEquivFin
import Mathlib.Data.Set.Monotone
import Mathlib.Order.Bounds.Basic

/-!
# How far a list of lines goes

A quest whose steps only compare texts takes a step whenever it can, and so comes as far as the lines
allow: to the greatest number of steps that have, one after the other, a line among them.

* `Quest.Matched` : the first `k` steps are answered by lines in their order;
* `Quest.Matched.sublist` : lines between the others do no harm;
* `Quest.matched_append_singleton` : what one more line adds;
* `Engine.stands_matched` : the steps taken are the most that can be matched;
* `Engine.cursor_isGreatest` : the same of the cursor, with what follows from it.
-/

namespace MissionShell

namespace Quest

/-- The first `k` steps can be matched: each is answered by a line, at places that go up. -/
def Matched (q : Quest) (lines : List String) (k : Nat) : Prop :=
  ∃ place : Nat → Nat, StrictMonoOn place (Set.Iio k) ∧
    ∀ j < k, ∃ step line, q.steps[j]? = some step ∧ lines[place j]? = some line ∧ step.Answers line

theorem matched_zero (q : Quest) (lines : List String) : q.Matched lines 0 :=
  ⟨fun j => j, fun _ _ _ _ h => h, fun _ hj => absurd hj (Nat.not_lt_zero _)⟩

/-- Lines between the others do no harm. -/
theorem Matched.sublist {q : Quest} {lines more : List String} {k : Nat} (h : q.Matched lines k)
    (hmore : lines.Sublist more) : q.Matched more k := by
  obtain ⟨place, hmono, hplace⟩ := h
  obtain ⟨shift, hshift⟩ := List.sublist_iff_exists_orderEmbedding_getElem?_eq.mp hmore
  refine ⟨shift ∘ place, shift.strictMono.comp_strictMonoOn hmono, fun j hj => ?_⟩
  obtain ⟨step, line, hstep, hline, hanswers⟩ := hplace j hj
  exact ⟨step, line, hstep, by rw [Function.comp_apply, ← hshift, hline], hanswers⟩

/-- A line behind the others can match the next step. -/
theorem Matched.concat {q : Quest} {lines : List String} {line : String} {k : Nat} {last : Step}
    (h : q.Matched lines k) (hlast : q.steps[k]? = some last) (hanswers : last.Answers line) :
    q.Matched (lines ++ [line]) (k + 1) := by
  obtain ⟨place, hmono, hplace⟩ := h
  have hinside : ∀ j < k, place j < lines.length := fun j hj => by
    obtain ⟨_, _, -, hline, -⟩ := hplace j hj
    exact (List.getElem?_eq_some_iff.mp hline).1
  refine ⟨fun j => if j < k then place j else lines.length, fun i hi j hj hij => ?_, fun j hj => ?_⟩
  · rw [Set.mem_Iio] at hi hj
    have hik : i < k := by omega
    dsimp only
    rw [if_pos hik]
    split_ifs with hjk
    · exact hmono hik hjk hij
    · exact hinside i hik
  · dsimp only
    split_ifs with hjk
    · obtain ⟨step, line', hstep, hline, hanswers⟩ := hplace j hjk
      exact ⟨step, line', hstep, by rw [List.getElem?_append_left (hinside j hjk), hline], hanswers⟩
    · obtain rfl : j = k := by omega
      exact ⟨last, line, hlast, List.getElem?_concat_length, hanswers⟩

/-- The lines that match the first steps all stand before a place, and so without what comes there. -/
theorem Matched.of_append {q : Quest} {lines more : List String} {k : Nat} {place : Nat → Nat}
    (hmono : StrictMonoOn place (Set.Iio k)) (hinside : ∀ j < k, place j < lines.length)
    (hplace : ∀ j < k, ∃ step line, q.steps[j]? = some step ∧
      (lines ++ more)[place j]? = some line ∧ step.Answers line) : q.Matched lines k := by
  refine ⟨place, hmono, fun j hj => ?_⟩
  obtain ⟨step, line, hstep, hline, hanswers⟩ := hplace j hj
  rw [List.getElem?_append_left (hinside j hj)] at hline
  exact ⟨step, line, hstep, hline, hanswers⟩

/-- One more line can only match the step behind those that are matched without it. -/
theorem matched_append_singleton (q : Quest) (lines : List String) (line : String) (k : Nat) :
    q.Matched (lines ++ [line]) (k + 1) ↔
      q.Matched lines (k + 1) ∨
        q.Matched lines k ∧ ∃ step, q.steps[k]? = some step ∧ step.Answers line := by
  constructor
  · rintro ⟨place, hmono, hplace⟩
    obtain ⟨last, found, hlast, hfound, hanswers⟩ := hplace k k.lt_succ_self
    have hbelow : ∀ j < k, place j < place k := fun j hj =>
      hmono (Nat.lt_succ_of_lt hj) k.lt_succ_self hj
    have hend : place k < lines.length + 1 := by
      have hplaced := (List.getElem?_eq_some_iff.mp hfound).1
      rw [List.length_append, List.length_singleton] at hplaced
      exact hplaced
    rcases Nat.lt_succ_iff_lt_or_eq.mp hend with hlt | heq
    · -- the line is not used
      refine Or.inl (.of_append hmono (fun j hj => ?_) hplace)
      rcases Nat.lt_succ_iff_lt_or_eq.mp hj with hj | rfl
      · exact (hbelow j hj).trans hlt
      · exact hlt
    · -- the line answers the last step, and the others are answered before it
      rw [heq, List.getElem?_concat_length, Option.some_inj] at hfound
      have hmono' : StrictMonoOn place (Set.Iio k) :=
        StrictMonoOn.mono hmono (Set.Iio_subset_Iio k.le_succ)
      have hinside : ∀ j < k, place j < lines.length := fun j hj => heq ▸ hbelow j hj
      refine Or.inr ⟨.of_append hmono' hinside fun j hj => hplace j (Nat.lt_succ_of_lt hj), last,
        hlast, ?_⟩
      rw [hfound]
      exact hanswers
  · rintro (h | ⟨h, last, hlast, hanswers⟩)
    · exact h.sublist (List.sublist_append_left _ _)
    · exact h.concat hlast hanswers

theorem matched_nil_iff (q : Quest) (k : Nat) : q.Matched [] k ↔ k = 0 := by
  constructor
  · rintro ⟨place, -, hplace⟩
    by_contra hk
    obtain ⟨_, _, -, hline, -⟩ := hplace 0 (Nat.pos_of_ne_zero hk)
    cases hline
  · rintro rfl
    exact q.matched_zero []

/-! ## The most that can be matched -/

theorem isGreatest_matched_of_answers {q : Quest} {lines : List String} {line : String} {n : Nat}
    {step : Step} (h : IsGreatest {k | q.Matched lines k} n) (hstep : q.steps[n]? = some step)
    (hanswers : step.Answers line) :
    IsGreatest {k | q.Matched (lines ++ [line]) k} (n + 1) := by
  refine ⟨h.1.concat hstep hanswers, ?_⟩
  rintro (_ | k) hk
  · exact Nat.zero_le _
  · rcases (q.matched_append_singleton lines line k).mp hk with hold | ⟨hold, -⟩
    · exact (h.2 hold).trans n.le_succ
    · exact Nat.succ_le_succ (h.2 hold)

theorem isGreatest_matched_of_not_answers {q : Quest} {lines : List String} {line : String} {n : Nat}
    (h : IsGreatest {k | q.Matched lines k} n)
    (hnone : ∀ step, q.steps[n]? = some step → ¬ step.Answers line) :
    IsGreatest {k | q.Matched (lines ++ [line]) k} n := by
  refine ⟨h.1.sublist (List.sublist_append_left _ _), ?_⟩
  rintro (_ | k) hk
  · exact Nat.zero_le _
  · rcases (q.matched_append_singleton lines line k).mp hk with hold | ⟨hold, step, hstep, hanswers⟩
    · exact h.2 hold
    · refine Nat.lt_of_le_of_ne (h.2 hold) fun heq => ?_
      exact hnone step (heq ▸ hstep) hanswers

end Quest

namespace Engine

/-! ## Runs -/

theorem after_append_submit (e : Engine) (lines : List String) (line : String) :
    e.after ((lines ++ [line]).map .submit) = ((e.after (lines.map .submit)).submit line).2 := by
  rw [List.map_append, after, List.foldl_append]
  rfl

/-- The steps taken are the most that can be matched: a step is taken with the first line that
answers it, which leaves the most lines to the others. -/
theorem stands_matched {q : Quest} (hzero : q.taken 0 = q) (hplain : ∀ s ∈ q.steps, s.check = none)
    (e : Engine) (lines : List String) :
    ∃ n fs, ((e.load q).after (lines.map .submit)).Stands q n fs ∧
      IsGreatest {k | q.Matched lines k} n := by
  induction lines using List.reverseRecOn with
  | nil =>
    refine ⟨0, q.initial, e.stands_load hzero, q.matched_zero [], fun k hk => ?_⟩
    exact ((q.matched_nil_iff k).mp hk).le
  | append_singleton lines line ih =>
    obtain ⟨n, fs, hstands, hgreatest⟩ := ih
    rw [after_append_submit]
    obtain ⟨gs, -, -, ⟨step, hstep, hadv, -, hnext⟩ | ⟨hnone, -, hnext⟩⟩ := hstands.submit line
    · have hanswers := (step.advances_validate_iff (hplain step (List.mem_of_getElem? hstep)) _ _).mp hadv
      exact ⟨n + 1, _, hnext, Quest.isGreatest_matched_of_answers hgreatest hstep hanswers⟩
    · refine ⟨n, _, hnext, Quest.isGreatest_matched_of_not_answers hgreatest fun step hstep hanswers => ?_⟩
      have hadv := (step.advances_validate_iff (hplain step (List.mem_of_getElem? hstep))
        line (Shell.next gs line)).mpr hanswers
      rw [hnone step hstep] at hadv
      cases hadv

/-- **The cursor of a quest that only compares texts** stands behind the greatest number of steps that
the lines can be matched to. So more lines never lead to less, and the quest is completed as soon as
all its steps can be matched. -/
theorem cursor_isGreatest {q : Quest} (hq : q.Built) (hsteps : ∀ s ∈ q.steps, s.completed = false)
    (hplain : ∀ s ∈ q.steps, s.check = none) (e : Engine) (lines : List String) :
    ∃ now, ((e.load q).after (lines.map .submit)).quest? = some now ∧
      IsGreatest {k | q.Matched lines k} now.cursor ∧
      (∀ more later, lines.Sublist more →
        ((e.load q).after (more.map .submit)).quest? = some later → now.cursor ≤ later.cursor) ∧
      (q.steps ≠ [] → (now.completed = true ↔ q.Matched lines q.steps.length)) := by
  have hzero := hq.taken_zero hsteps
  obtain ⟨n, fs, hstands, hgreatest⟩ := stands_matched hzero hplain e lines
  refine ⟨q.taken n, hstands.quest?_eq, hgreatest, fun more later hmore hlater => ?_, fun hne => ?_⟩
  · obtain ⟨m, gs, hstands', hgreatest'⟩ := stands_matched hzero hplain e more
    rw [hstands'.quest?_eq, Option.some_inj] at hlater
    rw [← hlater]
    exact hgreatest'.2 (hgreatest.1.sublist hmore)
  · have hpos : 0 < q.steps.length := List.length_pos_of_ne_nil hne
    rw [q.completed_taken hstands.1]
    constructor
    · rintro ⟨-, rfl⟩
      exact hgreatest.1
    · exact fun hall => ⟨hpos, Nat.le_antisymm hstands.1 (hgreatest.2 hall)⟩

def twins : Quest where
  id := "twins"
  title := "Twins"
  steps := [{ number := 1, title := "First", expected := ["pwd"] },
    { number := 2, title := "Second", expected := ["pwd"] }]
  initial := .seed

/-- The same line has to be given twice. -/
theorem cursor_isGreatest_twins :
    twins.Built ∧ (∀ s ∈ twins.steps, s.completed = false) ∧ (∀ s ∈ twins.steps, s.check = none) ∧
      ∃ now, ((new.load twins).after (["pwd", "ls", " PWD "].map .submit)).quest? = some now ∧
        IsGreatest {k | twins.Matched ["pwd", "ls", " PWD "] k} now.cursor ∧ now.cursor = 2 := by
  have hbuilt : twins.Built := (Quest.Built.new "twins" "Twins" "" .seed).addSteps twins.steps
  have hsteps : ∀ s ∈ twins.steps, s.completed = false := by decide
  have hplain : ∀ s ∈ twins.steps, s.check = none := by
    intro s hs
    simp only [twins, List.mem_cons, List.not_mem_nil, or_false] at hs
    rcases hs with rfl | rfl <;> rfl
  obtain ⟨now, hnow, hgreatest, -, -⟩ :=
    cursor_isGreatest hbuilt hsteps hplain new ["pwd", "ls", " PWD "]
  refine ⟨hbuilt, hsteps, hplain, now, hnow, hgreatest, ?_⟩
  have hcursor : ((new.load twins).after (["pwd", "ls", " PWD "].map .submit)).quest?.map
      (·.cursor) = some 2 := by rfl
  rw [hnow] at hcursor
  exact Option.some.inj hcursor

end Engine

end MissionShell
