import MissionShell.Proofs.Quest.Submission

/-!
# Starting anew

A reset leaves nothing of a run behind: the engine is the one that a new engine becomes when the quest
is loaded into it, so that no later line can tell the two apart.

* `Engine.answers` : the answers to some lines;
* `Engine.onInitial?_load` : an engine on the quest's own snapshot;
* `Engine.reset_after_eq_load` : a reset after any run.
-/

namespace MissionShell.Engine

def answers (e : Engine) : List String → List Submission
  | [] => []
  | line :: lines => (e.submit line).1 :: (e.submit line).2.answers lines

theorem onInitial?_load (e : Engine) (q : Quest) : (e.load q).onInitial? = some true := by
  rw [onInitial?, load, Option.map_some, Playthrough.start, Playthrough.filesystem_openSession]
  simp [Filesystem.sameSnapshot]

/-- **A reset cannot be told from a fresh start**: whatever has been called on the engine, it is then
the new engine with the quest loaded, stands on the quest's very own snapshot, and gives the same
answers to all further lines. -/
theorem reset_after_eq_load {q : Quest} (hq : q.Built) (hsteps : ∀ s ∈ q.steps, s.completed = false)
    (e : Engine) {calls : List Call} (hcalls : ∀ c ∈ calls, c.Stays) :
    ((e.load q).after calls).reset = new.load q ∧
      ((e.load q).after calls).reset.onInitial? = some true ∧
      ∀ lines, ((e.load q).after calls).reset.answers lines = (new.load q).answers lines := by
  have hzero := hq.taken_zero hsteps
  obtain ⟨n, hn⟩ := (e.plays_load hzero).after hcalls
  have hreset := hn.reset_eq hzero
  refine ⟨hreset, ?_, fun lines => ?_⟩
  · rw [hreset]
    exact onInitial?_load new q
  · rw [hreset]

def detour : List Call :=
  [.submit "ssh", .check "ls", .submit "mkdir hackzone", .submit "cd hackzone"]

/-- The first mission is begun again after the detour. -/
theorem reset_after_eq_load_first :
    Mission.first.Built ∧ (∀ s ∈ Mission.first.steps, s.completed = false) ∧
      (∀ c ∈ detour, c.Stays) ∧
      ((new.load Mission.first).after detour).reset = new.load Mission.first ∧
      ((new.load Mission.first).after detour).reset.onInitial? = some true ∧
      ∀ lines, ((new.load Mission.first).after detour).reset.answers lines =
        (new.load Mission.first).answers lines := by
  have hstays : ∀ c ∈ detour, c.Stays := by simp [detour, Call.Stays]
  exact ⟨Mission.built_first, Mission.unmarked_first, hstays,
    reset_after_eq_load Mission.built_first Mission.unmarked_first new hstays⟩

end MissionShell.Engine
