import MissionShell.Proofs.Quest.Cursor

/-!
# Runs of the engine

Whatever is called on an engine that plays a quest, short of starting another one, the quest in it
is the one that was loaded with some number of steps taken.

* `Playthrough.quest_submit` : a line takes one step or none;
* `Engine.Call`, `Engine.call`, `Engine.after` : the calls on an engine;
* `Engine.Plays` : the engine plays the quest with `n` steps taken, which calls preserve;
* `Engine.Course`, `Engine.course_after` : what can be read off the engine agrees all along.
-/

namespace MissionShell

namespace Playthrough

/-- The step under the cursor is open: those behind the cursor are never marked. -/
theorem openStep?_taken (q : Quest) {n : Nat} (hn : n ≤ q.steps.length) :
    openStep? (q.taken n) = q.steps[n]?.map (.mark false) := by
  rw [openStep?, Quest.currentStep?_taken q hn]
  cases q.steps[n]? with
  | none => rfl
  | some s => rfl

theorem quest_submit (p : Playthrough) (line : String) :
    (p.submit line).2.quest = p.quest ∨
      (openStep? p.quest).isSome = true ∧ (p.submit line).2.quest = p.quest.completeStep := by
  unfold submit
  dsimp only
  split
  · next s hs =>
    refine Or.inr ⟨?_, rfl⟩
    rw [Option.filter_eq_some_iff] at hs
    rw [hs.1]
    rfl
  · exact Or.inl rfl

/-- A line takes one step or none, and none behind the last. -/
theorem quest_submit_taken {p : Playthrough} {q : Quest} {n : Nat} (hn : n ≤ q.steps.length)
    (hp : p.quest = q.taken n) (line : String) :
    ∃ m, n ≤ m ∧ m ≤ n + 1 ∧ m ≤ q.steps.length ∧ (p.submit line).2.quest = q.taken m := by
  rcases p.quest_submit line with hsame | ⟨hopen, hnext⟩
  · exact ⟨n, n.le_refl, n.le_succ, hn, hsame.trans hp⟩
  · rw [hp, openStep?_taken q hn, Option.isSome_map, isSome_getElem?] at hopen
    refine ⟨n + 1, n.le_succ, Nat.le_refl _, hopen, ?_⟩
    rw [hnext, hp, Quest.completeStep_taken q hopen]

end Playthrough

namespace Engine

/-! ## Calls -/

inductive Call where
  | submit (line : String)
  | check (line : String)
  | reset
  | startQuest (id : Option String)

/-- The engine after a call. A check only gives a verdict, and a quest that cannot be started leaves
the engine as it is. -/
def call (e : Engine) : Call → Engine
  | .submit line => (e.submit line).2
  | .check _ => e
  | .reset => e.reset
  | .startQuest id =>
    match e.startQuest id with
    | .ok next => next
    | .error _ => e

def after (e : Engine) (calls : List Call) : Engine := calls.foldl call e

/-- The call starts no other quest: it asks for none, or for one that does not exist. -/
def Call.Stays : Call → Prop
  | .submit _ | .check _ | .reset => True
  | .startQuest id => ∃ error, Mission.find id = .error error

theorem call_startQuest_of_error {id : Option String} {error : QuestError}
    (h : Mission.find id = .error error) (e : Engine) : e.call (.startQuest id) = e := by
  have hstart : e.startQuest id = .error error := by
    rw [startQuest, h]
    rfl
  rw [call, hstart]

/-! ## The quest that is played -/

/-- The engine plays `q` with the first `n` steps taken. -/
def Plays (e : Engine) (q : Quest) (n : Nat) : Prop :=
  n ≤ q.steps.length ∧ ∃ s, e.playthrough = some ⟨q.taken n, s⟩

theorem plays_load (e : Engine) {q : Quest} (h : q.taken 0 = q) : (e.load q).Plays q 0 := by
  refine ⟨Nat.zero_le _, Playthrough.openSession q, ?_⟩
  rw [h]
  rfl

theorem Plays.submit {e : Engine} {q : Quest} {n : Nat} (h : e.Plays q n) (line : String) :
    ∃ m, n ≤ m ∧ m ≤ n + 1 ∧ (e.submit line).2.Plays q m := by
  obtain ⟨hn, s, hs⟩ := h
  obtain ⟨m, hnm, hmn, hm, hquest⟩ :=
    Playthrough.quest_submit_taken (p := ⟨q.taken n, s⟩) hn rfl line
  refine ⟨m, hnm, hmn, hm, ((Playthrough.mk (q.taken n) s).submit line).2.session, ?_⟩
  rw [Engine.submit, hs, ← hquest]

theorem Plays.reset {e : Engine} {q : Quest} {n : Nat} (h : e.Plays q n) : e.reset.Plays q 0 := by
  obtain ⟨-, s, hs⟩ := h
  refine ⟨Nat.zero_le _, Playthrough.openSession (q.taken 0), ?_⟩
  rw [Engine.reset, hs, Option.map_some, Playthrough.restart, Quest.reset_taken]
  rfl

theorem Plays.call {e : Engine} {q : Quest} {n : Nat} (h : e.Plays q n) {c : Call} (hc : c.Stays) :
    ∃ m, (e.call c).Plays q m := by
  cases c with
  | submit line =>
    obtain ⟨m, -, -, hm⟩ := h.submit line
    exact ⟨m, hm⟩
  | check line => exact ⟨n, h⟩
  | reset => exact ⟨0, h.reset⟩
  | startQuest id =>
    obtain ⟨error, herror⟩ := hc
    rw [call_startQuest_of_error herror]
    exact ⟨n, h⟩

theorem Plays.after {e : Engine} {q : Quest} {n : Nat} (h : e.Plays q n) {calls : List Call}
    (hcalls : ∀ c ∈ calls, c.Stays) : ∃ m, (e.after calls).Plays q m := by
  induction calls generalizing e n with
  | nil => exact ⟨n, h⟩
  | cons c calls ih =>
    obtain ⟨m, hm⟩ := h.call (hcalls c List.mem_cons_self)
    exact ih hm fun d hd => hcalls d (List.mem_cons_of_mem c hd)

/-! ## What can be read off the engine -/

/-- The engine plays `now`, which is the quest `q` but for its cursor and marks, and every account of
how far it has come is the same. -/
structure Course (e : Engine) (q now : Quest) : Prop where
  quest : e.quest? = some now
  session : e.session?.isSome = true
  cursor_le : now.cursor ≤ now.steps.length
  marked : ∀ i s, now.steps[i]? = some s → (s.completed = true ↔ i < now.cursor)
  completed : now.completed = true ↔ 0 < now.steps.length ∧ now.cursor = now.steps.length
  progress : e.progress = ⟨now.cursor, now.steps.length⟩
  state : e.state = if now.completed then .completed else .inProgress
  currentStep : e.currentStep? = none ↔ now.cursor = now.steps.length
  unchanged : { now with
    steps := now.steps.map fun s => { s with completed := false }
    cursor := 0
    completed := false } = q

theorem Plays.course {e : Engine} {q : Quest} {n : Nat} (h : e.Plays q n) (hq : q.taken 0 = q) :
    e.Course q (q.taken n) := by
  obtain ⟨hn, s, hs⟩ := h
  have hquest : e.quest? = some (q.taken n) := by rw [quest?, hs]; rfl
  refine ⟨hquest, by rw [session?, hs]; rfl, ?_, ?_, ?_, ?_, ?_, ?_, ?_⟩
  · rw [Quest.length_taken]
    exact hn
  · intro i t ht
    rw [Quest.getElem?_taken q hn] at ht
    obtain ⟨u, -, rfl⟩ := Option.map_eq_some_iff.mp ht
    simp
  · rw [Quest.length_taken]
    exact q.completed_taken hn
  · rw [progress, hquest, Option.map_some, Quest.progress_taken q hn, Quest.length_taken]
    rfl
  · rw [state, hquest]
  · rw [currentStep?, hquest, Option.bind_some, Quest.length_taken]
    exact q.currentStep?_taken_eq_none hn
  · exact (q.reset_taken n).trans hq

/-- **Every account of the progress agrees**, whatever has been called on the engine since the quest
was loaded. -/
theorem course_after {q : Quest} (hq : q.Built) (hsteps : ∀ s ∈ q.steps, s.completed = false)
    (e : Engine) {calls : List Call} (hcalls : ∀ c ∈ calls, c.Stays) :
    ∃ now, ((e.load q).after calls).Course q now := by
  have hzero := hq.taken_zero hsteps
  obtain ⟨n, hn⟩ := (e.plays_load hzero).after hcalls
  exact ⟨q.taken n, hn.course hzero⟩

/-- The first mission, with a line that takes its first step and a mission that does not exist. -/
theorem course_after_first :
    Mission.first.Built ∧ (∀ s ∈ Mission.first.steps, s.completed = false) ∧
      (Call.startQuest (some "last-mission")).Stays ∧
      ∃ now, ((new.load Mission.first).after
        [.submit "ssh", .startQuest (some "last-mission"), .check "ls"]).Course Mission.first now := by
  have hstays : (Call.startQuest (some "last-mission")).Stays := ⟨_, rfl⟩
  refine ⟨Mission.built_first, Mission.unmarked_first, hstays, ?_⟩
  refine course_after Mission.built_first Mission.unmarked_first new fun c hc => ?_
  simp only [List.mem_cons, List.not_mem_nil, or_false] at hc
  rcases hc with rfl | rfl | rfl
  · exact trivial
  · exact hstays
  · exact trivial

end Engine

end MissionShell
