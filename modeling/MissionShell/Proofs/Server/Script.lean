import MissionShell.Proofs.Server.Calls
import Mathlib.Data.List.Induction
import Mathlib.Data.List.Nodup

/-!
# Scripts of sessions

The script of a session is what it was created with and what it was told to do since, read off the
accepted requests. The store holds the engines that play the scripts, each on its own.

* `Service.Arrival`, `Service.serve`, `Service.transcript` : requests as they come in, the store after
  them, and the requests with their answers;
* `Service.Script`, `Service.Script.engine` : a script and the engine that plays it;
* `Service.scriptOf` : the script of a session in a transcript;
* `Service.step_cases` : what a request does;
* `Service.Follows`, `Service.Follows.step` : the store follows the scripts, before and after a
  request.
-/

namespace MissionShell.Service

/-! ## Requests in a row -/

/-- A request with the time at which it comes in and the identifier of the session that it creates,
should it create one. -/
structure Arrival where
  now : Nat
  freshId : Uuid
  request : Request

def answer (s : Store) (a : Arrival) : Response := (handle s a.now a.freshId a.request).1

def step (s : Store) (a : Arrival) : Store := (handle s a.now a.freshId a.request).2

def serve (s : Store) (arrivals : List Arrival) : Store := arrivals.foldl step s

structure Exchange where
  arrival : Arrival
  response : Response

def exchange (s : Store) (a : Arrival) : Exchange := ⟨a, answer s a⟩

def transcript (s : Store) : List Arrival → List Exchange
  | [] => []
  | a :: rest => exchange s a :: transcript (step s a) rest

theorem serve_append_singleton (s : Store) (arrivals : List Arrival) (a : Arrival) :
    serve s (arrivals ++ [a]) = step (serve s arrivals) a := by
  simp [serve]

theorem transcript_append (s : Store) (before after : List Arrival) :
    transcript s (before ++ after) = transcript s before ++ transcript (serve s before) after := by
  induction before generalizing s with
  | nil => rfl
  | cons a before ih =>
    rw [List.cons_append, transcript, ih, transcript, List.cons_append]
    rfl

/-! ## Scripts -/

inductive Move where
  | submit (line : String)
  | reset
deriving DecidableEq

def Move.play (e : Engine) : Move → Engine
  | submit line => (e.submit line).2
  | reset => e.reset

theorem Move.exists_playthrough {e : Engine} (h : ∃ p, e.playthrough = some p) (m : Move) :
    ∃ p, (m.play e).playthrough = some p := by
  obtain ⟨p, hp⟩ := h
  obtain ⟨_⟩ := e
  cases hp
  cases m with
  | submit line => exact ⟨(p.submit line).2, rfl⟩
  | reset => exact ⟨p.restart, rfl⟩

theorem exists_playthrough_foldl {e : Engine} (h : ∃ p, e.playthrough = some p) (moves : List Move) :
    ∃ p, (moves.foldl Move.play e).playthrough = some p := by
  induction moves generalizing e with
  | nil => exact h
  | cons m moves ih => exact ih (m.exists_playthrough h)

/-- The quest that a session was created with and what it was told to do since. -/
structure Script where
  quest : Option String
  moves : List Move
deriving DecidableEq

namespace Script

def add (script : Script) (m : Move) : Script := { script with moves := script.moves ++ [m] }

def engine (script : Script) : Except QuestError Engine :=
  (Engine.start script.quest).map fun e => script.moves.foldl Move.play e

theorem engine_add {script : Script} {e : Engine} (h : script.engine = .ok e) (m : Move) :
    (script.add m).engine = .ok (m.play e) := by
  unfold engine add at *
  cases hstart : Engine.start script.quest with
  | error error =>
    rw [hstart] at h
    cases h
  | ok first =>
    rw [hstart] at h
    rw [← Except.ok.inj h]
    simp [Except.map]

/-- The engine of a script plays a quest. -/
theorem exists_playthrough {script : Script} {e : Engine} (h : script.engine = .ok e) :
    ∃ p, e.playthrough = some p := by
  unfold engine Engine.start Engine.startQuest at h
  cases hfind : Mission.find script.quest with
  | error error =>
    rw [hfind] at h
    cases h
  | ok q =>
    rw [hfind] at h
    rw [← Except.ok.inj h]
    exact exists_playthrough_foldl ⟨_, rfl⟩ script.moves

end Script

/-- What a call, if it is accepted, makes of the script of the session `id`. -/
def Call.script (id freshId : Uuid) (script : Option Script) : Call → Option Script
  | .create quest => if id = freshId then some ⟨quest, []⟩ else script
  | .remove other => if id = other then none else script
  | .submit other line => if id = other then script.map (·.add (.submit line)) else script
  | .reset other => if id = other then script.map (·.add .reset) else script
  | .health | .inspect _ => script

namespace Exchange

def call? (x : Exchange) : Option Call :=
  if x.response.accepted then (Call.ofRequest x.arrival.request).toOption else none

def script (id : Uuid) (before : Option Script) (x : Exchange) : Option Script :=
  x.call?.elim before (Call.script id x.arrival.freshId before)

def issued? (x : Exchange) : Option Uuid :=
  match x.call? with
  | some (.create _) => some x.arrival.freshId
  | _ => none

end Exchange

/-- The script of the session `id`, if it was created and has not been removed. -/
def scriptOf (id : Uuid) (exchanges : List Exchange) : Option Script :=
  exchanges.foldl (Exchange.script id) none

theorem scriptOf_append_singleton (id : Uuid) (exchanges : List Exchange) (x : Exchange) :
    scriptOf id (exchanges ++ [x]) = x.script id (scriptOf id exchanges) := by
  simp [scriptOf]

theorem eq_some_of_ite_add {p : Prop} [Decidable p] {before : Option Script} {m : Move}
    {script : Script} (h : (if p then before.map (·.add m) else before) = some script) :
    ∃ old, before = some old := by
  split_ifs at h
  · obtain ⟨old, hold, -⟩ := Option.map_eq_some_iff.mp h
    exact ⟨old, hold⟩
  · exact ⟨script, h⟩

/-- A call makes a script only for the session that it creates; the others had one before. -/
theorem Call.script_eq_some {id freshId : Uuid} {before : Option Script} {c : Call} {script : Script}
    (h : c.script id freshId before = some script) :
    (∃ quest, c = .create quest ∧ id = freshId) ∨ ∃ old, before = some old := by
  cases c with
  | create quest =>
    simp only [Call.script] at h
    split_ifs at h with hid
    · exact Or.inl ⟨quest, rfl, hid⟩
    · exact Or.inr ⟨script, h⟩
  | remove other =>
    simp only [Call.script] at h
    split_ifs at h
    exact Or.inr ⟨script, h⟩
  | submit other line => exact Or.inr (eq_some_of_ite_add h)
  | reset other => exact Or.inr (eq_some_of_ite_add h)
  | health | inspect _ => exact Or.inr ⟨script, h⟩

/-- Only sessions that were created have a script. -/
theorem mem_issued_of_scriptOf {id : Uuid} {exchanges : List Exchange} {script : Script}
    (h : scriptOf id exchanges = some script) : id ∈ exchanges.filterMap Exchange.issued? := by
  induction exchanges using List.reverseRecOn generalizing script with
  | nil => cases h
  | append_singleton exchanges x ih =>
    rw [scriptOf_append_singleton] at h
    rw [List.filterMap_append, List.mem_append]
    unfold Exchange.script at h
    cases hcall : x.call? with
    | none =>
      rw [hcall] at h
      exact Or.inl (ih h)
    | some c =>
      rw [hcall] at h
      rcases Call.script_eq_some h with ⟨quest, rfl, rfl⟩ | ⟨old, hold⟩
      · refine Or.inr (List.mem_filterMap.mpr ⟨x, List.mem_singleton.mpr rfl, ?_⟩)
        rw [Exchange.issued?, hcall]
      · exact Or.inl (ih hold)

/-! ## One request -/

section Request
variable {a : Arrival} {c : Call}

theorem step_of_ok (h : Call.ofRequest a.request = .ok c) (s : Store) :
    step s a = (perform s a.now a.freshId c).2 := by
  rw [step, handle, h]

theorem answer_of_ok (h : Call.ofRequest a.request = .ok c) (s : Store) :
    answer s a = if a.request.method = .head then (perform s a.now a.freshId c).1.withoutBody
      else (perform s a.now a.freshId c).1 := by
  rw [answer, handle, h]

theorem accepted_answer_of_ok (h : Call.ofRequest a.request = .ok c) (s : Store) :
    (answer s a).accepted = (perform s a.now a.freshId c).1.accepted := by
  rw [answer_of_ok h]
  split_ifs <;> rfl

theorem call?_exchange_of_ok (h : Call.ofRequest a.request = .ok c) (s : Store) :
    (exchange s a).call? = if (answer s a).accepted then some c else none := by
  rw [Exchange.call?, exchange, h]
  rfl

theorem call?_exchange_of_error {status : Nat} (h : Call.ofRequest a.request = .error status)
    (s : Store) : (exchange s a).call? = none := by
  rw [Exchange.call?, exchange, h]
  split_ifs <;> rfl

theorem settled_of_ok {s : Store} (h : Call.ofRequest a.request = .ok c)
    (hfresh : (exchange s a).issued? = some a.freshId → s.engine? a.freshId = none) :
    c.Settled s a.freshId (perform s a.now a.freshId c) := by
  refine settled_perform fun quest hquest hacc => hfresh ?_
  rw [← accepted_answer_of_ok h] at hacc
  rw [Exchange.issued?, call?_exchange_of_ok h, if_pos hacc, hquest]
  rfl

/-- A request is refused and leaves the store, or its call was accepted and done. -/
theorem step_cases (s : Store) (a : Arrival)
    (hfresh : (exchange s a).issued? = some a.freshId → s.engine? a.freshId = none) :
    ((exchange s a).call? = none ∧ step s a = s) ∨
      ∃ c, (exchange s a).call? = some c ∧
        c.Done s (step s a) a.freshId (perform s a.now a.freshId c).1.body := by
  cases hcall : Call.ofRequest a.request with
  | error status =>
    refine Or.inl ⟨call?_exchange_of_error hcall s, ?_⟩
    rw [step, handle, hcall]
  | ok c =>
    rw [step_of_ok hcall, call?_exchange_of_ok hcall, accepted_answer_of_ok hcall]
    rcases settled_of_ok hcall hfresh with ⟨-, hrefused, hsame⟩ | ⟨hacc, hdone⟩
    · exact Or.inl ⟨by rw [hrefused]; rfl, hsame⟩
    · exact Or.inr ⟨c, by rw [hacc]; rfl, hdone⟩

end Request

/-! ## The store and the scripts -/

/-- The engine of each session plays its script, and only sessions with a script are live. -/
def Follows (s : Store) (scripts : Uuid → Option Script) : Prop :=
  ∀ id, (scripts id).map Script.engine = (s.engine? id).map .ok

theorem Follows.script {s : Store} {scripts : Uuid → Option Script} (h : Follows s scripts)
    {id : Uuid} {e : Engine} (he : s.engine? id = some e) :
    ∃ script, scripts id = some script ∧ script.engine = .ok e := by
  have hid := h id
  rw [he] at hid
  exact Option.map_eq_some_iff.mp hid

theorem Follows.engine?_eq_none {s : Store} {scripts : Uuid → Option Script} (h : Follows s scripts)
    {id : Uuid} (hscript : scripts id = none) : s.engine? id = none := by
  have hid := h id
  rw [hscript] at hid
  exact Option.map_eq_none_iff.mp hid.symm

theorem Follows.live {s : Store} {scripts : Uuid → Option Script} (h : Follows s scripts)
    {id : Uuid} {script : Script} (hscript : scripts id = some script) :
    ∃ e, s.engine? id = some e ∧ script.engine = .ok e := by
  have hid := h id
  rw [hscript] at hid
  obtain ⟨e, he, hengine⟩ := Option.map_eq_some_iff.mp hid.symm
  exact ⟨e, he, hengine.symm⟩

/-- The use of a session is a move in its script. -/
theorem Follows.move {s next : Store} {scripts : Uuid → Option Script} (h : Follows s scripts)
    {other : Uuid} {e : Engine} (m : Move) (he : s.engine? other = some e)
    (hnext : next.engine? = Function.update s.engine? other (some (m.play e))) :
    Follows next fun id => if id = other then (scripts id).map (·.add m) else scripts id := by
  intro id
  rw [hnext, Function.update_apply]
  dsimp only
  split_ifs with hother
  · subst hother
    obtain ⟨script, hscript, hengine⟩ := h.script he
    rw [hscript, Option.map_some, Option.map_some, Script.engine_add hengine]
    rfl
  · exact h id

theorem Follows.done {s next : Store} {scripts : Uuid → Option Script} (h : Follows s scripts)
    {freshId : Uuid} {body : Body} {c : Call} (hdone : c.Done s next freshId body) :
    Follows next fun id => c.script id freshId (scripts id) := by
  cases c with
  | health =>
    intro id
    rw [show next.engine? = s.engine? from hdone]
    exact h id
  | inspect other =>
    obtain ⟨e, -, -, hnext⟩ := hdone
    intro id
    rw [hnext]
    exact h id
  | create quest =>
    obtain ⟨e, he, -, hnext⟩ := hdone
    intro id
    rw [hnext, Function.update_apply]
    simp only [Call.script]
    split_ifs
    · rw [Option.map_some, Script.engine, he]
      rfl
    · exact h id
  | remove other =>
    obtain ⟨-, -, hnext⟩ := hdone
    intro id
    rw [hnext, Function.update_apply]
    simp only [Call.script]
    split_ifs
    · rfl
    · exact h id
  | submit other line =>
    obtain ⟨e, he, -, hnext⟩ := hdone
    exact h.move (.submit line) he hnext
  | reset other =>
    obtain ⟨e, he, -, hnext⟩ := hdone
    exact h.move .reset he hnext

theorem Follows.step {s : Store} {scripts : Uuid → Option Script} (h : Follows s scripts) (a : Arrival)
    (hfresh : (exchange s a).issued? = some a.freshId → scripts a.freshId = none) :
    Follows (step s a) fun id => (exchange s a).script id (scripts id) := by
  have hengine : (exchange s a).issued? = some a.freshId →
      s.engine? a.freshId = none := fun hissued => h.engine?_eq_none (hfresh hissued)
  unfold Exchange.script
  rcases step_cases s a hengine with ⟨hnone, hsame⟩ | ⟨c, hcall, hdone⟩
  · rw [hnone, hsame]
    exact h
  · rw [hcall]
    exact h.done hdone

end MissionShell.Service
