import MissionShell.Proofs.Server.Store
import MissionShell.Server.Service

/-!
# What each call does

A call for a quest or a session that does not exist is refused and leaves the store as it is. Any
other one is accepted, with the one body and the one change to the engines that belong to its kind.

* `Response.accepted` : whether a request was accepted;
* `Service.Call.Open`, `Service.Call.Done` : when a call is accepted, and what it then shows and
  leaves;
* `Service.settled_perform` : a call is refused or done;
* `Service.refusal_of_ofRequest` : requests that make no call are refused.
-/

namespace MissionShell

def Response.accepted (r : Response) : Bool := 200 ≤ r.status && r.status < 300

namespace Service

/-! ## Calls -/

/-- The quest or the session that the call is for exists. -/
def Call.Open (live : Uuid → Prop) : Call → Prop
  | .health => True
  | .create quest => ∃ e, Engine.start quest = .ok e
  | .inspect id | .remove id | .submit id _ | .reset id => live id

/-- An accepted call shows `body` and leaves the store `next`. -/
def Call.Done (s next : Store) (freshId : Uuid) (body : Body) : Call → Prop
  | .health => next.engine? = s.engine?
  | .create quest => ∃ e, Engine.start quest = .ok e ∧ body = .json (e.view freshId) ∧
      next.engine? = Function.update s.engine? freshId (some e)
  | .inspect id => ∃ e, s.engine? id = some e ∧ body = .json (e.view id) ∧
      next.engine? = s.engine?
  | .remove id => (∃ e, s.engine? id = some e) ∧ body = .none ∧
      next.engine? = Function.update s.engine? id none
  | .submit id line => ∃ e, s.engine? id = some e ∧
      body = .json ((e.submit line).2.answer (e.submit line).1) ∧
      next.engine? = Function.update s.engine? id (some (e.submit line).2)
  | .reset id => ∃ e, s.engine? id = some e ∧ body = .json (e.reset.view id) ∧
      next.engine? = Function.update s.engine? id (some e.reset)

theorem Call.Done.opened {s next : Store} {freshId : Uuid} {body : Body} {c : Call}
    (h : c.Done s next freshId body) : c.Open fun id => ∃ e, s.engine? id = some e := by
  cases c with
  | health => exact trivial
  | create quest =>
    obtain ⟨e, he, -⟩ := h
    exact ⟨e, he⟩
  | remove id => exact h.1
  | inspect id | submit id line | reset id =>
    obtain ⟨e, he, -⟩ := h
    exact ⟨e, he⟩

/-- A call for something that does not exist is refused and leaves the store; any other one is
accepted and done. -/
def Call.Settled (s : Store) (freshId : Uuid) (c : Call) (result : Response × Store) : Prop :=
  ((¬ c.Open fun id => ∃ e, s.engine? id = some e) ∧ result.1.accepted = false ∧ result.2 = s) ∨
    (result.1.accepted = true ∧ c.Done s result.2 freshId result.1.body)

theorem not_live_of_none {s : Store} {id : Uuid} (h : s.engine? id = none) :
    ¬ ∃ e, s.engine? id = some e := by
  rintro ⟨e, he⟩
  rw [h] at he
  cases he

theorem settled_useSession {s : Store} {now : Nat} {id freshId : Uuid} {f : Engine → Json × Engine}
    {c : Call} (hopen : (c.Open fun id => ∃ e, s.engine? id = some e) → ∃ e, s.engine? id = some e)
    (hdone : ∀ e next, s.engine? id = some e →
      next.engine? = Function.update s.engine? id (some (f e).2) →
      c.Done s next freshId (.json (f e).1)) :
    c.Settled s freshId (useSession s now id f) := by
  unfold useSession
  rcases s.withSession_cases now id f with ⟨hnone, herror⟩ | ⟨e, next, he, hok, hnext⟩
  · rw [herror]
    exact Or.inl ⟨fun h => not_live_of_none hnone (hopen h), rfl, rfl⟩
  · rw [hok]
    exact Or.inr ⟨rfl, hdone e next he hnext⟩

/-- The new identifier only matters if the quest exists. -/
theorem settled_createSession {s : Store} {now : Nat} {freshId : Uuid} {quest : Option String}
    (hfresh : (createSession s now freshId quest).1.accepted = true → s.engine? freshId = none) :
    (Call.create quest).Settled s freshId (createSession s now freshId quest) := by
  unfold createSession at *
  cases hstart : Engine.start quest with
  | error error =>
    rw [Store.create_of_error hstart]
    refine Or.inl ⟨?_, rfl, rfl⟩
    rintro ⟨e, he⟩
    rw [hstart] at he
    cases he
  | ok e =>
    obtain ⟨next, hcreate, hnext⟩ := Store.create_of_ok hstart s now freshId
    have hlive : ∃ engine, next.engine? freshId = some engine := by
      rw [hnext, if_pos rfl]
      cases s.engine? freshId with
      | none => exact ⟨e, rfl⟩
      | some engine => exact ⟨engine, rfl⟩
    obtain ⟨engine, hengine⟩ := hlive
    rw [hcreate] at hfresh ⊢
    dsimp only at hfresh ⊢
    rw [hengine] at hfresh ⊢
    have hupdate : next.engine? = Function.update s.engine? freshId (some e) := by
      funext other
      rw [hnext, Function.update_apply]
      split_ifs with hother
      · rw [hother, hfresh rfl, Option.none_or]
      · rw [Option.or_none]
    rw [hupdate, Function.update_self] at hengine
    rw [← Option.some.inj hengine]
    exact Or.inr ⟨rfl, e, hstart, rfl, hupdate⟩

theorem settled_removeSession (s : Store) (id freshId : Uuid) :
    (Call.remove id).Settled s freshId (removeSession s id) := by
  unfold removeSession
  rcases s.remove_cases id with ⟨hnone, herror⟩ | ⟨e, next, he, hok, hnext⟩
  · rw [herror]
    exact Or.inl ⟨not_live_of_none hnone, rfl, rfl⟩
  · rw [hok]
    exact Or.inr ⟨rfl, ⟨e, he⟩, rfl, hnext⟩

/-- A session that is created needs an identifier that no other one has. -/
theorem settled_perform {s : Store} {now : Nat} {freshId : Uuid} {c : Call}
    (hfresh : ∀ quest, c = .create quest → (perform s now freshId c).1.accepted = true →
      s.engine? freshId = none) :
    c.Settled s freshId (perform s now freshId c) := by
  cases c with
  | health => exact Or.inr ⟨rfl, rfl⟩
  | create quest => exact settled_createSession (hfresh quest rfl)
  | inspect id =>
    refine settled_useSession (fun h => h) fun e next he hnext => ⟨e, he, rfl, ?_⟩
    rw [hnext, ← he, Function.update_eq_self]
  | remove id => exact settled_removeSession s id freshId
  | submit id line => exact settled_useSession (fun h => h) fun e next he hnext => ⟨e, he, rfl, hnext⟩
  | reset id => exact settled_useSession (fun h => h) fun e next he hnext => ⟨e, he, rfl, hnext⟩

/-! ## Requests -/

def refusals : List Nat := [400, 404, 405, 415, 422]

theorem faultStatus_mem_refusals (e : ReadError) : faultStatus e ∈ refusals := by
  cases e <;> decide

theorem refusal_of_readId {segment : List Char} {status : Nat} (h : readId segment = .error status) :
    status ∈ refusals := by
  unfold readId at h
  split at h
  · cases h
  · cases h
    decide

theorem refusal_of_mapError {α : Type} {x : Except ReadError α} {status : Nat}
    (h : x.mapError faultStatus = .error status) : status ∈ refusals := by
  cases x with
  | ok a => cases h
  | error e =>
    rw [← Except.error.inj h]
    exact faultStatus_mem_refusals e

theorem refusal_of_readQuest {r : Request} {status : Nat} (h : readQuest r = .error status) :
    status ∈ refusals := by
  unfold readQuest at h
  split at h
  · cases h
  · split at h
    · exact refusal_of_mapError h
    · cases h
      decide

theorem refusal_of_readLine {r : Request} {status : Nat} (h : readLine r = .error status) :
    status ∈ refusals := by
  unfold readLine at h
  split at h
  · exact refusal_of_mapError h
  · cases h
    decide

theorem error_of_map {α β : Type} {f : α → β} {x : Except Nat α} {status : Nat}
    (h : x.map f = .error status) : x = .error status := by
  cases x with
  | ok a => cases h
  | error e => rw [← Except.error.inj h]

/-- A request that makes no call is refused. -/
theorem refusal_of_ofRequest {r : Request} {status : Nat} (h : Call.ofRequest r = .error status) :
    status ∈ refusals := by
  unfold Call.ofRequest at h
  split at h
  · cases h
    decide
  · split at h
    · cases h
    · cases h
    · exact refusal_of_readQuest (error_of_map h)
    · exact refusal_of_readId (error_of_map h)
    · exact refusal_of_readId (error_of_map h)
    · exact refusal_of_readId (error_of_map h)
    · next segment _ _ =>
      cases hid : readId segment with
      | error e =>
        rw [hid] at h
        rw [← Except.error.inj h]
        exact refusal_of_readId hid
      | ok id =>
        rw [hid] at h
        exact refusal_of_readLine (error_of_map h)
    · exact refusal_of_readId (error_of_map h)
    · cases h
      decide

end Service

end MissionShell
