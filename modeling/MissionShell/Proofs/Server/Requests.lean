import MissionShell.Proofs.Http.Route
import MissionShell.Proofs.Json.Record
import MissionShell.Server.Service

/-!
# Requests for a session

A request is for a session if it goes to one of the session's targets with a method of that target and
with a body that can be read. The targets may be spelled with the identifier as it was issued, and the
body may be the record of any line.

* `Service.Addresses` : which session a request is for;
* `Service.addresses_iff` : it is the one that the call of the request is for;
* `Service.sessionTarget` : the target of a session;
* `Service.readLine_spell`, `Service.readQuest_spell` : the lines and the quests that are read;
* `Service.Call.request`, `Service.ofRequest_request` : a request for any call;
* `Service.addresses_request` : the session that such a request is for.
-/

namespace MissionShell.Service

/-! ## The session of a request -/

/-- The request is for the session `id`: it matches the path and the method of a route for one
session, and its identifier and its body can be read. -/
inductive Addresses (r : Request) (id : Uuid) : Prop where
  | session {segment : List Char} (hroute : Route.ofTarget? r.target = some (.session segment))
      (hmethod : r.method = .get ∨ r.method = .head ∨ r.method = .delete)
      (hid : readId segment = .ok id)
  | commands {segment : List Char} {line : String}
      (hroute : Route.ofTarget? r.target = some (.commands segment)) (hmethod : r.method = .post)
      (hid : readId segment = .ok id) (hline : readLine r = .ok line)
  | reset {segment : List Char} (hroute : Route.ofTarget? r.target = some (.reset segment))
      (hmethod : r.method = .post) (hid : readId segment = .ok id)

/-- The session that must exist for a call. -/
def Call.session? : Call → Option Uuid
  | .health | .create _ => none
  | .inspect id | .remove id | .submit id _ | .reset id => some id

theorem Addresses.call {r : Request} {id : Uuid} (h : Addresses r id) :
    ∃ c, Call.ofRequest r = .ok c ∧ c.session? = some id := by
  cases h with
  | session hroute hmethod hid =>
    rcases hmethod with hmethod | hmethod | hmethod
    · exact ⟨.inspect id, by simp only [Call.ofRequest, hroute, hmethod, hid, Except.map], rfl⟩
    · exact ⟨.inspect id, by simp only [Call.ofRequest, hroute, hmethod, hid, Except.map], rfl⟩
    · exact ⟨.remove id, by simp only [Call.ofRequest, hroute, hmethod, hid, Except.map], rfl⟩
  | @commands _ line hroute hmethod hid hline =>
    exact ⟨.submit id line, by
      simp only [Call.ofRequest, hroute, hmethod, hid, hline, Except.bind, Except.map], rfl⟩
  | reset hroute hmethod hid =>
    exact ⟨.reset id, by simp only [Call.ofRequest, hroute, hmethod, hid, Except.map], rfl⟩

theorem exists_of_map_eq_ok {α β : Type} {f : α → β} {x : Except Nat α} {b : β}
    (h : x.map f = .ok b) : ∃ a, x = .ok a ∧ f a = b := by
  cases x with
  | error status => cases h
  | ok a => exact ⟨a, rfl, Except.ok.inj h⟩

/-- A call that is made of the identifier in a path is for the session of that identifier. -/
theorem readId_of_session?_eq {segment : List Char} {f : Uuid → Call}
    (hf : ∀ id, (f id).session? = some id) {c : Call} (h : (readId segment).map f = .ok c) {id : Uuid}
    (hid : c.session? = some id) : readId segment = .ok id ∧ c = f id := by
  obtain ⟨other, hread, rfl⟩ := exists_of_map_eq_ok h
  rw [hf, Option.some.injEq] at hid
  exact ⟨hid ▸ hread, congrArg f hid⟩

/-- A call for a session comes from a request for it, and only a `DELETE` request removes one. -/
theorem Addresses.of_call {r : Request} {c : Call} (h : Call.ofRequest r = .ok c) {id : Uuid}
    (hid : c.session? = some id) : Addresses r id ∧ (c = .remove id → r.method = .delete) := by
  unfold Call.ofRequest at h
  split at h
  · cases h
  · next route hroute =>
    split at h
    · cases h
      cases hid
    · cases h
      cases hid
    · obtain ⟨quest, -, rfl⟩ := exists_of_map_eq_ok h
      cases hid
    · next hmethod =>
      obtain ⟨hread, rfl⟩ := readId_of_session?_eq (fun _ => rfl) h hid
      exact ⟨.session hroute (Or.inl hmethod) hread, nofun⟩
    · next hmethod =>
      obtain ⟨hread, rfl⟩ := readId_of_session?_eq (fun _ => rfl) h hid
      exact ⟨.session hroute (Or.inr (Or.inl hmethod)) hread, nofun⟩
    · next hmethod =>
      obtain ⟨hread, rfl⟩ := readId_of_session?_eq (fun _ => rfl) h hid
      exact ⟨.session hroute (Or.inr (Or.inr hmethod)) hread, fun _ => hmethod⟩
    · next segment hmethod =>
      cases hread : readId segment with
      | error status =>
        rw [hread] at h
        cases h
      | ok other =>
        rw [hread] at h
        obtain ⟨line, hline, rfl⟩ := exists_of_map_eq_ok h
        cases hid
        exact ⟨.commands hroute hmethod hread hline, nofun⟩
    · next hmethod =>
      obtain ⟨hread, rfl⟩ := readId_of_session?_eq (fun _ => rfl) h hid
      exact ⟨.reset hroute hmethod hread, nofun⟩
    · cases h

theorem addresses_iff {r : Request} {c : Call} (h : Call.ofRequest r = .ok c) (id : Uuid) :
    Addresses r id ↔ c.session? = some id := by
  constructor
  · intro haddr
    obtain ⟨d, hd, hid⟩ := haddr.call
    rw [← Except.ok.inj (h.symm.trans hd)] at hid
    exact hid
  · exact fun hid => (Addresses.of_call h hid).1

theorem not_addresses_of_error {r : Request} {status : Nat} (h : Call.ofRequest r = .error status)
    (id : Uuid) : ¬ Addresses r id := by
  intro haddr
  obtain ⟨c, hc, -⟩ := haddr.call
  rw [h] at hc
  cases hc

theorem Addresses.unique {r : Request} {id other : Uuid} (h : Addresses r id)
    (h' : Addresses r other) : id = other := by
  obtain ⟨c, hc, hid⟩ := h.call
  exact Option.some.inj (hid.symm.trans ((addresses_iff hc other).mp h'))

/-- The target of the session `id`. Those of its lines and of its new start are behind it. -/
def sessionTarget (id : Uuid) : String := "/api/sessions/" ++ id.toString

/-- An identifier is read back from a path. -/
theorem readId_toString (id : Uuid) : readId id.toString.toList = .ok id := by
  rw [readId, Route.percentDecode_toString, Uuid.parse?_toString]

theorem isJsonType_json : isJsonType "application/json" = true := by decide +kernel

section Spelled
variable {r : Request} {id : Uuid}

theorem readLine_spell (htype : r.contentType = some "application/json") {line : String}
    (hbody : r.body = JsonRecord.spell "line" line) : readLine r = .ok line := by
  have hread : JsonRecord.readBody "line" JsonToken.text none r.body = .ok line :=
    hbody ▸ JsonRecord.readBody_spell "line" line JsonToken.text rfl none
  rw [readLine, htype, if_pos (by simp [isJsonType_json]), hread]
  rfl

theorem readQuest_spell (htype : r.contentType = some "application/json") {quest : String}
    (hbody : r.body = JsonRecord.spell "quest_id" quest) : readQuest r = .ok (some quest) := by
  have hread : JsonRecord.readBody "quest_id" JsonToken.text? (some none) r.body = .ok (some quest) :=
    hbody ▸ JsonRecord.readBody_spell "quest_id" quest JsonToken.text? rfl (some none)
  rw [readQuest, htype]
  dsimp only
  rw [if_pos isJsonType_json, hread]
  rfl

theorem ofRequest_create (htarget : r.target = "/api/sessions") (hmethod : r.method = .post)
    {quest : Option String} (hquest : readQuest r = .ok quest) :
    Call.ofRequest r = .ok (.create quest) := by
  have hroute : Route.ofTarget? "/api/sessions" = some .sessions := by decide +kernel
  simp only [Call.ofRequest, htarget, hroute, hmethod, hquest, Except.map]

theorem ofRequest_inspect (htarget : r.target = sessionTarget id)
    (hmethod : r.method = .get ∨ r.method = .head) : Call.ofRequest r = .ok (.inspect id) := by
  rw [Call.ofRequest, htarget, sessionTarget, Route.ofTarget?_session]
  rcases hmethod with hmethod | hmethod
  all_goals
    simp only [hmethod, readId_toString, Except.map]

theorem ofRequest_remove (htarget : r.target = sessionTarget id) (hmethod : r.method = .delete) :
    Call.ofRequest r = .ok (.remove id) := by
  simp only [Call.ofRequest, htarget, sessionTarget, Route.ofTarget?_session, hmethod, readId_toString,
    Except.map]

theorem ofRequest_submit (htarget : r.target = sessionTarget id ++ "/commands")
    (hmethod : r.method = .post) {line : String} (hline : readLine r = .ok line) :
    Call.ofRequest r = .ok (.submit id line) := by
  simp only [Call.ofRequest, htarget, sessionTarget, Route.ofTarget?_commands, hmethod, readId_toString,
    hline, Except.bind, Except.map]

theorem ofRequest_reset (htarget : r.target = sessionTarget id ++ "/reset")
    (hmethod : r.method = .post) : Call.ofRequest r = .ok (.reset id) := by
  simp only [Call.ofRequest, htarget, sessionTarget, Route.ofTarget?_reset, hmethod, readId_toString,
    Except.map]

end Spelled

/-! ## Calls as they are asked for -/

/-- The request that a client sends for a call. -/
def Call.request : Call → Request
  | .health => { method := .get, target := "/health" }
  | .create none => { method := .post, target := "/api/sessions" }
  | .create (some quest) => {
      method := .post
      target := "/api/sessions"
      contentType := some "application/json"
      body := JsonRecord.spell "quest_id" quest }
  | .inspect id => { method := .get, target := sessionTarget id }
  | .remove id => { method := .delete, target := sessionTarget id }
  | .submit id line => {
      method := .post
      target := sessionTarget id ++ "/commands"
      contentType := some "application/json"
      body := JsonRecord.spell "line" line }
  | .reset id => { method := .post, target := sessionTarget id ++ "/reset" }

/-- Every call is made by a request: for any quest, in any session, and with any line. -/
theorem ofRequest_request (c : Call) : Call.ofRequest c.request = .ok c := by
  cases c with
  | health =>
    have hroute : Route.ofTarget? "/health" = some .health := by decide +kernel
    simp only [Call.ofRequest, Call.request, hroute]
  | create quest =>
    cases quest with
    | none => exact ofRequest_create rfl rfl rfl
    | some quest => exact ofRequest_create rfl rfl (readQuest_spell rfl rfl)
  | inspect id => exact ofRequest_inspect rfl (Or.inl rfl)
  | remove id => exact ofRequest_remove rfl rfl
  | submit id line => exact ofRequest_submit rfl rfl (readLine_spell rfl rfl)
  | reset id => exact ofRequest_reset rfl rfl

theorem addresses_request (c : Call) (id : Uuid) : Addresses c.request id ↔ c.session? = some id :=
  addresses_iff (ofRequest_request c) id

end MissionShell.Service
