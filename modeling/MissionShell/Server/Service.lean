import MissionShell.Http.MediaType
import MissionShell.Http.Message
import MissionShell.Http.Route
import MissionShell.Json.Record
import MissionShell.Server.Store
import MissionShell.Server.View

/-!
# The service

Requests to the session store. A request is looked at in a fixed order: its route and method, the
identifier in its path, its body, and last the session it is for. The first fault is answered.

* `Service.readQuest`, `Service.readLine` : the two kinds of bodies;
* `Service.handle` : the answer to a request, with the store that it leaves.
-/

namespace MissionShell.Service

/-! ## Bodies -/

def faultStatus : ReadError → Nat
  | .malformed => 400
  | .mismatched => 422

def wrongTypeStatus : Nat := 415

def isJsonType (contentType : String) : Bool := (MediaType.parse? contentType).any MediaType.isJson

/-- The quest that a body asks for. A request without a content type has no body. -/
def readQuest (r : Request) : Except Nat (Option String) :=
  match r.contentType with
  | none => .ok none
  | some type =>
    if isJsonType type then
      (JsonRecord.readBody "quest_id" JsonToken.text? (some none) r.body).mapError faultStatus
    else .error wrongTypeStatus

def readLine (r : Request) : Except Nat String :=
  if r.contentType.any isJsonType then
    (JsonRecord.readBody "line" JsonToken.text none r.body).mapError faultStatus
  else .error wrongTypeStatus

/-! ## Answers -/

def failure (e : QuestError) : Response := .json 404 e.toJson

def readId (segment : List Char) : Except Nat Uuid :=
  match Uuid.parse? (Route.percentDecode segment) with
  | some id => .ok id
  | none => .error 400

/-- Uses the session `id` and answers with the status 200 and what `f` shows. -/
def useSession (s : Store) (now : Nat) (id : Uuid) (f : Engine → Json × Engine) :
    Response × Store :=
  match s.withSession now id f with
  | .ok (shown, s) => (.json 200 shown, s)
  | .error e => (failure e, s)

def createSession (s : Store) (now : Nat) (freshId : Uuid) (quest : Option String) :
    Response × Store :=
  match s.create now freshId quest with
  | .error e => (failure e, s)
  | .ok s =>
    match s.engine? freshId with
    | some engine => (.json 201 (engine.view freshId), s)
    | none => (failure (Store.notFound freshId), s)

def showSession (s : Store) (now : Nat) (id : Uuid) : Response × Store :=
  useSession s now id fun engine => (engine.view id, engine)

def submitLine (s : Store) (now : Nat) (id : Uuid) (line : String) : Response × Store :=
  useSession s now id fun engine =>
    let (submission, engine) := engine.submit line
    (engine.answer submission, engine)

def resetSession (s : Store) (now : Nat) (id : Uuid) : Response × Store :=
  useSession s now id fun engine => (engine.reset.view id, engine.reset)

def removeSession (s : Store) (id : Uuid) : Response × Store :=
  match s.remove id with
  | .ok s => (.ofStatus 204, s)
  | .error e => (failure e, s)

/-! ## Requests -/

inductive Call where
  | health
  | create (quest : Option String)
  | inspect (id : Uuid)
  | remove (id : Uuid)
  | submit (id : Uuid) (line : String)
  | reset (id : Uuid)
deriving DecidableEq

/-- The call that a request makes, or the status that it is refused with. A `HEAD` request makes the
call of a `GET` request. -/
def Call.ofRequest (r : Request) : Except Nat Call :=
  match Route.ofTarget? r.target with
  | none => .error 404
  | some route =>
    match route, r.method with
    | .health, .get => .ok health
    | .health, .head => .ok health
    | .sessions, .post => (readQuest r).map create
    | .session segment, .get => (readId segment).map inspect
    | .session segment, .head => (readId segment).map inspect
    | .session segment, .delete => (readId segment).map remove
    | .commands segment, .post =>
      (readId segment).bind fun id => (readLine r).map (submit id)
    | .reset segment, .post => (readId segment).map reset
    | _, _ => .error 405

/-- Carries out a call at the time `now`. A session that it creates is called `freshId`. -/
def perform (s : Store) (now : Nat) (freshId : Uuid) : Call → Response × Store
  | .health => (⟨200, .text "ok"⟩, s)
  | .create quest => createSession s now freshId quest
  | .inspect id => showSession s now id
  | .remove id => removeSession s id
  | .submit id line => submitLine s now id line
  | .reset id => resetSession s now id

/-- Answers a request at the time `now`. The answer to a `HEAD` request has no body. -/
def handle (s : Store) (now : Nat) (freshId : Uuid) (r : Request) : Response × Store :=
  let (response, s) := match Call.ofRequest r with
    | .ok call => perform s now freshId call
    | .error status => (.ofStatus status, s)
  (if r.method = .head then response.withoutBody else response, s)

end MissionShell.Service
