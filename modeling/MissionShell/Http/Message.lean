import MissionShell.Json.Value

/-!
# Requests and responses

* `Method`, `Request` : what a client asks;
* `Body`, `Response` : what it is answered.
-/

namespace MissionShell

inductive Method where
  | get
  | head
  | post
  | delete
  | other
deriving DecidableEq

def Method.ofName (name : String) : Method :=
  match name with
  | "GET" => get
  | "HEAD" => head
  | "POST" => post
  | "DELETE" => delete
  | _ => other

/-- `target` is the path with the query behind it. -/
structure Request where
  method : Method
  target : String
  contentType : Option String := none
  body : String := ""

inductive Body where
  | none
  | text (s : String)
  | json (j : Json)

structure Response where
  status : Nat
  body : Body := .none

namespace Response

def ofStatus (status : Nat) : Response := { status := status }

def json (status : Nat) (j : Json) : Response := ⟨status, .json j⟩

def withoutBody (r : Response) : Response := { r with body := .none }

end Response

end MissionShell
