import MissionShell.Text.Digits

/-!
# Routes

* `Route.ofTarget?` : the route that the target of a request leads to;
* `percentDecode` : a path segment with its escapes resolved.
-/

namespace MissionShell

/-- The places that requests go to; `id` is the segment that stands for a session's identifier. -/
inductive Route where
  | health
  | sessions
  | session (id : List Char)
  | commands (id : List Char)
  | reset (id : List Char)
deriving DecidableEq

namespace Route

def endsPath (c : Char) : Bool := c = '?' || c = '#'

/-- What follows the scheme and the host of a target, if it names them. -/
def dropHost : List Char → List Char
  | '/' :: cs => '/' :: cs
  | cs =>
    match cs.dropWhile (· ≠ ':') with
    | ':' :: '/' :: '/' :: rest => rest.dropWhile fun c => c ≠ '/' && !endsPath c
    | _ => cs

def path (target : String) : List Char := (dropHost target.toList).takeWhile (!endsPath ·)

/-- The route of a target. Segments are compared as they are spelled, and an identifier at the end
of the path may not be empty. -/
def ofTarget? (target : String) : Option Route :=
  match ((path target).splitOn '/').map String.ofList with
  | ["", "health"] => some health
  | ["", "api", "sessions"] => some sessions
  | ["", "api", "sessions", id] => if id = "" then none else some (session id.toList)
  | ["", "api", "sessions", id, "commands"] => some (commands id.toList)
  | ["", "api", "sessions", id, "reset"] => some (reset id.toList)
  | _ => none

/-- Resolves the escapes of a segment, a percent sign and two digits each. The bytes they stand for
are taken as characters, which is right for a segment of ASCII characters alone. -/
def percentDecode : List Char → List Char
  | '%' :: a :: b :: cs =>
    match Text.number? 16 [a, b] with
    | some n => Char.ofNat n :: percentDecode cs
    | none => '%' :: percentDecode (a :: b :: cs)
  | c :: cs => c :: percentDecode cs
  | [] => []

end Route

end MissionShell
