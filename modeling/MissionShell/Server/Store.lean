import MissionShell.Net.Uuid
import MissionShell.Quest.Engine

/-!
# The session store

The live sessions by their identifiers, each with an engine of its own and the time of its last
use. Times are points of a clock that the caller reads; new identifiers are the caller's too.

* `Store.create`, `Store.remove` : a new session, and the end of one;
* `Store.withSession` : the use of a session;
* `Store.sweep` : drops the sessions that have been idle for too long.
-/

namespace MissionShell

structure StoreEntry where
  id : Uuid
  engine : Engine
  lastActive : Nat

/-- The live sessions, oldest first. -/
structure Store where
  entries : List StoreEntry := []

namespace Store

def empty : Store := {}

def size (s : Store) : Nat := s.entries.length

def isEmpty (s : Store) : Bool := s.entries.isEmpty

def entry? (s : Store) (id : Uuid) : Option StoreEntry := s.entries.find? (·.id = id)

def engine? (s : Store) (id : Uuid) : Option Engine := (s.entry? id).map (·.engine)

def notFound (id : Uuid) : QuestError := .sessionNotFound id.toString

/-- Starts a mission in a new session called `id`, which no session may be called yet. -/
def create (s : Store) (now : Nat) (id : Uuid) (quest : Option String) : Except QuestError Store :=
  (Engine.start quest).map fun engine => ⟨s.entries ++ [⟨id, engine, now⟩]⟩

/-- Uses the session `id`: `f` answers and says what becomes of the engine. -/
def withSession {α : Type} (s : Store) (now : Nat) (id : Uuid) (f : Engine → α × Engine) :
    Except QuestError (α × Store) :=
  match s.entry? id with
  | none => .error (notFound id)
  | some e =>
    let (answer, engine) := f e.engine
    .ok (answer, ⟨s.entries.map fun x => if x.id = id then ⟨id, engine, now⟩ else x⟩)

def remove (s : Store) (id : Uuid) : Except QuestError Store :=
  if (s.entry? id).isSome then .ok ⟨s.entries.filter (·.id ≠ id)⟩ else .error (notFound id)

/-- Drops the sessions that have not been used for `maxIdle`. -/
def sweep (s : Store) (now maxIdle : Nat) : Store :=
  ⟨s.entries.filter fun e => now - e.lastActive < maxIdle⟩

def swept (s : Store) (now maxIdle : Nat) : Nat := s.size - (s.sweep now maxIdle).size

end Store

end MissionShell
