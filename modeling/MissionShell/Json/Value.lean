/-!
# JSON values

`Json` : what the server answers with. Its numbers are natural; the members of an object keep their
order.
-/

namespace MissionShell

inductive Json where
  | null
  | bool (b : Bool)
  | number (n : Nat)
  | string (s : String)
  | array (items : List Json)
  | object (members : List (String × Json))

namespace Json

def strings (items : List String) : Json := array (items.map string)

/-- The member `name` if there is a value for it, and no member otherwise. -/
def optional (name : String) (value : Option Json) : List (String × Json) :=
  (value.map fun v => (name, v)).toList

end Json

end MissionShell
