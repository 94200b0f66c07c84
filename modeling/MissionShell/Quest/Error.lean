/-!
# Quest errors

`QuestError` : a quest or a session was asked for that does not exist.
-/

namespace MissionShell

inductive QuestError where
  | unknownQuest (id : String)
  | sessionNotFound (id : String)
deriving DecidableEq

namespace QuestError

def message : QuestError → String
  | unknownQuest id => "unknown quest: " ++ id
  | sessionNotFound id => "session not found: " ++ id

end QuestError

end MissionShell
