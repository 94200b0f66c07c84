import MissionShell.Net.SocketAddress
import MissionShell.Text.Blank

/-!
# Server configuration

* `Config` : where the server listens, and after how many idle seconds a session is dropped;
* `ConfigError` : a setting that cannot be read, with its text;
* `Config.load` : reads the settings, of which each has a default.
-/

namespace MissionShell

structure Config where
  address : SocketAddress
  sessionIdle : Nat

/-- A setting that cannot be read, with the text found there. -/
inductive ConfigError where
  | invalidAddress (value : String)
  | invalidSeconds (value : String)
deriving DecidableEq

namespace Config

def addressVariable : String := "HACKBOX_SITE_ADDR"

def idleVariable : String := "HACKBOX_SESSION_IDLE_SECS"

def defaultAddress : String := "0.0.0.0:3000"

def defaultIdle : Nat := 1800

end Config

namespace ConfigError

def message : ConfigError → String
  | invalidAddress value =>
    "invalid " ++ Config.addressVariable ++ " value '" ++ value ++
      "': invalid socket address syntax"
  | invalidSeconds value =>
    "invalid " ++ Config.idleVariable ++ " value '" ++ value ++
      "': expected a positive number of seconds"

end ConfigError

namespace Config

/-- Reads a number of seconds: digits, perhaps behind a plus sign, of a number from 1 up to
`2 ^ 64 - 1`. -/
def seconds? (cs : List Char) : Option Nat :=
  let digits := match cs with
    | '+' :: digits => digits
    | digits => digits
  (Text.number? 10 digits).filter fun n => 0 < n && n < UInt64.size

def readAddress (value : Option String) : Except ConfigError SocketAddress :=
  let text := value.getD defaultAddress
  match SocketAddress.parse? (Text.trim text) with
  | some address => .ok address
  | none => .error (.invalidAddress text)

def readIdle : Option String → Except ConfigError Nat
  | none => .ok defaultIdle
  | some text =>
    match seconds? (Text.trim text).toList with
    | some n => .ok n
    | none => .error (.invalidSeconds text)

/-- The configuration of the settings that `lookup` finds. The address is read first. -/
def load (lookup : String → Option String) : Except ConfigError Config := do
  let address ← readAddress (lookup addressVariable)
  let sessionIdle ← readIdle (lookup idleVariable)
  .ok ⟨address, sessionIdle⟩

end Config

end MissionShell
