import MissionShell.Net.Ipv6

/-!
# Socket addresses

An address with a port: `a.b.c.d:port`, or `[groups]:port`, where `%` and the number of a scope may
follow the groups.

* `SocketAddress.parse?`, `SocketAddress.toString` : reading and writing;
* `SocketAddress.host` : the address without port and scope.
-/

namespace MissionShell

inductive SocketAddress where
  | v4 (ip : Ipv4) (port : UInt16)
  | v6 (ip : Ipv6) (scope : UInt32) (port : UInt16)

namespace SocketAddress

def port : SocketAddress → UInt16
  | v4 _ port => port
  | v6 _ _ port => port

def host : SocketAddress → String
  | v4 ip _ => ip.toString
  | v6 ip _ _ => ip.toString

/-- A port: digits, leading zeros allowed, of a number below `2 ^ 16`. -/
def port? (cs : List Char) : Option UInt16 :=
  ((Text.number? 10 cs).filter (· < UInt16.size)).map UInt16.ofNat

def scope? (cs : List Char) : Option UInt32 :=
  ((Text.number? 10 cs).filter (· < UInt32.size)).map UInt32.ofNat

/-- Reads what stands between the brackets: groups and perhaps a scope, which is zero otherwise. -/
def scoped? (cs : List Char) : Option (Ipv6 × UInt32) := do
  let ip ← Ipv6.parse? (cs.takeWhile (· ≠ '%'))
  match cs.dropWhile (· ≠ '%') with
  | [] => some (ip, 0)
  | _ :: scope => some (ip, ← scope? scope)

def parse? (text : String) : Option SocketAddress :=
  match text.toList with
  | '[' :: cs => do
    match cs.dropWhile (· ≠ ']') with
    | _ :: ':' :: port =>
      let (ip, scope) ← scoped? (cs.takeWhile (· ≠ ']'))
      some (v6 ip scope (← port? port))
    | _ => none
  | cs => do
    match cs.dropWhile (· ≠ ':') with
    | _ :: port => some (v4 (← Ipv4.parse? (cs.takeWhile (· ≠ ':'))) (← port? port))
    | [] => none

protected def toString : SocketAddress → String
  | v4 ip port => ip.toString ++ ":" ++ toString port.toNat
  | v6 ip scope port =>
    "[" ++ ip.toString ++ (if scope = 0 then "" else "%" ++ toString scope.toNat) ++ "]:" ++
      toString port.toNat

end SocketAddress

end MissionShell
