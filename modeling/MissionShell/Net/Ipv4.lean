import MissionShell.Text.Digits

/-!
# Addresses of four octets

* `Ipv4` : the address;
* `Ipv4.toString` : its octets in base ten with dots between them;
* `Ipv4.parse?` : reads that form, and no other.
-/

namespace MissionShell

structure Ipv4 where
  a : UInt8
  b : UInt8
  c : UInt8
  d : UInt8
deriving DecidableEq

namespace Ipv4

protected def toString (ip : Ipv4) : String :=
  ".".intercalate ([ip.a, ip.b, ip.c, ip.d].map fun o => toString o.toNat)

/-- An octet: up to three digits, below 256 and without a leading zero. -/
def octet? (cs : List Char) : Option UInt8 :=
  if 3 < cs.length || (1 < cs.length && cs.head? = some '0') then none
  else ((Text.number? 10 cs).filter (· < 256)).map UInt8.ofNat

def parse? (cs : List Char) : Option Ipv4 :=
  match cs.splitOn '.' with
  | [a, b, c, d] => do some ⟨← octet? a, ← octet? b, ← octet? c, ← octet? d⟩
  | _ => none

def groups (ip : Ipv4) : List UInt16 :=
  [ip.a.toUInt16 * 256 + ip.b.toUInt16, ip.c.toUInt16 * 256 + ip.d.toUInt16]

def ofGroups (high low : UInt16) : Ipv4 :=
  ⟨(high / 256).toUInt8, high.toUInt8, (low / 256).toUInt8, low.toUInt8⟩

end Ipv4

end MissionShell
