import MissionShell.Text.Digits

/-!
# Identifiers of 128 bits

* `Uuid`, `Uuid.toString` : the identifier and its form of five groups;
* `Uuid.parse?` : reads that form, bare, in braces or behind `urn:uuid:`, and the digits alone.
-/

namespace MissionShell

structure Uuid where
  bits : BitVec 128
deriving DecidableEq

namespace Uuid

def groupLengths : List Nat := [8, 4, 4, 4, 12]

def cut : List Nat → List Char → List (List Char)
  | [], _ => []
  | n :: ns, cs => cs.take n :: cut ns (cs.drop n)

def digits (id : Uuid) : List Char := Text.hexFixed 32 id.bits.toNat

protected def toString (id : Uuid) : String :=
  "-".intercalate ((cut groupLengths id.digits).map String.ofList)

def ofDigits? (cs : List Char) : Option Uuid :=
  if cs.length = 32 then (Text.number? 16 cs).map fun n => ⟨BitVec.ofNat 128 n⟩ else none

def ofGroups? (cs : List Char) : Option Uuid :=
  let groups := cs.splitOn '-'
  if groups.map List.length = groupLengths then ofDigits? groups.flatten else none

/-- What stands in braces or behind `urn:uuid:`, whose letters may be of either case, or `cs`
itself. -/
def unwrap (cs : List Char) : List Char :=
  if cs.head? = some '\x7b' && cs.getLast? = some '\x7d' then cs.tail.dropLast
  else if (cs.take 9).map Char.toLower = "urn:uuid:".toList then cs.drop 9
  else cs

def parse? (cs : List Char) : Option Uuid := ofDigits? cs <|> ofGroups? (unwrap cs)

end Uuid

end MissionShell
