import MissionShell.Net.Ipv4

/-!
# Addresses of eight groups

* `Ipv6` : the address;
* `Ipv6.parse?` : reads groups with colons between them, of which one stretch of zeros may be left
  out and the last two may be written as an `Ipv4`;
* `Ipv6.toString` : the form in which the longest stretch of zeros is left out.
-/

namespace MissionShell

structure Ipv6 where
  groups : List UInt16
  length_groups : groups.length = 8

namespace Ipv6

/-! ## Reading -/

def group? (cs : List Char) : Option UInt16 :=
  if 4 < cs.length then none else (Text.number? 16 cs).map UInt16.ofNat

/-- Reads groups. If `embedding` is set the last item may be an `Ipv4`, which makes two groups. -/
def groups? (embedding : Bool) : List (List Char) → Option (List UInt16)
  | [] => some []
  | [last] =>
    match group? last with
    | some g => some [g]
    | none => if embedding then (Ipv4.parse? last).map Ipv4.groups else none
  | item :: items => do some ((← group? item) :: (← groups? embedding items))

def side? (embedding : Bool) (cs : List Char) : Option (List UInt16) :=
  if cs.isEmpty then some [] else groups? embedding (cs.splitOn ':')

def splitGap? : List Char → Option (List Char × List Char)
  | [] => none
  | ':' :: ':' :: after => some ([], after)
  | c :: cs => (splitGap? cs).map fun (before, after) => (c :: before, after)

def ofGroups? (groups : List UInt16) : Option Ipv6 :=
  if h : groups.length = 8 then some ⟨groups, h⟩ else none

/-- Reads an address. A double colon stands for as many zero groups as are missing, at least one. -/
def parse? (cs : List Char) : Option Ipv6 := do
  match splitGap? cs with
  | none => ofGroups? (← groups? true (cs.splitOn ':'))
  | some (before, after) =>
    let left ← side? false before
    let right ← side? true after
    let missing := 8 - (left.length + right.length)
    if missing = 0 then none else ofGroups? (left ++ List.replicate missing 0 ++ right)

/-! ## Writing -/

/-- How many zero groups stand at the place `i` and after it without a break. -/
def zerosAt (ip : Ipv6) (i : Nat) : Nat := ((ip.groups.drop i).takeWhile (· = 0)).length

/-- The place of the longest stretch of zero groups, the first of those that are equally long. -/
def longestZeros (ip : Ipv6) : Nat :=
  (List.range 8).foldl (fun best i => if ip.zerosAt best < ip.zerosAt i then i else best) 0

def groupsText (groups : List UInt16) : String :=
  ":".intercalate (groups.map fun g => String.ofList (Text.hexText g.toNat))

/-- Writes the address with a double colon in place of its longest stretch of two or more zero
groups. An address that embeds an `Ipv4` behind five zero groups and a group of ones shows it. -/
protected def toString (ip : Ipv6) : String :=
  match ip.groups with
  | [0, 0, 0, 0, 0, 0xFFFF, high, low] => "::ffff:" ++ (Ipv4.ofGroups high low).toString
  | groups =>
    let start := ip.longestZeros
    let count := ip.zerosAt start
    if count < 2 then groupsText groups
    else groupsText (groups.take start) ++ "::" ++ groupsText (groups.drop (start + count))

end Ipv6

end MissionShell
