import MissionShell.Text.CaseTable

/-!
# Lower case

* `lowerChar c` : the small letters of one character, whatever stands around it;
* `lowercase text` : the lower-casing of a text. Capital sigma is the one character whose small
  letter depends on its neighbours: it is `ς` at the end of a word and `σ` elsewhere.
-/

namespace MissionShell.Text

/-- The small letters of `c`; any character that is not a capital stands for itself. -/
def lowerChar (c : Char) : List Char :=
  if c.toNat < 0x80 then [c.toLower]
  else if c = 'İ' then ['i', '\u0307']
  else match capitals.find? (·.covers c.toNat) with
    | some run => [Char.ofNat (run.lower c.toNat)]
    | none => [c]

def isCased (c : Char) : Bool := inRanges casedRanges c

def isCaseIgnorable (c : Char) : Bool := inRanges caseIgnorableRanges c

/-- Whether the first character of `cs` that is not case-ignorable is a cased one. -/
def meetsCased (cs : List Char) : Bool :=
  ((cs.dropWhile isCaseIgnorable).head?.map isCased).getD false

/-- Lower-cases `cs`, which follows the characters `before` (nearest first). -/
def lowerFrom (before : List Char) : List Char → List Char
  | [] => []
  | c :: cs =>
    (if c = 'Σ' then (if meetsCased before && !meetsCased cs then ['ς'] else ['σ'])
      else lowerChar c) ++ lowerFrom (c :: before) cs

def lowercase (text : String) : String := String.ofList (lowerFrom [] text.toList)

end MissionShell.Text
