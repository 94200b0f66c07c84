/-!
# Media types

* `MediaType.parse?` : reads a type such as `application/json; charset=utf-8`;
* `MediaType.isJson` : whether a body of that type is JSON.
-/

namespace MissionShell

/-- The name before the slash, and the name behind it up to a plus sign, with the suffix behind the
last plus sign. Letters are small. -/
structure MediaType where
  type : String
  subtype : String
  suffix : Option String
deriving DecidableEq

namespace MediaType

def isTokenChar (c : Char) : Bool :=
  c.isAlphanum || "!#$%&'*+-.^_\x60|~".toList.contains c

/-- Where the reading of parameters stands. `fresh` says that the part has no character yet. -/
inductive ParameterPart where
  | name (fresh : Bool)
  | value (fresh : Bool)
  | quoted (fresh : Bool)
  | closed
deriving DecidableEq

/-- Whether `cs` continues a list of parameters that has been read up to the part `part`.
A parameter is a name and a value, which may be quoted unless it is empty; semicolons stand between
parameters, and blanks before a name and behind a quoted value. -/
def validParameters (part : ParameterPart) : List Char → Bool
  | [] =>
    match part with
    | .name fresh => fresh
    | .value _ => true
    | .quoted _ => false
    | .closed => true
  | c :: cs =>
    match part with
    | .name fresh =>
      if fresh && c = ' ' then validParameters (.name true) cs
      else if !fresh && c = '=' then validParameters (.value true) cs
      else isTokenChar c && validParameters (.name false) cs
    | .value fresh =>
      if fresh && c = '"' then validParameters (.quoted true) cs
      else if !fresh && c = ';' then validParameters (.name true) cs
      else isTokenChar c && validParameters (.value false) cs
    | .quoted fresh =>
      if !fresh && c = '"' then validParameters .closed cs
      else 0x20 ≤ c.toNat && c.toNat < 0x7F && validParameters (.quoted false) cs
    | .closed =>
      if c = ';' then validParameters (.name true) cs
      else c = ' ' && validParameters .closed cs

/-- Cuts off the suffix behind the last plus sign that is not the first character. -/
def splitSuffix (cs : List Char) : List Char × Option (List Char) :=
  let back := cs.reverse
  let suffix := (back.takeWhile (· ≠ '+')).reverse
  let subtype := ((back.dropWhile (· ≠ '+')).drop 1).reverse
  if subtype.isEmpty then (cs, none) else (subtype, some suffix)

def lower (cs : List Char) : String := String.ofList (cs.map Char.toLower)

/-- Reads a media type. A semicolon has to follow the subtype at once if anything does; the
parameters behind it have to be well formed and are then left out. -/
def parse? (text : String) : Option MediaType :=
  let type := text.toList.takeWhile isTokenChar
  match text.toList.dropWhile isTokenChar with
  | '/' :: cs =>
    let subtype := cs.takeWhile isTokenChar
    let valid := match cs.dropWhile isTokenChar with
      | [] => true
      | c :: rest =>
        c = ';' && !subtype.isEmpty && validParameters (.name true) rest
    let (subtype, suffix) := splitSuffix subtype
    if type.isEmpty || !valid then none
    else some ⟨lower type, lower subtype, suffix.map lower⟩
  | _ => none

/-- Whether a body of this type is JSON: `application/json`, or a type whose suffix says so. -/
def isJson (m : MediaType) : Bool :=
  m.type = "application" && (m.subtype = "json" || m.suffix = some "json")

end MediaType

end MissionShell
