import MissionShell.Json.Token

/-!
# Records of one field

A record with one known field is written as an object that has a member of that name, or as an
array that holds the value alone. Reading goes through the tokens once and ends at the first fault:
either the text is no JSON, or it is JSON of the wrong kind.

* `ReadError` : the two faults;
* `JsonToken.text`, `JsonToken.text?` : the kinds of values that a field may have;
* `skipValue` : passes over the value of an unknown member;
* `readRecord`, `readBody` : a record at the front of the tokens, and a text that is a record.
-/

namespace MissionShell

inductive ReadError where
  | malformed
  | mismatched
deriving DecidableEq

namespace JsonToken

/-- The fault of a token that stands where a value of another kind is wanted. A token that starts no
value, and a value that cannot be represented, make the text malformed. -/
def fault : JsonToken → ReadError
  | opening _ => .mismatched
  | null => .mismatched
  | boolean _ => .mismatched
  | number true => .mismatched
  | string (some _) => .mismatched
  | _ => .malformed

def text : JsonToken → Except ReadError String
  | string (some s) => .ok s
  | t => .error t.fault

def text? : JsonToken → Except ReadError (Option String)
  | null => .ok none
  | t => t.text.map some

def isScalar : JsonToken → Bool
  | null => true
  | boolean _ => true
  | number _ => true
  | string _ => true
  | _ => false

end JsonToken

namespace JsonRecord
open JsonToken

/-! ## Passing over values -/

mutual

/-- Passes over a value that is not looked at and closes the brackets `stack` around it, innermost
first. Strings need not be joinable here, nor need numbers fit. -/
def skipValue (stack : List Bracket) : List JsonToken → Option (List JsonToken)
  | opening .square :: closing .square :: ts => skipRest stack ts
  | opening .curly :: closing .curly :: ts => skipRest stack ts
  | opening .square :: ts => skipValue (.square :: stack) ts
  | opening .curly :: string _ :: colon :: ts => skipValue (.curly :: stack) ts
  | t :: ts => if t.isScalar then skipRest stack ts else none
  | [] => none

def skipRest : List Bracket → List JsonToken → Option (List JsonToken)
  | [], ts => some ts
  | b :: stack, closing c :: ts => if b = c then skipRest stack ts else none
  | .square :: stack, comma :: ts => skipValue (.square :: stack) ts
  | .curly :: stack, comma :: string _ :: colon :: ts => skipValue (.curly :: stack) ts
  | _, _ => none

end

mutual

theorem length_of_skipValue {stack : List Bracket} {ts rest : List JsonToken}
    (h : skipValue stack ts = some rest) : rest.length < ts.length := by
  unfold skipValue at h
  split at h
  · have := length_of_skipRest h; simp only [List.length_cons]; omega
  · have := length_of_skipRest h; simp only [List.length_cons]; omega
  · have := length_of_skipValue h; simp only [List.length_cons]; omega
  · have := length_of_skipValue h; simp only [List.length_cons]; omega
  · split at h
    · have := length_of_skipRest h; simp only [List.length_cons]; omega
    · simp at h
  · simp at h

theorem length_of_skipRest {stack : List Bracket} {ts rest : List JsonToken}
    (h : skipRest stack ts = some rest) : rest.length ≤ ts.length := by
  unfold skipRest at h
  split at h
  · simp_all
  · split at h
    · have := length_of_skipRest h; simp only [List.length_cons]; omega
    · simp at h
  · have := length_of_skipValue h; simp only [List.length_cons]; omega
  · have := length_of_skipValue h; simp only [List.length_cons]; omega
  · simp at h

end

/-! ## Reading a record -/

variable {α : Type}

/-- Reads the value of a member whose name has been read. The first part of the answer is the value
found so far. -/
def readMember (field : String) (value : JsonToken → Except ReadError α) (found : Option α)
    (name : String) (ts : List JsonToken) :
    Except ReadError (Option α × { rest : List JsonToken // rest.length ≤ ts.length }) :=
  if name = field then
    if found.isSome then .error .mismatched
    else match ts with
      | colon :: t :: ts =>
        (value t).map fun v => (some v, ⟨ts, by simp only [List.length_cons]; omega⟩)
      | _ => .error .malformed
  else match ts with
    | colon :: ts =>
      match h : skipValue [] ts with
      | some rest =>
        .ok (found, ⟨rest, by
          have := length_of_skipValue h
          simp only [List.length_cons]
          omega⟩)
      | none => .error .malformed
    | _ => .error .malformed

/-- Reads members up to the end of the object. The known field may stand there once. -/
def readMembers (field : String) (value : JsonToken → Except ReadError α) (found : Option α) :
    List JsonToken → Except ReadError (Option α × List JsonToken)
  | string (some name) :: ts =>
    match readMember field value found name ts with
    | .error e => .error e
    | .ok (found, ⟨rest, _⟩) =>
      match rest with
      | closing .curly :: rest => .ok (found, rest)
      | comma :: rest => readMembers field value found rest
      | _ => .error .malformed
  | _ => .error .malformed
termination_by ts => ts.length
decreasing_by
  next h => simp only [List.length_cons] at h ⊢; omega

def readRecord (field : String) (value : JsonToken → Except ReadError α) :
    List JsonToken → Except ReadError (Option α × List JsonToken)
  | opening .curly :: closing .curly :: ts => .ok (none, ts)
  | opening .curly :: ts => readMembers field value none ts
  | opening .square :: closing .square :: ts => .ok (none, ts)
  | opening .square :: t :: ts =>
    match value t, ts with
    | .error e, _ => .error e
    | .ok v, closing .square :: ts => .ok (some v, ts)
    | .ok _, _ => .error .malformed
  | opening .square :: [] => .error .malformed
  | t :: _ => .error t.fault
  | [] => .error .malformed

/-- Reads a text that is a record and nothing else. Without the field the answer is `absent`, if
that is given. -/
def readBody (field : String) (value : JsonToken → Except ReadError α) (absent : Option α)
    (text : String) : Except ReadError α :=
  match readRecord field value (lex text.toList) with
  | .error e => .error e
  | .ok (found, rest) =>
    match found <|> absent with
    | none => .error .mismatched
    | some v => if rest.isEmpty then .ok v else .error .malformed

end JsonRecord

end MissionShell
