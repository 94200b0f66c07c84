import MissionShell.Filesystem.Basic
import MissionShell.Text.Case
import MissionShell.Text.Quoted

/-!
# Quest steps

A step asks for one line. It is answered either by one of the commands it lists or, if it has a
check of its own, by whatever that check accepts.

* `Validation` : the verdict on a line; `Validation.advances` says whether it completes the step;
* `Validator` : how a step judges a line;
* `Step` : a step and its texts; `Step.validate` is its verdict on a line.
-/

namespace MissionShell

/-! ## Verdicts -/

/-- The verdict on a line. A verdict without an opinion on advancing stays on the step. -/
structure Validation where
  valid : Bool := false
  message : Option String := none
  advance : Option Bool := none
deriving DecidableEq

namespace Validation

def ofValid (valid : Bool) (message : String) : Validation := ⟨valid, some message, some valid⟩

def inert (message : String) : Validation := ⟨false, some message, none⟩

def withAdvance (v : Validation) (advance : Bool) : Validation := { v with advance := some advance }

def advances (v : Validation) : Bool := v.valid && v.advance.getD false

@[simp] theorem advances_ofValid (valid : Bool) (message : String) :
    (ofValid valid message).advances = valid := by
  cases valid <;> rfl

@[simp] theorem advances_inert (message : String) : (inert message).advances = false := rfl

end Validation

/-! ## Steps -/

abbrev Check := String → Filesystem → Validation

inductive Validator where
  | exactMatch (commands : List String)
  | custom (check : Check)

namespace Validator

def describe : Validator → String
  | exactMatch commands =>
    "ExactMatch([" ++ ", ".intercalate (commands.map Text.quote) ++ "])"
  | custom _ => "Custom(..)"

end Validator

structure Step where
  number : Nat
  title : String
  description : String := ""
  expected : List String := []
  alternatives : List String := []
  completed : Bool := false
  successMessage : String := ""
  errorMessage : Option String := none
  check : Option Check := none

namespace Step

def id (s : Step) : String := "step-" ++ toString s.number

/-- The commands that a step without a check of its own accepts. -/
def commands (s : Step) : List String := s.expected ++ s.alternatives

def validator (s : Step) : Validator :=
  match s.check with
  | some check => .custom check
  | none => .exactMatch s.commands

/-- Whether the line is one of the commands, up to blanks around it and the case of letters. -/
def accepts (s : Step) (line : String) : Bool :=
  s.commands.any fun c => Text.lowercase c = Text.lowercase (Text.trim line)

def matchCommands (s : Step) (line : String) : Validation :=
  let valid := s.accepts line
  ⟨valid, if valid then some s.successMessage else s.errorMessage, some valid⟩

def validate (s : Step) (line : String) (fs : Filesystem) : Validation :=
  match s.check with
  | some check => check line fs
  | none => s.matchCommands line

def describe (s : Step) : String :=
  "QuestStep \x7b id: " ++ Text.quote s.id ++ ", title: " ++ Text.quote s.title ++
    ", completed: " ++ toString s.completed ++ ", validator: " ++ s.validator.describe ++ " \x7d"

end Step

end MissionShell
