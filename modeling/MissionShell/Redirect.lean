import MissionShell.Text.Blank

/-!
# Output redirection

* `stripQuotes` : a text without one quote at either end;
* `Redirect.parse?` : reads `content > target`. The first `>` is the sign, unless nothing follows
  it; what comes after it is the target, further signs included.
-/

namespace MissionShell

def isQuote (c : Char) : Bool := c = '"' || c = '\''

def dropQuote : List Char → List Char
  | [] => []
  | c :: cs => if isQuote c then cs else c :: cs

/-- `cs` without a quote at its start and a quote at its end. The two need not match, and a text
that is a single quote loses just that one. -/
def stripQuotes (cs : List Char) : List Char := (dropQuote (dropQuote cs).reverse).reverse

structure Redirect where
  content : String
  target : String
deriving DecidableEq

namespace Redirect

def isSign (c : Char) : Bool := c = '>'

/-- Reads a redirection. Blanks around the sign belong to neither side. -/
def parse? (text : String) : Option Redirect :=
  let before := text.toList.takeWhile (!isSign ·)
  match text.toList.dropWhile (!isSign ·) with
  | _ :: next :: rest =>
    some ⟨String.ofList (stripQuotes (Text.trimEnd before)),
      Text.trim (String.ofList (next :: rest))⟩
  | _ => none

end Redirect

end MissionShell
