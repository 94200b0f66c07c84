import MissionShell.Json.Number

/-!
# JSON tokens

A text is taken apart into tokens before its structure is looked at. A place where no token starts
becomes the token `bad`, and the text is not read beyond it.

* `JsonToken`, `JsonToken.lex` : the tokens, and those of a text;
* `StringPiece` : the pieces of a string literal; escapes of four digits are units of sixteen bits,
  and `joinPieces?` puts pairs of them together.
-/

namespace MissionShell

inductive Bracket where
  | square
  | curly
deriving DecidableEq

/-- A number says whether it fits, and a string has no text if its units cannot be joined. -/
inductive JsonToken where
  | opening (b : Bracket)
  | closing (b : Bracket)
  | comma
  | colon
  | null
  | boolean (b : Bool)
  | number (fits : Bool)
  | string (text : Option String)
  | bad
deriving DecidableEq

/-- A character of a string literal, or a unit of sixteen bits that an escape gives. -/
inductive StringPiece where
  | char (c : Char)
  | unit (n : Nat)

namespace JsonToken

/-! ## Strings -/

def escape? (c : Char) : Option Char :=
  match c with
  | '"' => some '"'
  | '\\' => some '\\'
  | '/' => some '/'
  | 'b' => some '\x08'
  | 'f' => some '\x0c'
  | 'n' => some '\n'
  | 'r' => some '\r'
  | 't' => some '\t'
  | _ => none

/-- Reads the pieces of a string literal up to the closing quote. Control characters have to be
escaped. -/
def readPieces? : List Char → Option (List StringPiece × List Char)
  | [] => none
  | '"' :: rest => some ([], rest)
  | '\\' :: 'u' :: a :: b :: c :: d :: rest =>
    match Text.number? 16 [a, b, c, d], readPieces? rest with
    | some n, some (ps, rest) => some (.unit n :: ps, rest)
    | _, _ => none
  | '\\' :: c :: rest =>
    match escape? c, readPieces? rest with
    | some e, some (ps, rest) => some (.char e :: ps, rest)
    | _, _ => none
  | c :: rest =>
    if c.toNat < 0x20 then none
    else match readPieces? rest with
      | some (ps, rest) => some (.char c :: ps, rest)
      | none => none

/-- The characters of the pieces. A unit of the first half of the surrogates needs one of the second
half behind it, and no other unit may be a surrogate. -/
def joinPieces? : List StringPiece → Option (List Char)
  | [] => some []
  | .char c :: ps => (joinPieces? ps).map (c :: ·)
  | .unit n :: ps =>
    if n < 0xD800 || 0xDFFF < n then (joinPieces? ps).map (Char.ofNat n :: ·)
    else match ps with
      | .unit low :: ps =>
        if n < 0xDC00 && 0xDC00 ≤ low && low ≤ 0xDFFF then
          (joinPieces? ps).map
            (Char.ofNat (0x10000 + (n - 0xD800) * 0x400 + (low - 0xDC00)) :: ·)
        else none
      | _ => none

theorem length_of_readPieces? {cs rest : List Char} {ps : List StringPiece}
    (h : readPieces? cs = some (ps, rest)) : rest.length < cs.length := by
  fun_induction readPieces? cs generalizing ps rest with
  | case1 => simp at h
  | case2 r => simp_all
  | case3 a b c d r n ps' r' _ _ ih =>
    have := ih ‹_›
    simp only [Option.some.injEq, Prod.mk.injEq] at h
    simp only [← h.2, List.length_cons]
    omega
  | case4 => simp at h
  | case5 c r e ps' r' _ _ _ ih =>
    have := ih ‹_›
    simp only [Option.some.injEq, Prod.mk.injEq] at h
    simp only [← h.2, List.length_cons]
    omega
  | case6 => simp at h
  | case7 => simp at h
  | case8 c r _ _ _ _ ps' r' _ ih =>
    have := ih ‹_›
    simp only [Option.some.injEq, Prod.mk.injEq] at h
    simp only [← h.2, List.length_cons]
    omega
  | case9 => simp at h

/-! ## Tokens -/

def isSpace (c : Char) : Bool := c = ' ' || c = '\n' || c = '\t' || c = '\r'

def punctuation? (c : Char) : Option JsonToken :=
  match c with
  | '[' => some (opening .square)
  | ']' => some (closing .square)
  | '\x7b' => some (opening .curly)
  | '\x7d' => some (closing .curly)
  | ',' => some comma
  | ':' => some colon
  | _ => none

def scalar? : List Char → Option (JsonToken × List Char)
  | 'n' :: 'u' :: 'l' :: 'l' :: rest => some (null, rest)
  | 't' :: 'r' :: 'u' :: 'e' :: rest => some (boolean true, rest)
  | 'f' :: 'a' :: 'l' :: 's' :: 'e' :: rest => some (boolean false, rest)
  | '"' :: cs =>
    match readPieces? cs with
    | some (ps, rest) => some (string ((joinPieces? ps).map String.ofList), rest)
    | none => none
  | '-' :: cs =>
    match JsonNumber.read? cs with
    | some (x, rest) => some (number x.fits, rest)
    | none => none
  | cs =>
    match JsonNumber.read? cs with
    | some (x, rest) => some (number x.fits, rest)
    | none => none

theorem length_of_scalar? {cs rest : List Char} {t : JsonToken}
    (h : scalar? cs = some (t, rest)) : rest.length < cs.length := by
  unfold scalar? at h
  split at h
  · grind
  · grind
  · grind
  · split at h
    · next hp => have := length_of_readPieces? hp; grind
    · simp at h
  · split at h
    · next hx => have := JsonNumber.length_of_read? hx; grind
    · simp at h
  · split at h
    · next hx => have := JsonNumber.length_of_read? hx; grind
    · simp at h

def lex : List Char → List JsonToken
  | [] => []
  | c :: cs =>
    if isSpace c then lex cs
    else match punctuation? c with
      | some t => t :: lex cs
      | none =>
        match _h : scalar? (c :: cs) with
        | some (t, rest) => t :: lex rest
        | none => [bad]
termination_by cs => cs.length
decreasing_by
  · exact Nat.lt_succ_self _
  · exact Nat.lt_succ_self _
  · exact length_of_scalar? _h

end JsonToken

end MissionShell
