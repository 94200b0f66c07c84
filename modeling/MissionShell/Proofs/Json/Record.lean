import MissionShell.Json.Record
import MissionShell.Proofs.Text.Digits

/-!
# Records that are read

A record with one member is read back whatever its text is, if the text is written as a literal: quotes,
backslashes and control characters are escaped, and all other characters stand for themselves.

* `JsonToken.spell` : a text as a literal;
* `JsonToken.lex_spell` : the literal is one token;
* `JsonRecord.spell`, `JsonRecord.readBody_spell` : a record of one member, and what is read from it.
-/

namespace MissionShell

namespace JsonToken

/-! ## Literals -/

def spellChar (c : Char) : List Char :=
  if c = '"' || c = '\\' then ['\\', c]
  else if c.toNat < 0x20 then '\\' :: 'u' :: Text.hexFixed 4 c.toNat
  else [c]

def spell (text : String) : List Char := '"' :: (text.toList.flatMap spellChar ++ ['"'])

/-- What a character is written as is read as a piece that stands for it. -/
theorem readPieces?_spellChar (c : Char) {cs rest : List Char} {ps : List StringPiece}
    (h : readPieces? cs = some (ps, rest)) :
    ∃ piece, readPieces? (spellChar c ++ cs) = some (piece :: ps, rest) ∧
      joinPieces? (piece :: ps) = (joinPieces? ps).map (c :: ·) := by
  unfold spellChar
  split
  · next hquote =>
    refine ⟨.char c, ?_, rfl⟩
    rw [Bool.or_eq_true, decide_eq_true_eq, decide_eq_true_eq] at hquote
    rcases hquote with rfl | rfl <;> simp [readPieces?, escape?, h]
  · split
    · next hcontrol =>
      have hdigits : Text.hexFixed 4 c.toNat = [Text.hexDigit (c.toNat / 16 / 16 / 16 % 16),
          Text.hexDigit (c.toNat / 16 / 16 % 16), Text.hexDigit (c.toNat / 16 % 16),
          Text.hexDigit (c.toNat % 16)] := rfl
      have hvalue : Text.number? 16 (Text.hexFixed 4 c.toNat) = some c.toNat := by
        rw [Text.number?_hexFixed (by decide), Nat.mod_eq_of_lt (by omega)]
      rw [hdigits] at hvalue ⊢
      refine ⟨.unit c.toNat, ?_, ?_⟩
      · simp only [List.cons_append, List.nil_append, readPieces?, hvalue, h]
      · have hsmall : c.toNat < 0xD800 := by omega
        rw [joinPieces?.eq_def]
        simp [hsmall]
    · next hplain hcontrol =>
      refine ⟨.char c, ?_, rfl⟩
      rw [List.singleton_append, readPieces?]
      all_goals simp_all

theorem readPieces?_spell (text rest : List Char) :
    ∃ ps, readPieces? (text.flatMap spellChar ++ '"' :: rest) = some (ps, rest) ∧
      joinPieces? ps = some text := by
  induction text with
  | nil => exact ⟨[], by simp [readPieces?], rfl⟩
  | cons c text ih =>
    obtain ⟨ps, hread, hjoin⟩ := ih
    obtain ⟨piece, hpiece, hjoined⟩ := readPieces?_spellChar c hread
    refine ⟨piece :: ps, ?_, ?_⟩
    · rw [List.flatMap_cons, List.append_assoc, hpiece]
    · rw [hjoined, hjoin, Option.map_some]

/-! ## Tokens -/

theorem lex_punctuation {c : Char} {t : JsonToken} (hspace : isSpace c = false)
    (h : punctuation? c = some t) (cs : List Char) : lex (c :: cs) = t :: lex cs := by
  rw [lex, if_neg (by simp [hspace]), h]

theorem lex_scalar {c : Char} {cs rest : List Char} {t : JsonToken} (hspace : isSpace c = false)
    (hpunctuation : punctuation? c = none) (h : scalar? (c :: cs) = some (t, rest)) :
    lex (c :: cs) = t :: lex rest := by
  rw [lex, if_neg (by simp [hspace]), hpunctuation]
  dsimp only
  split
  · next heq =>
    rw [h] at heq
    cases heq
    rfl
  · next heq =>
    rw [h] at heq
    cases heq

theorem lex_spell (text : String) (rest : List Char) :
    lex (spell text ++ rest) = string (some text) :: lex rest := by
  obtain ⟨ps, hread, hjoin⟩ := readPieces?_spell text.toList rest
  refine lex_scalar rfl rfl ?_
  simp [scalar?, hread, hjoin]

end JsonToken

namespace JsonRecord
open JsonToken

/-- The record whose one member `field` is `text`. -/
def spell (field text : String) : String :=
  String.ofList ('\x7b' :: (JsonToken.spell field ++ ':' :: (JsonToken.spell text ++ ['\x7d'])))

theorem lex_spell (field text : String) : lex (spell field text).toList =
    [opening .curly, string (some field), colon, string (some text), closing .curly] := by
  rw [spell, String.toList_ofList, lex_punctuation rfl rfl, JsonToken.lex_spell,
    lex_punctuation rfl rfl, JsonToken.lex_spell, lex_punctuation rfl rfl, lex]

theorem readBody_spell {α : Type} (field text : String) (value : JsonToken → Except ReadError α) {v : α}
    (h : value (string (some text)) = .ok v) (absent : Option α) :
    readBody field value absent (spell field text) = .ok v := by
  rw [readBody, lex_spell, readRecord, readMembers, readMember, if_pos rfl]
  · simp [h, Except.map]
  · intro ts hclosing
    cases hclosing

end JsonRecord

end MissionShell
