import MissionShell.Proofs.Filesystem.PointUpdate
import MissionShell.Proofs.Shell.Operation
import MissionShell.Proofs.Text.Spacing

/-!
# Writing to a file and reading it again

What is quoted and sent to a file stands in the file word for word: the line is cut into words and put
together again, the redirection is read off, one layer of quotes goes, and the file shows the rest.

* `Redirect.parse?_of_sign` : a redirection is read at the first sign;
* `stripQuotes_quoted` : one layer of quotes is dropped;
* `Shell.writing` : the line that writes some words to a file;
* `Shell.parse?_writing`, `Shell.execute_writing`, `Shell.execute_reading` : what such a line does, and
  what shows the file;
* `Shell.reading_after_writing` : the words come back from any snapshot.
-/

namespace MissionShell

/-! ## Redirections -/

theorem stripQuotes_quoted {q r : Char} (hq : isQuote q = true) (hr : isQuote r = true)
    (cs : List Char) : stripQuotes (q :: (cs ++ [r])) = cs := by
  have hfront : dropQuote (q :: (cs ++ [r])) = cs ++ [r] := if_pos hq
  have hback : dropQuote (r :: cs.reverse) = cs.reverse := if_pos hr
  rw [stripQuotes, hfront, List.reverse_append, List.reverse_singleton, List.singleton_append, hback,
    List.reverse_reverse]

namespace Redirect

section Sign
variable {before : List Char} (hbefore : '>' ∉ before) (after : List Char)
include hbefore

theorem not_isSign_of_mem : ∀ c ∈ before, (!isSign c) = true := fun c hc => by
  have hne : c ≠ '>' := fun h => hbefore (h ▸ hc)
  simp [isSign, hne]

theorem takeWhile_of_sign : (before ++ '>' :: after).takeWhile (!isSign ·) = before := by
  rw [List.takeWhile_append_of_pos (not_isSign_of_mem hbefore),
    List.takeWhile_cons_of_neg (by decide), List.append_nil]

theorem dropWhile_of_sign : (before ++ '>' :: after).dropWhile (!isSign ·) = '>' :: after := by
  rw [List.dropWhile_append_of_pos (not_isSign_of_mem hbefore),
    List.dropWhile_cons_of_neg (by decide)]

end Sign

/-- The first sign that something follows is the sign of the redirection. -/
theorem parse?_of_sign {before : List Char} (hbefore : '>' ∉ before) (next : Char)
    (rest : List Char) :
    parse? (String.ofList (before ++ '>' :: next :: rest)) =
      some ⟨String.ofList (stripQuotes (Text.trimEnd before)),
        Text.trim (String.ofList (next :: rest))⟩ := by
  simp only [parse?, String.toList_ofList, takeWhile_of_sign hbefore, dropWhile_of_sign hbefore]

end Redirect

theorem isBlank_of_isQuote {q : Char} (h : isQuote q = true) : Text.isBlank q = false := by
  simp only [isQuote, Bool.or_eq_true, decide_eq_true_eq] at h
  rcases h with rfl | rfl <;> decide

theorem ne_sign_of_isQuote {q : Char} (h : isQuote q = true) : q ≠ '>' := by
  rintro rfl
  cases h

namespace Shell

/-! ## The two lines -/

def quoted (q : Char) (ws : List String) : String :=
  String.singleton q ++ " ".intercalate ws ++ String.singleton q

def writing (q : Char) (ws : List String) (name : String) : String :=
  "echo " ++ quoted q ws ++ " > " ++ name

def reading (name : String) : String := "cat " ++ name

section Writing
variable {q : Char} (hq : isQuote q = true) {ws : List String} (hws : ∀ w ∈ ws, Text.IsWord w)
include hq

theorem isWord_quote : Text.IsWord (String.singleton q) := by
  refine ⟨by simp, fun c hc => ?_⟩
  rw [String.toList_singleton, List.mem_singleton] at hc
  rw [hc]
  exact isBlank_of_isQuote hq

include hws

/-- Quotes stand at the first and at the last word, or alone if there is none. -/
theorem exists_words_quoted :
    ∃ us, us ≠ [] ∧ (∀ u ∈ us, Text.IsWord u) ∧ " ".intercalate us = quoted q ws := by
  obtain ⟨vs, -, hvs, hopen⟩ := Text.exists_words_cons (isWord_quote hq) hws
  obtain ⟨us, hne, hus, hclose⟩ := Text.exists_words_concat (isWord_quote hq) hvs
  exact ⟨us, hne, hus, by rw [hclose, hopen, quoted]⟩

/-- The words of the line, and the text that they make behind the first. -/
theorem exists_words_writing {name : String} (hname : Text.IsWord name) :
    ∃ arguments, Text.words (writing q ws name) = "echo" :: arguments ∧
      " ".intercalate arguments = quoted q ws ++ " > " ++ name := by
  obtain ⟨us, hne, hus, hquoted⟩ := exists_words_quoted hq hws
  have htext : " ".intercalate (us ++ [">", name]) = quoted q ws ++ " > " ++ name := by
    rw [String.intercalate_append_of_ne_nil hne (List.cons_ne_nil _ _), hquoted,
      String.intercalate_cons_cons, String.intercalate_singleton]
    simp only [String.append_assoc]
    rfl
  have hline : writing q ws name = " ".intercalate ("echo" :: (us ++ [">", name])) := by
    rw [String.intercalate_cons_of_ne_nil (by simp), htext, writing]
    simp only [String.append_assoc]
    rfl
  refine ⟨us ++ [">", name], ?_, htext⟩
  rw [hline]
  refine Text.words_intercalate (List.forall_mem_cons.mpr ⟨by decide, fun w hw => ?_⟩)
  rcases List.mem_append.mp hw with hw | hw
  · exact hus w hw
  · rcases List.mem_pair.mp hw with rfl | rfl
    · decide
    · exact hname

end Writing

/-- The redirection of the line has the words between the quotes for its content. -/
theorem parse?_writing {q : Char} (hq : isQuote q = true) {ws : List String}
    (hsign : ∀ w ∈ ws, '>' ∉ w.toList) {name : String} (hname : Text.IsWord name) :
    Redirect.parse? (quoted q ws ++ " > " ++ name) = some ⟨" ".intercalate ws, name⟩ := by
  have hbefore : '>' ∉ q :: ((" ".intercalate ws).toList ++ [q]) ++ [' '] := by
    have hquote : '>' ≠ q := (ne_sign_of_isQuote hq).symm
    have hwords : '>' ∉ (" ".intercalate ws).toList := fun hmem => by
      obtain ⟨w, hw, hmem⟩ := Text.exists_mem_of_mem_intercalate (by decide) hmem
      exact hsign w hw hmem
    simp only [List.mem_append, List.mem_cons, List.not_mem_nil, or_false]
    rintro ((h | h | h) | h)
    · exact hquote h
    · exact hwords h
    · exact hquote h
    · cases h
  have htext : quoted q ws ++ " > " ++ name =
      String.ofList (q :: ((" ".intercalate ws).toList ++ [q]) ++ [' '] ++ '>' :: ' ' :: name.toList) := by
    rw [← String.toList_inj]
    simp [quoted]
  have hcontent : stripQuotes (Text.trimEnd (q :: ((" ".intercalate ws).toList ++ [q]) ++ [' '])) =
      (" ".intercalate ws).toList := by
    rw [Text.trimEnd_append_blank Text.isBlank_space, ← List.cons_append,
      Text.trimEnd_concat (isBlank_of_isQuote hq), List.cons_append, stripQuotes_quoted hq hq]
  have htarget : Text.trim (String.ofList (' ' :: name.toList)) = name := by
    rw [show String.ofList (' ' :: name.toList) = " " ++ name from by
      rw [← String.toList_inj]
      simp]
    exact Text.trim_space_word hname
  rw [htext, Redirect.parse?_of_sign hbefore, hcontent, htarget, String.ofList_toList]

/-- The line writes the words to the file. -/
theorem execute_writing (fs : Filesystem) {q : Char} (hq : isQuote q = true) {ws : List String}
    (hws : ∀ w ∈ ws, Text.IsWord w ∧ '>' ∉ w.toList) {name : String} (hname : Text.IsWord name) :
    execute fs (writing q ws name) =
      Outcome.silent.withFilesystem (fs.write name (" ".intercalate ws)) := by
  obtain ⟨arguments, hwords, htext⟩ := exists_words_writing hq (fun w hw => (hws w hw).1) hname
  have hparse := parse?_writing hq (fun w hw => (hws w hw).2) hname
  have hecho : echo fs arguments = .become (fs.write name (" ".intercalate ws)) := by
    simp only [echo, htext, hparse]
  have hcommand : Command.ofName "echo" = .echo := by decide
  rw [execute_of_words hwords]
  simp only [run, hcommand, hecho, Outcome.ofResult]

/-- The line shows what is in the file. -/
theorem execute_reading {fs : Filesystem} {name : String} (hname : Text.IsWord name) {f : File}
    (hf : fs.file? fs.cwd name = some f) :
    execute fs (reading name) = Outcome.silent.withOutput f.content := by
  have hwords : Text.words (reading name) = ["cat", name] := by
    have hline : reading name = " ".intercalate ["cat", name] := by
      rw [String.intercalate_cons_cons, String.intercalate_singleton, reading]
      rfl
    rw [hline]
    refine Text.words_intercalate fun w hw => ?_
    rcases List.mem_pair.mp hw with rfl | rfl
    · decide
    · exact hname
  have hcommand : Command.ofName "cat" = .cat := by decide
  rw [execute_of_words hwords]
  simp only [run, hcommand, showFile, hf, Outcome.ofResult]

/-- **What is written is read again**, word for word and whatever was in the file before, in every
snapshot that operations can make and under every name that is one word. -/
theorem reading_after_writing {fs : Filesystem} (h : fs.Reachable) {q : Char} (hq : isQuote q = true)
    {ws : List String} (hws : ∀ w ∈ ws, Text.IsWord w ∧ '>' ∉ w.toList) {name : String}
    (hname : Text.IsWord name) :
    ∃ next, (execute fs (writing q ws name)).filesystem = some next ∧
      (execute fs (writing q ws name)).success = true ∧
      (execute next (reading name)).success = true ∧
      (execute next (reading name)).output = " ".intercalate ws := by
  have hwritten := h.wellFormed.stores_write name (" ".intercalate ws)
  obtain ⟨f, hf, hcontent, -⟩ := hwritten.stored
  rw [← hwritten.cwd] at hf
  have hread := execute_reading hname hf
  refine ⟨fs.write name (" ".intercalate ws), ?_, ?_, ?_, ?_⟩
  · rw [execute_writing fs hq hws hname]
    rfl
  · rw [execute_writing fs hq hws hname]
    rfl
  · rw [hread]
    rfl
  · rw [hread, ← hcontent]
    rfl

/-- Quotes at both ends of the text, and a name of signs, dots and slashes. -/
theorem reading_after_writing_signs :
    Filesystem.seed.Reachable ∧ writing '\'' ["\"go'", "\""] ">/.." = "echo '\"go' \"' > >/.." ∧
      ∃ next, (execute Filesystem.seed "echo '\"go' \"' > >/..").filesystem = some next ∧
        (execute next "cat >/..").output = "\"go' \"" := by
  have hline : writing '\'' ["\"go'", "\""] ">/.." = "echo '\"go' \"' > >/.." := by decide
  have hq : isQuote '\'' = true := by decide
  have hws : ∀ w ∈ ["\"go'", "\""], Text.IsWord w ∧ '>' ∉ w.toList := by decide
  have hname : Text.IsWord ">/.." := by decide
  obtain ⟨next, hnext, -, -, houtput⟩ := reading_after_writing .seed hq hws hname
  rw [hline] at hnext
  exact ⟨.seed, hline, next, hnext, houtput⟩

end Shell

end MissionShell
