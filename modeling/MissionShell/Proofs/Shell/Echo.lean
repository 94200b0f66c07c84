import MissionShell.Proofs.Shell.Redirection
import MissionShell.Proofs.Text.Pattern

/-!
# The grammar of redirections

A redirection is written by a pattern: as little text as possible, the sign, and a name, with blanks around
the sign. What the search for that pattern finds is read off at the first sign of the line, so `echo` prints
a line or writes a file by where its first sign stands.

* `Redirect.pattern`, `Redirect.ofPattern?` : the pattern, and the redirection that its parts make;
* `Redirect.Plain` : texts whose first sign, if there is one, stands at the end;
* `Redirect.search_of_plain`, `Redirect.search_of_sign` : what the search finds in each kind of text;
* `Redirect.parse?_eq_ofPattern?` : a redirection is read as the pattern has it;
* `Unquoted` : a text without a quote at either end;
* `Shell.echo_grammar` : what `echo` prints and what it writes.
-/

namespace MissionShell

/-! ## The pattern -/

namespace Redirect
open Text (Piece Fits search)

/-- The pattern of a redirection: a content, a sign and a target, all on one line and with blanks around
the sign. The content is to be short, the blanks and the target are to be long. -/
def pattern : List Piece :=
  [⟨(· ≠ '\n'), 0, none, true⟩, ⟨Text.isBlank, 0, none, false⟩, ⟨isSign, 1, some 1, false⟩,
    ⟨Text.isBlank, 0, none, false⟩, ⟨(· ≠ '\n'), 1, none, false⟩]

def ofParts? : List (List Char) → Option Redirect
  | [content, _, _, _, target] =>
    some ⟨String.ofList (stripQuotes content), Text.trim (String.ofList target)⟩
  | _ => none

def ofPattern? (text : String) : Option Redirect := (search pattern text.toList).bind ofParts?

theorem fits_pattern {content gap gap' target : List Char} (hcontent : '\n' ∉ content)
    (hgap : ∀ c ∈ gap, Text.isBlank c = true) (hgap' : ∀ c ∈ gap', Text.isBlank c = true)
    (htarget : '\n' ∉ target) (hne : target ≠ []) :
    Fits pattern [content, gap, ['>'], gap', target] := by
  have hline : ∀ cs : List Char, '\n' ∉ cs → ∀ c ∈ cs, decide (c ≠ '\n') = true :=
    fun cs hcs c hc => decide_eq_true fun heq => hcs (heq ▸ hc)
  have hsign : ∀ c ∈ ['>'], isSign c = true := fun c hc => by rw [List.mem_singleton.mp hc, isSign]; rfl
  have hlength : 1 ≤ target.length := List.length_pos_iff.mpr hne
  refine .cons ⟨rfl, hline content hcontent⟩ (.cons ⟨rfl, hgap⟩ (.cons ⟨rfl, hsign⟩
    (.cons ⟨rfl, hgap'⟩ (.cons ⟨?_, hline target htarget⟩ .nil))))
  simp [Piece.allows, hlength]

theorem exists_of_fits {parts : List (List Char)} (h : Fits pattern parts) :
    ∃ content gap gap' target, parts = [content, gap, ['>'], gap', target] ∧
      (∀ c ∈ gap, Text.isBlank c = true) ∧ (∀ c ∈ gap', Text.isBlank c = true) ∧ target ≠ [] := by
  obtain ⟨content, parts, -, hrest, rfl⟩ := List.forall₂_cons_left_iff.mp h
  obtain ⟨gap, parts, hgap, hrest', rfl⟩ := List.forall₂_cons_left_iff.mp hrest
  obtain ⟨sign, parts, hsign, hrest'', rfl⟩ := List.forall₂_cons_left_iff.mp hrest'
  obtain ⟨gap', parts, hgap', hlast, rfl⟩ := List.forall₂_cons_left_iff.mp hrest''
  obtain ⟨target, parts, htarget, hnil, rfl⟩ := List.forall₂_cons_left_iff.mp hlast
  cases hnil
  have hone : sign = ['>'] := by
    have hlength : sign.length = 1 := by
      have hallowed := hsign.allowed
      simp only [Piece.allows, Option.all_some, Bool.and_eq_true, decide_eq_true_eq] at hallowed
      omega
    obtain ⟨c, rfl⟩ := List.length_eq_one_iff.mp hlength
    have hc : c = '>' := of_decide_eq_true (hsign.accepted c (List.mem_singleton_self c))
    rw [hc]
  refine ⟨content, gap, gap', target, by rw [hone], hgap.accepted, hgap'.accepted, ?_⟩
  rintro rfl
  cases htarget.allowed

/-! ## Where the sign stands -/

/-- A text has one first sign. -/
theorem eq_of_sign {before after before' after' : List Char} (h : '>' ∉ before) (h' : '>' ∉ before')
    (heq : before ++ '>' :: after = before' ++ '>' :: after') : before = before' ∧ after = after' := by
  have hfront := takeWhile_of_sign h after
  have hback := dropWhile_of_sign h after
  rw [heq, takeWhile_of_sign h'] at hfront
  rw [heq, dropWhile_of_sign h'] at hback
  exact ⟨hfront.symm, (List.cons.inj hback).2.symm⟩

/-- The first sign of the text, if there is one, is its last character. -/
def Plain (cs : List Char) : Prop :=
  ∀ before after, cs = before ++ '>' :: after → '>' ∉ before → after = []

theorem plain_iff {cs : List Char} :
    Plain cs ↔ '>' ∉ cs ∨ ∃ before, '>' ∉ before ∧ cs = before ++ ['>'] := by
  constructor
  · intro h
    by_cases hmem : '>' ∈ cs
    · obtain ⟨before, after, hcs, hbefore⟩ := List.eq_append_cons_of_mem hmem
      exact Or.inr ⟨before, hbefore, h before after hcs hbefore ▸ hcs⟩
    · exact Or.inl hmem
  · rintro (hnone | ⟨before', hbefore', hend⟩) before after hcs hbefore
    · exact absurd (by simp [hcs]) hnone
    · exact (eq_of_sign hbefore hbefore' (hcs.symm.trans hend)).2

theorem plain_or_sign (cs : List Char) :
    Plain cs ∨ ∃ before after, '>' ∉ before ∧ after ≠ [] ∧ cs = before ++ '>' :: after := by
  by_cases h : Plain cs
  · exact Or.inl h
  · unfold Plain at h
    push Not at h
    obtain ⟨before, after, hcs, hbefore, hafter⟩ := h
    exact Or.inr ⟨before, after, hbefore, hafter, hcs⟩

theorem parse?_of_plain {text : String} (h : Plain text.toList) : parse? text = none := by
  rcases plain_iff.mp h with hnone | ⟨before, hbefore, hend⟩
  · have hrest : text.toList.dropWhile (!isSign ·) = [] :=
      List.dropWhile_eq_nil_iff.mpr (not_isSign_of_mem hnone)
    simp only [parse?, hrest]
  · have hrest : text.toList.dropWhile (!isSign ·) = ['>'] := by rw [hend, dropWhile_of_sign hbefore]
    simp only [parse?, hrest]

theorem notMem_of_isBlank {gap : List Char} (h : ∀ c ∈ gap, Text.isBlank c = true) : '>' ∉ gap :=
  fun hmem => absurd (h _ hmem) (by decide)

theorem search_of_plain {cs : List Char} (h : Plain cs) : search pattern cs = none := by
  rw [Option.eq_none_iff_forall_ne_some]
  intro parts hparts
  obtain ⟨hfits, hwhole⟩ := Text.search_sound hparts
  obtain ⟨content, gap, gap', target, rfl, -, -, hne⟩ := exists_of_fits hfits
  -- the sign of the fit has the target behind it, and the first sign of the text is no later
  have hmem : '>' ∈ (content ++ gap) ++ ['>'] := List.mem_append_right _ (List.mem_singleton_self _)
  obtain ⟨before, after, hsplit, hbefore⟩ := List.eq_append_cons_of_mem hmem
  have hcs : cs = before ++ '>' :: (after ++ (gap' ++ target)) := by
    rw [← hwhole, ← List.cons_append, ← List.append_assoc, ← hsplit]
    simp
  have hafter := h _ _ hcs hbefore
  simp [hne] at hafter

/-- The content ends where the blanks before the first sign begin, and the target is what comes behind it
without some blanks. -/
theorem search_of_sign {before after : List Char} (hline : '\n' ∉ before ++ '>' :: after)
    (hbefore : '>' ∉ before) (hafter : after ≠ []) :
    ∃ gap gap' target,
      search pattern (before ++ '>' :: after) = some [Text.trimEnd before, gap, ['>'], gap', target] ∧
        (∀ c ∈ gap', Text.isBlank c = true) ∧ gap' ++ target = after := by
  obtain ⟨blanks, hblanks, htrim⟩ := Text.exists_trimEnd_append before
  have hother : Fits pattern [Text.trimEnd before, blanks, ['>'], [], after] := by
    refine fits_pattern (fun hmem => hline ?_) hblanks (by simp) (fun hmem => hline ?_) hafter
    · rw [← htrim]
      simp [hmem]
    · simp [hmem]
  have hflat : [Text.trimEnd before, blanks, ['>'], [], after].flatten = before ++ '>' :: after := by
    simp only [List.flatten_cons, List.flatten_nil, List.append_nil, List.nil_append,
      List.singleton_append]
    rw [← List.append_assoc, htrim]
  obtain ⟨parts, hparts⟩ := Text.exists_search hother
  obtain ⟨hfits, hwhole⟩ := Text.search_sound hparts
  obtain ⟨content, gap, gap', target, rfl, hgap, hgap', -⟩ := exists_of_fits hfits
  -- the content is no longer than the one that ends before the blanks, so the sign is not in it
  have hshort : content.length ≤ (Text.trimEnd before).length :=
    Text.length_le_of_search rfl hparts hother
  rw [hflat] at hparts hwhole
  have hcs : (content ++ gap) ++ '>' :: (gap' ++ target) = before ++ '>' :: after := by
    rw [← hwhole]
    simp
  have hcontent : content <+: Text.trimEnd before := by
    have hpart : content <+: before ++ '>' :: after :=
      ⟨gap ++ '>' :: (gap' ++ target), by rw [← hcs, List.append_assoc]⟩
    have hpart' : Text.trimEnd before <+: before ++ '>' :: after :=
      ⟨blanks ++ '>' :: after, by rw [← List.append_assoc, htrim]⟩
    exact List.prefix_of_prefix_length_le hpart hpart' hshort
  have hsign : '>' ∉ content ++ gap := by
    rw [List.mem_append, not_or]
    refine ⟨fun hmem => hbefore ?_, notMem_of_isBlank hgap⟩
    rw [← htrim]
    exact List.mem_append_left _ (hcontent.subset hmem)
  obtain ⟨hfront, hback⟩ := eq_of_sign hsign hbefore hcs
  have hsame : content = Text.trimEnd before := by
    refine hcontent.eq_of_length_le ?_
    rw [← hfront, Text.trimEnd_append hgap]
    exact Text.length_trimEnd_le content
  exact ⟨gap, gap', target, hsame ▸ hparts, hgap', hback⟩

/-- A redirection is read as its pattern has it. -/
theorem parse?_eq_ofPattern? {text : String} (hline : '\n' ∉ text.toList) :
    parse? text = ofPattern? text := by
  rcases plain_or_sign text.toList with hplain | ⟨before, after, hbefore, hafter, hcs⟩
  · rw [parse?_of_plain hplain, ofPattern?, search_of_plain hplain, Option.bind_none]
  · rw [hcs] at hline
    obtain ⟨gap, gap', target, hsearch, hgap', rfl⟩ := search_of_sign hline hbefore hafter
    rw [ofPattern?, hcs, hsearch, Option.bind_some, ofParts?, ← Text.trim_append hgap']
    obtain ⟨next, rest, hnext⟩ := List.exists_cons_of_ne_nil hafter
    rw [← text.ofList_toList, hcs, hnext, parse?_of_sign hbefore]

/-- The content is as short and the target as long as can be. -/
example : ofPattern? "a > b >> c" = some ⟨"a", "b >> c"⟩ := by decide

end Redirect

/-! ## Quotes -/

/-- The second text is the first without the quote that it starts with, if it does. -/
inductive Opened : List Char → List Char → Prop where
  | quote {q : Char} (h : isQuote q = true) (cs : List Char) : Opened (q :: cs) cs
  | plain {cs : List Char} (h : ∀ c ∈ cs.head?, isQuote c = false) : Opened cs cs

/-- The second text is the first without the quote that it starts with and then without the quote that it
ends with. -/
def Unquoted (cs rest : List Char) : Prop :=
  ∃ middle, Opened cs middle ∧ Opened middle.reverse rest.reverse

theorem opened_iff {cs rest : List Char} : Opened cs rest ↔ rest = dropQuote cs := by
  constructor
  · rintro (⟨h, cs⟩ | h)
    · exact (if_pos h).symm
    · cases cs with
      | nil => rfl
      | cons c cs =>
        have hc : isQuote c = false := h c rfl
        rw [dropQuote, if_neg (by simp [hc])]
  · rintro rfl
    cases cs with
    | nil => exact .plain (by simp)
    | cons c cs =>
      rw [dropQuote]
      split_ifs with hc
      · exact .quote hc cs
      · exact .plain (by simpa using hc)

theorem unquoted_iff {cs rest : List Char} : Unquoted cs rest ↔ rest = stripQuotes cs := by
  unfold Unquoted
  simp only [opened_iff]
  constructor
  · rintro ⟨middle, rfl, hrest⟩
    rw [stripQuotes, ← hrest, List.reverse_reverse]
  · rintro rfl
    exact ⟨_, rfl, by rw [stripQuotes, List.reverse_reverse]⟩

/-! ## What is printed and what is written -/

namespace Shell

section Line
variable {ws : List String} (hws : ∀ w ∈ ws, Text.IsWord w)
include hws

theorem newline_notMem_words : '\n' ∉ (" ".intercalate ws).toList := fun hmem => by
  have hspace := Text.eq_space_of_isBlank hws hmem (by decide)
  cases hspace

variable {before after : List Char} (hline : (" ".intercalate ws).toList = before ++ '>' :: after)
include hline

/-- Before the sign of a line there are no blanks but spaces. -/
theorem trimEnd_before : Text.trimEnd before = before.rdropWhile (· = ' ') :=
  Text.trimEnd_eq_rdropWhile fun _ hc => Text.eq_space_of_isBlank hws (by simp [hline, hc])

/-- What stands behind the sign of a line, if anything does, ends in no blank. -/
theorem trim_after (hafter : after ≠ []) :
    (Text.trim (String.ofList after)).toList = after.dropWhile (· = ' ') ∧
      after.dropWhile (· = ' ') ≠ [] := by
  obtain ⟨init, last, hlast⟩ := (List.eq_nil_or_concat after).resolve_left hafter
  rw [List.concat_eq_append] at hlast
  have hblank : Text.isBlank last = false := by
    refine Text.isBlank_getLast_intercalate hws ?_
    rw [hline, hlast, ← List.cons_append, ← List.append_assoc, List.getLast?_concat]
  have hspace : ¬ decide (last = ' ') = true := fun heq => by
    rw [of_decide_eq_true heq, Text.isBlank_space] at hblank
    cases hblank
  have hstart : Text.trimStart after = after.dropWhile (· = ' ') :=
    Text.trimStart_eq_dropWhile fun _ hc => Text.eq_space_of_isBlank hws (by simp [hline, hc])
  have hdrop : after.dropWhile (· = ' ') = init.dropWhile (· = ' ') ++ [last] := by
    rw [hlast, List.dropWhile_append, List.dropWhile_cons_of_neg (p := fun c => decide (c = ' ')) hspace]
    split_ifs with hempty
    · rw [List.isEmpty_iff.mp hempty, List.nil_append]
    · rfl
  rw [Text.trim, String.toList_ofList, String.toList_ofList, hstart, hdrop]
  exact ⟨Text.trimEnd_concat hblank _, by simp⟩

end Line

theorem run_echo (fs : Filesystem) (ws : List String) : run fs "echo" ws = .ok (echo fs ws) := by
  have hcommand : Command.ofName "echo" = .echo := by decide
  simp only [run, hcommand]

/-- **What `echo` does with words** is read off the line that they make, in every snapshot that operations
can make. A line whose first sign, if there is one, stands at the end is printed without its quotes. Of any
other line what stands before the first sign is written, without its quotes, to the file that all the rest
names. The pattern of redirections finds the same. -/
theorem echo_grammar {fs : Filesystem} (h : fs.Reachable) {ws : List String}
    (hws : ∀ w ∈ ws, Text.IsWord w) {line : List Char} (hline : (" ".intercalate ws).toList = line) :
    (('>' ∉ line ∨ ∃ before, '>' ∉ before ∧ line = before ++ ['>']) →
      ∃ text : String, Unquoted line text.toList ∧
        Outcome.ofResult (run fs "echo" ws) = Outcome.silent.withOutput text) ∧
    (∀ before after, line = before ++ '>' :: after → '>' ∉ before → after ≠ [] →
      ∃ (name content : String) (next : Filesystem),
        name.toList = after.dropWhile (· = ' ') ∧ name ≠ "" ∧
          Unquoted (before.rdropWhile (· = ' ')) content.toList ∧ fs.Stores next name content ∧
          Outcome.ofResult (run fs "echo" ws) = Outcome.silent.withFilesystem next) ∧
    Redirect.parse? (" ".intercalate ws) = Redirect.ofPattern? (" ".intercalate ws) := by
  have hwhole : " ".intercalate ws = String.ofList line := by
    rw [← hline, String.ofList_toList]
  refine ⟨fun hplain => ?_, fun before after hsplit hbefore hafter => ?_, ?_⟩
  · refine ⟨String.ofList (stripQuotes line), ?_, ?_⟩
    · exact unquoted_iff.mpr String.toList_ofList
    · have hnone := Redirect.parse?_of_plain (hline ▸ Redirect.plain_iff.mpr hplain)
      simp only [run_echo, echo, hnone, hline, Outcome.ofResult]
  · obtain ⟨hname, hne⟩ := trim_after hws (hline.trans hsplit) hafter
    obtain ⟨first, rest, hcons⟩ := List.exists_cons_of_ne_nil hafter
    have hparse : Redirect.parse? (" ".intercalate ws) =
        some ⟨String.ofList (stripQuotes (Text.trimEnd before)), Text.trim (String.ofList after)⟩ := by
      rw [hwhole, hsplit, hcons, Redirect.parse?_of_sign hbefore]
    refine ⟨Text.trim (String.ofList after), String.ofList (stripQuotes (Text.trimEnd before)), _, hname,
      ?_, ?_, h.wellFormed.stores_write _ _, ?_⟩
    · rintro hempty
      rw [hempty] at hname
      exact hne hname.symm
    · rw [← trimEnd_before hws (hline.trans hsplit)]
      exact unquoted_iff.mpr String.toList_ofList
    · simp only [run_echo, echo, hparse, Outcome.ofResult]
  · exact Redirect.parse?_eq_ofPattern? (newline_notMem_words hws)

/-- Quotes at both ends of what is written, and a name that starts with another sign. -/
theorem echo_grammar_signs :
    Filesystem.seed.Reachable ∧ (∀ w ∈ ["'x", "\"", ">", ">", "y>z"], Text.IsWord w) ∧
      ∃ next, Outcome.ofResult (run Filesystem.seed "echo" ["'x", "\"", ">", ">", "y>z"]) =
          Outcome.silent.withFilesystem next ∧
        Filesystem.seed.Stores next "> y>z" "x " := by
  have hws : ∀ w ∈ ["'x", "\"", ">", ">", "y>z"], Text.IsWord w := by decide
  have hline : (" ".intercalate ["'x", "\"", ">", ">", "y>z"]).toList =
      "'x \" ".toList ++ '>' :: " > y>z".toList := by decide
  obtain ⟨-, hwrites, -⟩ := echo_grammar .seed hws hline
  obtain ⟨name, content, next, hname, -, hcontent, hstores, hrun⟩ :=
    hwrites _ _ rfl (by decide) (by decide)
  have hname' : name = "> y>z" := String.toList_inj.mp (hname.trans (by decide))
  have hcontent' : content = "x " :=
    String.toList_inj.mp ((unquoted_iff.mp hcontent).trans (by decide))
  rw [hname', hcontent'] at hstores
  exact ⟨.seed, hws, next, hrun, hstores⟩

end Shell

end MissionShell
