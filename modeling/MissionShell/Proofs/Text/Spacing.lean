import MissionShell.Proofs.Text.Words

/-!
# Spaced-out words

Trimming takes away whatever blanks are put around a text. Between words, it does not matter either which
blanks part them and how many: the words of the text are the same.

* `Text.IsGap`, `Text.Padded`, `Text.Bare` : blanks, a text with blanks around it, and one without;
* `Text.Separated`, `Text.Spaced` : words with blanks between them, and with blanks around them too;
* `Text.Padded.trim_eq`, `Text.Bare.trim_eq` : blanks around a text are trimmed, and nothing else;
* `Text.Spaced.words_eq` : the words of a line are those that were spaced out.
-/

namespace MissionShell.Text

def IsGap (gap : String) : Prop := ∀ c ∈ gap.toList, isBlank c = true

instance (gap : String) : Decidable (IsGap gap) :=
  decidable_of_iff (gap.toList.all isBlank = true) List.all_eq_true

def Padded (text line : String) : Prop :=
  ∃ before behind, IsGap before ∧ IsGap behind ∧ line = before ++ text ++ behind

/-! ## Trimming -/

theorem trimEnd_trimStart_append {gap : List Char} (h : ∀ c ∈ gap, isBlank c = true)
    (cs : List Char) : trimEnd (trimStart (cs ++ gap)) = trimEnd (trimStart cs) := by
  unfold trimStart
  rw [List.dropWhile_append]
  split_ifs with hblank
  · rw [List.isEmpty_iff.mp hblank, List.dropWhile_eq_nil_iff.mpr h]
  · exact trimEnd_append h _

theorem Padded.trim_eq {text line : String} (h : Padded text line) : trim line = trim text := by
  obtain ⟨before, behind, hbefore, hbehind, rfl⟩ := h
  rw [trim, String.toList_append, String.toList_append, List.append_assoc, trimStart_append hbefore,
    trimEnd_trimStart_append hbehind, trim]

theorem trimStart_eq_self {cs : List Char} (h : ∀ c ∈ cs.head?, isBlank c = false) :
    trimStart cs = cs := by
  cases cs with
  | nil => rfl
  | cons c cs =>
    have hc : isBlank c = false := h c rfl
    rw [trimStart, List.dropWhile_cons_of_neg (by simp [hc])]

structure Bare (text : String) : Prop where
  first : ∀ c ∈ text.toList.head?, isBlank c = false
  last : ∀ c ∈ text.toList.getLast?, isBlank c = false

theorem Bare.trim_eq {text : String} (h : Bare text) : trim text = text := by
  have hlast : trimStart text.toList.reverse = text.toList.reverse := by
    apply trimStart_eq_self
    rw [List.head?_reverse]
    exact h.last
  rw [trim, trimStart_eq_self h.first, trimEnd, hlast, List.reverse_reverse, text.ofList_toList]

theorem IsWord.bare {w : String} (h : IsWord w) : Bare w where
  first c hc := h.apart c (List.mem_of_head? hc)
  last c hc := h.apart c (List.mem_of_getLast? hc)

/-- The space before a word is trimmed, and nothing of the word. -/
theorem trim_space_word {w : String} (h : IsWord w) : trim (" " ++ w) = w := by
  have hpadded : Padded w (" " ++ w) :=
    ⟨" ", "", by decide, by decide, by rw [String.append_empty]⟩
  rw [hpadded.trim_eq, h.bare.trim_eq]

/-! ## Words -/

/-- The text consists of the words in their order, with blanks between any two of them. -/
inductive Separated : List String → String → Prop where
  | single (w : String) : Separated [w] w
  | cons (w gap : String) {ws : List String} {rest : String} (hne : gap ≠ "") (hgap : IsGap gap)
      (h : Separated ws rest) : Separated (w :: ws) (w ++ gap ++ rest)

/-- The line consists of the words in their order, with blanks between any two of them and maybe more
before and behind. -/
def Spaced (ws : List String) (line : String) : Prop := ∃ body, Separated ws body ∧ Padded body line

theorem Separated.runs_eq {ws : List String} {body : String} (h : Separated ws body)
    (hws : ∀ w ∈ ws, IsWord w) : runs isBlank body.toList = ws.map String.toList := by
  induction h with
  | single w => exact (hws w List.mem_cons_self).runs_eq
  | @cons w gap ws rest hne hgap _ ih =>
    obtain ⟨hw, hws⟩ := List.forall_mem_cons.mp hws
    obtain ⟨b, bs, hb⟩ := List.exists_cons_of_ne_nil (mt String.toList_eq_nil_iff.mp hne)
    obtain ⟨hblank, hblanks⟩ : isBlank b = true ∧ ∀ c ∈ bs, isBlank c = true := by
      rwa [IsGap, hb, List.forall_mem_cons] at hgap
    calc runs isBlank (w ++ gap ++ rest).toList
        = runs isBlank (w.toList ++ b :: (bs ++ rest.toList)) := by
          rw [String.toList_append, String.toList_append, hb, List.append_assoc, List.cons_append]
      _ = runs isBlank w.toList ++ runs isBlank rest.toList := by
          rw [runs_append_cons _ _ _ hblank, runs_append_left hblanks]
      _ = (w :: ws).map String.toList := by rw [hw.runs_eq, ih hws, List.map_cons, List.singleton_append]

/-- The words of a line are those that were spaced out. -/
theorem Spaced.words_eq {ws : List String} {line : String} (h : Spaced ws line)
    (hws : ∀ w ∈ ws, IsWord w) : words line = ws := by
  obtain ⟨body, hbody, before, behind, hbefore, hbehind, rfl⟩ := h
  rw [words, String.toList_append, String.toList_append, runs_append_right hbehind,
    runs_append_left hbefore, hbody.runs_eq hws, List.map_map]
  simp [Function.comp_def]

theorem IsGap.words_eq {line : String} (h : IsGap line) : words line = [] := by
  rw [words, ← List.append_nil line.toList, runs_append_left h, runs_nil, List.map_nil]

end MissionShell.Text
