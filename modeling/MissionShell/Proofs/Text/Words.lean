import MissionShell.Text.Blank
import Mathlib.Data.List.DropRight
import Mathlib.Data.List.TakeWhile

/-!
# Runs, words and trimming

A separator at either end of a text belongs to no run, so a text has the same words when the blanks
around it are trimmed. Words that are put together with one space between any two are the words of the
text that they make.

* `Text.runs_of_forall` : a text without separators is one run;
* `Text.runs_append_left`, `Text.runs_append_right` : separators before and behind a text;
* `Text.IsRun`, `Text.IsWord` : texts that are runs and words of their own;
* `Text.runs_intercalate`, `Text.words_intercalate`, `Text.splitOn_intercalate` : runs, words and other
  pieces that are put together;
* `Text.eq_space_of_isBlank`, `Text.isBlank_getLast_intercalate` : where the blanks of such a text stand;
* `Text.IsFirstWord`, `Text.head?_words_eq_some_iff` : where the first word of a text stands;
* `Text.trimEnd_append`, `Text.exists_trimEnd_append` : what is trimmed behind a text;
* `Text.words_trim` : trimming keeps the words.
-/

namespace MissionShell.Text

variable {p : Char → Bool}

theorem runs_of_forall {cs : List Char} (hne : cs ≠ []) (h : ∀ c ∈ cs, p c = false) :
    runs p cs = [cs] := by
  have hsplit : cs.splitOnP p = [cs] := List.splitOnP_eq_singleton fun c hc => by simp [h c hc]
  simp [runs, hsplit, hne]

theorem runs_cons {sep : Char} (h : p sep = true) (cs : List Char) :
    runs p (sep :: cs) = runs p cs := by
  rw [← List.nil_append (sep :: cs), runs_append_cons p [] cs h, runs_nil, List.nil_append]

theorem runs_append_left {seps : List Char} (h : ∀ c ∈ seps, p c = true) (cs : List Char) :
    runs p (seps ++ cs) = runs p cs := by
  induction seps with
  | nil => rfl
  | cons sep seps ih =>
    rw [List.cons_append, runs_cons (h sep List.mem_cons_self)]
    exact ih fun c hc => h c (List.mem_cons_of_mem sep hc)

theorem runs_append_right {seps : List Char} (h : ∀ c ∈ seps, p c = true) (cs : List Char) :
    runs p (cs ++ seps) = runs p cs := by
  cases seps with
  | nil => rw [List.append_nil]
  | cons sep seps =>
    have hnone : runs p seps = [] := by
      rw [← List.append_nil seps, runs_append_left fun c hc => h c (List.mem_cons_of_mem sep hc),
        runs_nil]
    rw [runs_append_cons p cs seps (h sep List.mem_cons_self), hnone, List.append_nil]

/-! ## Putting runs together -/

structure IsRun (p : Char → Bool) (s : String) : Prop where
  ne_empty : s ≠ ""
  apart : ∀ c ∈ s.toList, p c = false

abbrev IsWord (w : String) : Prop := IsRun isBlank w

instance (s : String) : Decidable (IsRun p s) :=
  decidable_of_iff (s ≠ "" ∧ s.toList.all (!p ·) = true)
    ⟨fun ⟨hempty, hapart⟩ => ⟨hempty, fun c hc => by simpa using List.all_eq_true.mp hapart c hc⟩,
      fun h => ⟨h.ne_empty, List.all_eq_true.mpr fun c hc => by simpa using h.apart c hc⟩⟩

theorem IsRun.toList_ne_nil {s : String} (h : IsRun p s) : s.toList ≠ [] := fun hnil =>
  h.ne_empty (by rw [← s.ofList_toList, hnil])

theorem IsRun.runs_eq {s : String} (h : IsRun p s) : runs p s.toList = [s.toList] :=
  runs_of_forall h.toList_ne_nil h.apart

theorem IsRun.append {s t : String} (hs : IsRun p s) (ht : IsRun p t) : IsRun p (s ++ t) := by
  refine ⟨fun h => hs.ne_empty (String.append_eq_empty_iff.mp h).1, fun c hc => ?_⟩
  rw [String.toList_append] at hc
  rcases List.mem_append.mp hc with hc | hc
  · exact hs.apart c hc
  · exact ht.apart c hc

/-- Runs that are put together with one separator between any two are the runs of the text. -/
theorem runs_intercalate {sep : Char} {between : String} (hsep : p sep = true)
    (hbetween : between.toList = [sep]) :
    ∀ {pieces : List String}, (∀ s ∈ pieces, IsRun p s) →
      runs p (between.intercalate pieces).toList = pieces.map String.toList
  | [], _ => by simp [runs_nil]
  | [s], h => by simpa using (h s List.mem_cons_self).runs_eq
  | s :: t :: pieces, h => by
    have htail : ∀ u ∈ t :: pieces, IsRun p u := fun u hu => h u (List.mem_cons_of_mem _ hu)
    have ih := runs_intercalate hsep hbetween htail
    have htext : (between.intercalate (s :: t :: pieces)).toList =
        s.toList ++ sep :: (between.intercalate (t :: pieces)).toList := by
      rw [String.intercalate_cons_cons, String.toList_append, String.toList_append, hbetween,
        List.append_assoc, List.singleton_append]
    rw [htext, runs_append_cons _ _ _ hsep, ih, (h s List.mem_cons_self).runs_eq]
    rfl

/-- Words that are put together with one space between any two are the words of the text. -/
theorem words_intercalate {ws : List String} (h : ∀ w ∈ ws, IsWord w) :
    words (" ".intercalate ws) = ws := by
  rw [words, runs_intercalate isBlank_space rfl h, List.map_map]
  simp [Function.comp_def]

/-- What is found in texts that are put together is found between them or in one of them. -/
theorem exists_mem_of_mem_intercalate {between : String} {c : Char} (hc : c ∉ between.toList) :
    ∀ {pieces : List String}, c ∈ (between.intercalate pieces).toList → ∃ s ∈ pieces, c ∈ s.toList
  | [], h => by simp at h
  | [s], h => ⟨s, List.mem_singleton_self s, by simpa using h⟩
  | s :: t :: pieces, h => by
    rw [String.intercalate_cons_cons, String.toList_append, String.toList_append, List.mem_append,
      List.mem_append] at h
    rcases h with (hs | hbetween) | hrest
    · exact ⟨s, List.mem_cons_self, hs⟩
    · exact absurd hbetween hc
    · obtain ⟨u, hu, hmem⟩ := exists_mem_of_mem_intercalate hc hrest
      exact ⟨u, List.mem_cons_of_mem s hu, hmem⟩

/-- Texts without the separator that are put together come apart again. -/
theorem splitOn_intercalate {sep : Char} {between : String} (hbetween : between.toList = [sep])
    {pieces : List String} (hne : pieces ≠ []) (h : ∀ s ∈ pieces, sep ∉ s.toList) :
    (between.intercalate pieces).toList.splitOn sep = pieces.map String.toList := by
  rw [String.toList_intercalate, hbetween]
  refine List.splitOn_intercalate sep (fun piece hpiece => ?_) (by simpa using hne)
  obtain ⟨s, hs, rfl⟩ := List.mem_map.mp hpiece
  exact h s hs

/-- Spaces are the only blanks between words. -/
theorem eq_space_of_isBlank {ws : List String} (h : ∀ w ∈ ws, IsWord w) {c : Char}
    (hc : c ∈ (" ".intercalate ws).toList) (hblank : isBlank c = true) : c = ' ' := by
  by_contra hne
  obtain ⟨w, hw, hmem⟩ := exists_mem_of_mem_intercalate (by simpa using hne) hc
  rw [(h w hw).apart c hmem] at hblank
  cases hblank

/-- Words that are put together do not end in a blank. -/
theorem isBlank_getLast_intercalate {ws : List String} (h : ∀ w ∈ ws, IsWord w) {c : Char}
    (hc : (" ".intercalate ws).toList.getLast? = some c) : isBlank c = false := by
  induction ws using List.reverseRecOn with
  | nil => simp at hc
  | append_singleton ws w _ =>
    have hw : IsWord w := h w (by simp)
    have hlast : (" ".intercalate (ws ++ [w])).toList.getLast? = w.toList.getLast? := by
      cases ws with
      | nil => simp
      | cons v ws =>
        rw [String.intercalate_append_of_ne_nil (List.cons_ne_nil _ _) (List.cons_ne_nil _ _),
          String.intercalate_singleton, String.toList_append,
          List.getLast?_append_of_ne_nil _ hw.toList_ne_nil]
    rw [hlast] at hc
    exact hw.apart c (List.mem_of_getLast? hc)

/-- A word before such a text grows together with its first word. -/
theorem exists_words_cons {w : String} (hw : IsWord w) {ws : List String} (h : ∀ v ∈ ws, IsWord v) :
    ∃ us, us ≠ [] ∧ (∀ u ∈ us, IsWord u) ∧ " ".intercalate us = w ++ " ".intercalate ws := by
  cases ws with
  | nil => exact ⟨[w], List.cons_ne_nil _ _, by simpa using hw, by simp⟩
  | cons v ws =>
    obtain ⟨hv, hws⟩ := List.forall_mem_cons.mp h
    refine ⟨(w ++ v) :: ws, List.cons_ne_nil _ _, ?_, String.intercalate_cons_append⟩
    exact List.forall_mem_cons.mpr ⟨hw.append hv, hws⟩

/-- A word behind such a text grows together with its last word. -/
theorem exists_words_concat {w : String} (hw : IsWord w) {ws : List String}
    (h : ∀ v ∈ ws, IsWord v) :
    ∃ us, us ≠ [] ∧ (∀ u ∈ us, IsWord u) ∧ " ".intercalate us = " ".intercalate ws ++ w := by
  induction ws with
  | nil => exact ⟨[w], List.cons_ne_nil _ _, by simpa using hw, by simp⟩
  | cons v ws ih =>
    obtain ⟨hv, hws⟩ := List.forall_mem_cons.mp h
    cases ws with
    | nil => exact ⟨[v ++ w], List.cons_ne_nil _ _, by simpa using hv.append hw, by simp⟩
    | cons x ws =>
      obtain ⟨us, hne, hus, heq⟩ := ih hws
      refine ⟨v :: us, List.cons_ne_nil _ _, List.forall_mem_cons.mpr ⟨hv, hus⟩, ?_⟩
      rw [String.intercalate_cons_of_ne_nil hne, heq, String.intercalate_cons_cons]
      simp only [String.append_assoc]

/-! ## Trimming -/

theorem trimStart_append {gap : List Char} (h : ∀ c ∈ gap, isBlank c = true) (cs : List Char) :
    trimStart (gap ++ cs) = trimStart cs := List.dropWhile_append_of_pos h

theorem trimEnd_append {gap : List Char} (h : ∀ c ∈ gap, isBlank c = true) (cs : List Char) :
    trimEnd (cs ++ gap) = trimEnd cs := by
  rw [trimEnd, List.reverse_append, trimStart_append fun c hc => h c (List.mem_reverse.mp hc), trimEnd]

theorem trim_append {gap : List Char} (h : ∀ c ∈ gap, isBlank c = true) (cs : List Char) :
    trim (String.ofList (gap ++ cs)) = trim (String.ofList cs) := by
  rw [trim, trim, String.toList_ofList, String.toList_ofList, trimStart_append h]

/-- Blanks behind a text are trimmed. -/
theorem trimEnd_append_blank {c : Char} (h : isBlank c = true) (cs : List Char) :
    trimEnd (cs ++ [c]) = trimEnd cs :=
  trimEnd_append (fun _ hx => List.mem_singleton.mp hx ▸ h) cs

/-- What is trimmed behind a text are blanks. -/
theorem exists_trimEnd_append (cs : List Char) :
    ∃ gap, (∀ c ∈ gap, isBlank c = true) ∧ trimEnd cs ++ gap = cs := by
  refine ⟨(cs.reverse.takeWhile isBlank).reverse, fun c hc => ?_, ?_⟩
  · exact List.mem_takeWhile_imp (List.mem_reverse.mp hc)
  · rw [trimEnd, trimStart, ← List.reverse_append, List.takeWhile_append_dropWhile,
      List.reverse_reverse]

theorem length_trimEnd_le (cs : List Char) : (trimEnd cs).length ≤ cs.length := by
  obtain ⟨gap, -, hcs⟩ := exists_trimEnd_append cs
  exact List.IsPrefix.length_le ⟨gap, hcs⟩

theorem trimEnd_concat {c : Char} (h : isBlank c = false) (cs : List Char) :
    trimEnd (cs ++ [c]) = cs ++ [c] := by
  rw [trimEnd, trimStart, List.reverse_append, List.reverse_singleton, List.singleton_append,
    List.dropWhile_cons_of_neg (by simp [h]), ← List.singleton_append, List.reverse_append,
    List.reverse_reverse, List.reverse_singleton]

/-- Where all blanks are spaces, spaces are what is trimmed. -/
theorem trimStart_eq_dropWhile {cs : List Char} (h : ∀ c ∈ cs, isBlank c = true → c = ' ') :
    trimStart cs = cs.dropWhile (· = ' ') := by
  rw [trimStart]
  induction cs with
  | nil => rfl
  | cons c cs ih =>
    have hc : isBlank c = decide (c = ' ') := by
      rw [Bool.eq_iff_iff, decide_eq_true_eq]
      exact ⟨h c List.mem_cons_self, fun heq => heq ▸ isBlank_space⟩
    rw [List.dropWhile_cons, List.dropWhile_cons, hc, ih fun d hd => h d (List.mem_cons_of_mem c hd)]

theorem trimEnd_eq_rdropWhile {cs : List Char} (h : ∀ c ∈ cs, isBlank c = true → c = ' ') :
    trimEnd cs = cs.rdropWhile (· = ' ') := by
  rw [trimEnd, trimStart_eq_dropWhile fun c hc => h c (List.mem_reverse.mp hc), List.rdropWhile]

theorem runs_trimStart (cs : List Char) : runs isBlank (trimStart cs) = runs isBlank cs := by
  calc runs isBlank (trimStart cs)
      = runs isBlank (cs.takeWhile isBlank ++ trimStart cs) :=
        (runs_append_left (fun _ hc => List.mem_takeWhile_imp hc) _).symm
    _ = runs isBlank cs := by rw [trimStart, List.takeWhile_append_dropWhile]

theorem runs_trimEnd (cs : List Char) : runs isBlank (trimEnd cs) = runs isBlank cs := by
  obtain ⟨gap, hgap, hcs⟩ := exists_trimEnd_append cs
  rw [← runs_append_right hgap, hcs]

/-- Blanks around a text belong to no word. -/
theorem words_trim (text : String) : words (trim text) = words text := by
  rw [words, trim, String.toList_ofList, runs_trimEnd, runs_trimStart, words]

/-! ## The first word -/

/-- The text starts with `w` once the blanks before it are left out, and goes on with a blank if it
goes on at all. -/
def IsFirstWord (w text : String) : Prop :=
  IsWord w ∧ ∃ gap rest, text.toList = gap ++ (w.toList ++ rest) ∧
    (∀ c ∈ gap, isBlank c = true) ∧ ∀ c ∈ rest.head?, isBlank c = true

theorem IsFirstWord.head?_words {w text : String} (h : IsFirstWord w text) :
    (words text).head? = some w := by
  obtain ⟨hw, gap, rest, htext, hgap, hrest⟩ := h
  rw [words, htext, runs_append_left hgap]
  cases rest with
  | nil => rw [List.append_nil, hw.runs_eq, List.map_singleton, w.ofList_toList, List.head?_cons]
  | cons c rest =>
    have hc : isBlank c = true := hrest c rfl
    rw [runs_append_cons _ _ _ hc, hw.runs_eq, List.singleton_append, List.map_cons, w.ofList_toList,
      List.head?_cons]

/-- A text that is not of blanks alone has a first word. -/
theorem exists_isFirstWord {text : String} (h : trimStart text.toList ≠ []) :
    ∃ w, IsFirstWord w text := by
  obtain ⟨c, cs, hbody⟩ := List.exists_cons_of_ne_nil h
  have hc : isBlank c = false := by
    have hfirst := List.head?_dropWhile_not isBlank text.toList
    rw [← trimStart, hbody] at hfirst
    exact hfirst
  have hword : IsWord (String.ofList (c :: cs.takeWhile (!isBlank ·))) := by
    refine ⟨fun hempty => ?_, fun d hd => ?_⟩
    · simpa using congrArg String.toList hempty
    · rw [String.toList_ofList] at hd
      rcases List.mem_cons.mp hd with rfl | hd
      · exact hc
      · simpa using List.mem_takeWhile_imp hd
  refine ⟨_, hword, text.toList.takeWhile isBlank, cs.dropWhile (!isBlank ·), ?_,
    fun d hd => List.mem_takeWhile_imp hd, fun d hd => ?_⟩
  · rw [String.toList_ofList, List.cons_append, List.takeWhile_append_dropWhile, ← hbody, trimStart,
      List.takeWhile_append_dropWhile]
  · have hfirst := List.head?_dropWhile_not (!isBlank ·) cs
    rw [hd] at hfirst
    simpa using hfirst

theorem head?_words_eq_some_iff {w text : String} :
    (words text).head? = some w ↔ IsFirstWord w text := by
  refine ⟨fun h => ?_, IsFirstWord.head?_words⟩
  have hbody : trimStart text.toList ≠ [] := by
    intro hnil
    rw [words, ← runs_trimStart, hnil, runs_nil] at h
    cases h
  obtain ⟨v, hv⟩ := exists_isFirstWord hbody
  have heq : w = v := Option.some.inj (h.symm.trans hv.head?_words)
  exact heq ▸ hv

end MissionShell.Text
