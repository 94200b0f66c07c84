import MissionShell.Proofs.Text.Words
import MissionShell.Text.Case

/-!
# Lower case and words

No letter has a blank or a dash as its small letter, and none of these has another one. A blank also
keeps a capital sigma before it from what stands behind it, so lower-casing a text is lower-casing its
words.

* `Text.isMark` : the blanks and the dash;
* `Text.apart_capitals`, `Text.apart_images`, … : marks do not occur in the tables;
* `Text.lowerChar_of_isMark`, `Text.eq_of_mem_lowerChar` : a mark stands for itself, and no other
  character does;
* `Text.lowerFrom_append_blank` : a text is lower-cased on either side of a blank;
* `Text.words_lowercase` : the words of a lower-cased text;
* `Text.head?_lowercase` : a lower-cased text starts with a mark if the text does;
* `Text.SameLetters`, `Text.lowercase_trim_congr` : the case of the letters from A to Z is of no matter to a
  text that is trimmed and lower-cased.
-/

namespace MissionShell.Text

/-! ## Marks -/

def markRanges : List CodeRange := [
  ⟨0x09, 0x0D⟩, ⟨0x20, 0x20⟩, ⟨0x2D, 0x2D⟩, ⟨0x85, 0x85⟩, ⟨0xA0, 0xA0⟩, ⟨0x1680, 0x1680⟩,
  ⟨0x2000, 0x200A⟩, ⟨0x2028, 0x2029⟩, ⟨0x202F, 0x202F⟩, ⟨0x205F, 0x205F⟩, ⟨0x3000, 0x3000⟩]

def isMark (c : Char) : Bool := inRanges markRanges c

theorem isMark_of_isBlank {c : Char} (h : isBlank c = true) : isMark c = true := by
  simp only [isBlank, Bool.or_eq_true, Bool.and_eq_true, beq_iff_eq, decide_eq_true_eq] at h
  simp only [isMark, inRanges, markRanges, CodeRange.covers, List.any_cons, List.any_nil,
    Bool.or_eq_true, Bool.and_eq_true, decide_eq_true_eq]
  omega

theorem isMark_dash : isMark '-' = true := by decide

/-! ## The tables -/

def apart (rs ss : List CodeRange) : Bool :=
  rs.all fun r => ss.all fun s => r.last < s.first || s.last < r.first

theorem not_mem_of_apart {rs ss : List CodeRange} (h : apart rs ss = true) {c : Char}
    (hc : inRanges rs c = true) {s : CodeRange} (hs : s ∈ ss) :
    ¬ (s.first ≤ c.toNat ∧ c.toNat ≤ s.last) := by
  obtain ⟨r, hr, hfirst, hlast⟩ := inRanges_iff.mp hc
  have hrs := List.all_eq_true.mp (List.all_eq_true.mp h r hr) s hs
  simp only [Bool.or_eq_true, decide_eq_true_eq] at hrs
  omega

theorem inRanges_eq_false_of_apart {rs ss : List CodeRange} (h : apart rs ss = true) {c : Char}
    (hc : inRanges rs c = true) : inRanges ss c = false := by
  rw [Bool.eq_false_iff]
  intro hcs
  obtain ⟨s, hs, hbounds⟩ := inRanges_iff.mp hcs
  exact not_mem_of_apart h hc hs hbounds

def CaseRun.sources (r : CaseRun) : CodeRange := ⟨r.first, r.last⟩

/-- The small letters of a run, with all that lies between them. -/
def CaseRun.images (r : CaseRun) : CodeRange := ⟨r.image, r.image + (r.last - r.first)⟩

theorem CaseRun.covers_sources {r : CaseRun} {n : Nat} (h : r.covers n = true) :
    r.first ≤ n ∧ n ≤ r.last := by
  simp only [CaseRun.covers, Bool.and_eq_true, decide_eq_true_eq] at h
  exact h.1

theorem apart_capitals : apart markRanges (capitals.map CaseRun.sources) = true := by decide +kernel

theorem apart_images : apart markRanges (capitals.map CaseRun.images) = true := by decide +kernel

theorem apart_ignorable : apart markRanges caseIgnorableRanges = true := by decide +kernel

theorem apart_cased : apart markRanges casedRanges = true := by decide +kernel

/-- Among the first 128 characters, the marks are those that small letters cannot be told from. -/
theorem toLower_mark : ∀ n < 0x80,
    isMark (Char.ofNat n) = true ∨ isMark (Char.ofNat n).toLower = true →
      (Char.ofNat n).toLower = Char.ofNat n := by decide +kernel

/-! ## Small letters -/

theorem lowerChar_ne_nil (c : Char) : lowerChar c ≠ [] := by
  unfold lowerChar
  split_ifs
  · exact List.cons_ne_nil _ _
  · exact List.cons_ne_nil _ _
  · split <;> exact List.cons_ne_nil _ _

theorem lowerChar_of_isMark {c : Char} (h : isMark c = true) : lowerChar c = [c] := by
  unfold lowerChar
  split_ifs with hascii hdot
  · have hlower := toLower_mark c.toNat hascii
    rw [Char.ofNat_toNat] at hlower
    rw [hlower (Or.inl h)]
  · rw [hdot] at h
    exact absurd h (by decide)
  · split
    · next r hr =>
      have hcovers : r.covers c.toNat = true := by simpa using List.find?_some hr
      have hmem := List.mem_map_of_mem (f := CaseRun.sources) (List.mem_of_find?_eq_some hr)
      exact absurd (CaseRun.covers_sources hcovers) (not_mem_of_apart apart_capitals h hmem)
    · rfl

/-- The code point of a character that is made from a number. -/
theorem toNat_ofNat_cases (n : Nat) : (Char.ofNat n).toNat = n ∨ Char.ofNat n = '\x00' := by
  by_cases h : n.isValidChar
  · left
    rw [Char.ofNat, dif_pos h]
    rfl
  · right
    rw [Char.ofNat, dif_neg h]
    rfl

theorem eq_of_mem_lowerChar {c d : Char} (hd : isMark d = true) (h : d ∈ lowerChar c) : d = c := by
  unfold lowerChar at h
  split_ifs at h with hascii hdot
  · have hlower := toLower_mark c.toNat hascii
    rw [Char.ofNat_toNat] at hlower
    rw [List.mem_singleton] at h
    rw [h, hlower (Or.inr (h ▸ hd))]
  · have hletters : ['i', '\u0307'].all (!isMark ·) = true := by decide
    have hnone := List.all_eq_true.mp hletters d h
    rw [hd] at hnone
    cases hnone
  · split at h
    · next r hr =>
      have hcovers : r.covers c.toNat = true := by simpa using List.find?_some hr
      have hmem := List.mem_map_of_mem (f := CaseRun.images) (List.mem_of_find?_eq_some hr)
      have himage : r.image ≤ r.lower c.toNat ∧ r.lower c.toNat ≤ r.image + (r.last - r.first) := by
        have hbounds := CaseRun.covers_sources hcovers
        unfold CaseRun.lower
        omega
      rw [List.mem_singleton] at h
      subst h
      rcases toNat_ofNat_cases (r.lower c.toNat) with hcode | hzero
      · rw [← hcode] at himage
        exact absurd himage (not_mem_of_apart apart_images hd hmem)
      · rw [hzero] at hd
        exact absurd hd (by decide)
    · exact List.mem_singleton.mp h

/-! ## Texts -/

/-- What one character of a text becomes: something, with a mark only if it is that mark. -/
theorem lowerFrom_cons (before : List Char) (c : Char) (cs : List Char) :
    ∃ ls, lowerFrom before (c :: cs) = ls ++ lowerFrom (c :: before) cs ∧ ls ≠ [] ∧
      (∀ d ∈ ls, isMark d = true → d = c) ∧ (isMark c = true → ls = [c]) := by
  refine ⟨_, rfl, ?_⟩
  by_cases hsigma : c = 'Σ'
  · have hsigmas : ['Σ', 'ς', 'σ'].all (!isMark ·) = true := by decide
    have hmark : ∀ d ∈ ['Σ', 'ς', 'σ'], isMark d ≠ true := fun d hd => by
      simpa using List.all_eq_true.mp hsigmas d hd
    rw [if_pos hsigma]
    refine ⟨by split <;> exact List.cons_ne_nil _ _, fun d hd h => ?_, fun h => ?_⟩
    · refine absurd h (hmark d ?_)
      split_ifs at hd <;> simp_all
    · exact absurd h (hmark c (hsigma ▸ List.mem_cons_self))
  · rw [if_neg hsigma]
    exact ⟨lowerChar_ne_nil c, fun d hd h => eq_of_mem_lowerChar h hd, lowerChar_of_isMark⟩

theorem mem_of_mem_lowerFrom {d : Char} (hd : isMark d = true) :
    ∀ (before cs : List Char), d ∈ lowerFrom before cs → d ∈ cs
  | _, [], h => by simp [lowerFrom] at h
  | before, c :: cs, h => by
    obtain ⟨ls, heq, -, hmark, -⟩ := lowerFrom_cons before c cs
    rw [heq, List.mem_append] at h
    rcases h with h | h
    · rw [hmark d h hd]
      exact List.mem_cons_self
    · exact List.mem_cons_of_mem c (mem_of_mem_lowerFrom hd _ cs h)

/-- A lower-cased text starts with a mark exactly if the text does. -/
theorem head?_lowercase {d : Char} (hd : isMark d = true) (text : String) :
    (lowercase text).toList.head? = some d ↔ text.toList.head? = some d := by
  rw [lowercase, String.toList_ofList]
  cases text.toList with
  | nil => rfl
  | cons c cs =>
    obtain ⟨ls, heq, hne, hmark, hself⟩ := lowerFrom_cons [] c cs
    obtain ⟨l, rest, rfl⟩ := List.exists_cons_of_ne_nil hne
    rw [heq, List.cons_append, List.head?_cons, List.head?_cons, Option.some_inj, Option.some_inj]
    constructor
    · rintro rfl
      exact (hmark l List.mem_cons_self hd).symm
    · rintro rfl
      exact (List.cons.inj (hself hd)).1

/-! ## Words -/

section Blank
variable {b : Char} (hb : isBlank b = true)
include hb

theorem meetsCased_append_blank (xs ys : List Char) :
    meetsCased (xs ++ b :: ys) = meetsCased xs := by
  have hmark := isMark_of_isBlank hb
  have hignorable : isCaseIgnorable b = false := inRanges_eq_false_of_apart apart_ignorable hmark
  have hcased : isCased b = false := inRanges_eq_false_of_apart apart_cased hmark
  induction xs with
  | nil => simp [meetsCased, hignorable, hcased]
  | cons x xs ih =>
    unfold meetsCased at ih ⊢
    rw [List.cons_append, List.dropWhile_cons, List.dropWhile_cons]
    split_ifs
    · exact ih
    · rfl

theorem lowerFrom_blank_before (near far cs : List Char) :
    lowerFrom (near ++ b :: far) cs = lowerFrom near cs := by
  induction cs generalizing near with
  | nil => rfl
  | cons c cs ih =>
    rw [lowerFrom, lowerFrom, meetsCased_append_blank hb, ← List.cons_append, ih (c :: near)]

/-- A text is lower-cased on either side of a blank. -/
theorem lowerFrom_append_blank (before xs ys : List Char) :
    lowerFrom before (xs ++ b :: ys) = lowerFrom before xs ++ b :: lowerFrom [] ys := by
  induction xs generalizing before with
  | nil =>
    obtain ⟨ls, heq, -, -, hself⟩ := lowerFrom_cons before b ys
    have hbefore : lowerFrom (b :: before) ys = lowerFrom [] ys :=
      lowerFrom_blank_before hb [] before ys
    rw [List.nil_append, heq, hself (isMark_of_isBlank hb), hbefore]
    rfl
  | cons x xs ih =>
    rw [List.cons_append, lowerFrom, lowerFrom, meetsCased_append_blank hb, ih (x :: before),
      List.append_assoc]

end Blank

theorem runs_lowerFrom (cs : List Char) :
    runs isBlank (lowerFrom [] cs) = (runs isBlank cs).map (lowerFrom []) := by
  induction hlength : cs.length using Nat.strong_induction_on generalizing cs with
  | _ n ih =>
    by_cases hsome : ∃ b ∈ cs, isBlank b = true
    · obtain ⟨b, hmem, hb⟩ := hsome
      obtain ⟨xs, ys, rfl⟩ := List.append_of_mem hmem
      rw [List.length_append, List.length_cons] at hlength
      rw [lowerFrom_append_blank hb, runs_append_cons _ _ _ hb, runs_append_cons _ _ _ hb,
        List.map_append, ih xs.length (by omega) xs rfl, ih ys.length (by omega) ys rfl]
    · have hnone : ∀ c ∈ cs, isBlank c = false := fun c hc =>
        Bool.eq_false_iff.mpr fun hb => hsome ⟨c, hc, hb⟩
      cases cs with
      | nil => simp [lowerFrom, runs_nil]
      | cons c cs =>
        obtain ⟨ls, heq, hne, -⟩ := lowerFrom_cons [] c cs
        have hlower : ∀ d ∈ lowerFrom [] (c :: cs), isBlank d = false := fun d hd =>
          Bool.eq_false_iff.mpr fun hb =>
            hsome ⟨d, mem_of_mem_lowerFrom (isMark_of_isBlank hb) [] _ hd, hb⟩
        rw [runs_of_forall (List.cons_ne_nil c cs) hnone, runs_of_forall ?_ hlower]
        · rfl
        · rw [heq]
          exact List.append_ne_nil_of_left_ne_nil hne _

/-- The words of a lower-cased text are the words of the text, lower-cased. -/
theorem words_lowercase (text : String) : words (lowercase text) = (words text).map lowercase := by
  have hword : lowercase ∘ String.ofList = String.ofList ∘ lowerFrom [] := by
    funext cs
    simp [lowercase]
  rw [words, lowercase, String.toList_ofList, runs_lowerFrom, words, List.map_map, List.map_map,
    hword]

/-! ## Letters from A to Z -/

/-- The texts differ at most in the case of letters from A to Z, the ones that `Char.toLower` knows. -/
def SameLetters (s t : String) : Prop := s.toList.map Char.toLower = t.toList.map Char.toLower

instance (s t : String) : Decidable (SameLetters s t) :=
  inferInstanceAs (Decidable (s.toList.map Char.toLower = t.toList.map Char.toLower))

/-- Only the capitals from A to Z have a small letter that `Char.toLower` knows. -/
theorem toLower_cases (c : Char) : c.toLower = c ∨ ∃ n < 26, c = Char.ofNat (0x41 + n) := by
  by_cases hcapital : c.val ≥ 'A'.val ∧ c.val ≤ 'Z'.val
  · right
    have hfirst : 0x41 ≤ c.toNat := hcapital.1
    have hlast : c.toNat ≤ 0x5A := hcapital.2
    refine ⟨c.toNat - 0x41, by omega, ?_⟩
    rw [Nat.add_sub_cancel' hfirst, Char.ofNat_toNat]
  · exact Or.inl (dif_neg hcapital)

/-- What is the same for both cases of the letters from A to Z is the same for both cases of all. -/
theorem congr_toLower {α : Type} {f : Char → α}
    (h : ∀ n < 26, f (Char.ofNat (0x41 + n)).toLower = f (Char.ofNat (0x41 + n))) (c : Char) :
    f c.toLower = f c := by
  rcases toLower_cases c with hsame | ⟨n, hn, rfl⟩
  · rw [hsame]
  · exact h n hn

theorem isBlank_toLower : ∀ c : Char, isBlank c.toLower = isBlank c :=
  congr_toLower (by decide +kernel)

theorem isCased_toLower : ∀ c : Char, isCased c.toLower = isCased c :=
  congr_toLower (by decide +kernel)

def letterRanges : List CodeRange := [⟨0x41, 0x5A⟩, ⟨0x61, 0x7A⟩]

theorem apart_letters : apart letterRanges caseIgnorableRanges = true := by decide +kernel

theorem isCaseIgnorable_toLower : ∀ c : Char, isCaseIgnorable c.toLower = isCaseIgnorable c := by
  have hletters : ∀ n < 26, inRanges letterRanges (Char.ofNat (0x41 + n)) = true ∧
      inRanges letterRanges (Char.ofNat (0x41 + n)).toLower = true := by decide +kernel
  refine congr_toLower fun n hn => ?_
  obtain ⟨hcapital, hsmall⟩ := hletters n hn
  rw [isCaseIgnorable, isCaseIgnorable, inRanges_eq_false_of_apart apart_letters hcapital,
    inRanges_eq_false_of_apart apart_letters hsmall]

theorem lowerChar_toLower : ∀ c : Char, lowerChar c.toLower = lowerChar c :=
  congr_toLower (by decide +kernel)

theorem toLower_eq_sigma : ∀ c : Char, (c.toLower = 'Σ') = (c = 'Σ') :=
  congr_toLower (f := (· = 'Σ')) (by decide +kernel)

theorem meetsCased_map_toLower (cs : List Char) :
    meetsCased (cs.map Char.toLower) = meetsCased cs := by
  have hignorable : isCaseIgnorable ∘ Char.toLower = isCaseIgnorable :=
    funext isCaseIgnorable_toLower
  have hcased : isCased ∘ Char.toLower = isCased := funext isCased_toLower
  rw [meetsCased, List.dropWhile_map, hignorable, List.head?_map, Option.map_map, hcased, meetsCased]

theorem lowerFrom_map_toLower (before cs : List Char) :
    lowerFrom (before.map Char.toLower) (cs.map Char.toLower) = lowerFrom before cs := by
  induction cs generalizing before with
  | nil => rfl
  | cons c cs ih =>
    rw [List.map_cons, lowerFrom, lowerFrom, meetsCased_map_toLower, meetsCased_map_toLower,
      lowerChar_toLower, ← List.map_cons, ih (c :: before)]
    simp only [toLower_eq_sigma]

theorem trimStart_map_toLower (cs : List Char) :
    trimStart (cs.map Char.toLower) = (trimStart cs).map Char.toLower := by
  have hblank : isBlank ∘ Char.toLower = isBlank := funext isBlank_toLower
  rw [trimStart, List.dropWhile_map, hblank, trimStart]

theorem trimEnd_map_toLower (cs : List Char) :
    trimEnd (cs.map Char.toLower) = (trimEnd cs).map Char.toLower := by
  rw [trimEnd, ← List.map_reverse, trimStart_map_toLower, ← List.map_reverse, trimEnd]

/-- The case of the letters from A to Z is of no matter to a text that is trimmed and lower-cased. -/
theorem lowercase_trim_congr {s t : String} (h : SameLetters s t) :
    lowercase (trim s) = lowercase (trim t) := by
  have hlower : ∀ u : String, lowercase (trim u) =
      String.ofList (lowerFrom [] (trimEnd (trimStart (u.toList.map Char.toLower)))) := by
    intro u
    rw [trimStart_map_toLower, trimEnd_map_toLower, lowercase, trim, String.toList_ofList,
      ← lowerFrom_map_toLower [], List.map_nil]
  rw [hlower, hlower, h]

end MissionShell.Text
