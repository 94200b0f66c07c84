import MissionShell.Text.Blank
import MissionShell.Text.Digits
import Mathlib.Algebra.Group.Nat.Defs

/-!
# Numbers and their digits

In base ten a number is read from digits and from nothing else. It is the one that the digits make,
whatever zeros stand first. In base sixteen a number is read from the digits it is written in.

* `Text.Denotes` : digits, and the number that they make;
* `Text.digitValue?_ten` : the digits of base ten;
* `Text.number?_eq_some_iff` : the texts that are read, and as which number;
* `Text.denotes_toString` : a number as it is written, behind any zeros;
* `Text.number?_hexFixed` : the last digits of a number in base sixteen, read back.
-/

namespace MissionShell.Text

/-! ## Base ten -/

/-- The text consists of one or more digits from `0` to `9`, which make `n` in base ten. -/
structure Denotes (digits : String) (n : Nat) : Prop where
  ne_empty : digits ≠ ""
  isDigit : ∀ c ∈ digits.toList, c.isDigit = true
  value : Nat.ofDigitChars 10 digits.toList 0 = n

theorem isDigit_iff_between {c : Char} : c.isDigit = true ↔ ('0' ≤ c && c ≤ '9') = true := by
  simp [Char.isDigit, Char.le_def]

theorem isBlank_of_isDigit {c : Char} (h : c.isDigit = true) : isBlank c = false := by
  have hbounds := Char.isDigit_iff_toNat.mp h
  simp only [Char.reduceToNat] at hbounds
  simp [isBlank]
  omega

theorem digitValue?_ten (c : Char) :
    digitValue? 10 c = if c.isDigit then some (c.toNat - '0'.toNat) else none := by
  unfold digitValue? hexValue?
  by_cases hc : c.isDigit = true
  · have hvalue : c.toNat - '0'.toNat < 10 := by
      have hle := (Char.isDigit_iff_toNat.mp hc).2
      simp only [Char.reduceToNat] at hle ⊢
      omega
    rw [if_pos (isDigit_iff_between.mp hc), if_pos hc, Option.filter_some_pos (by simpa using hvalue)]
  · rw [if_neg (mt isDigit_iff_between.mpr hc), if_neg hc]
    -- The letters are worth ten or more.
    split
    · simp
    · split
      · simp
      · rfl

theorem numberFrom?_eq_some_iff {n m : Nat} {cs : List Char} :
    numberFrom? 10 n cs = some m ↔
      (∀ c ∈ cs, c.isDigit = true) ∧ Nat.ofDigitChars 10 cs n = m := by
  induction cs generalizing n with
  | nil => simp [numberFrom?]
  | cons c cs ih =>
    rw [numberFrom?, digitValue?_ten, Nat.ofDigitChars_cons, List.forall_mem_cons]
    by_cases hc : c.isDigit = true
    · rw [if_pos hc, Option.bind_some, ih, Nat.mul_comm]
      simp only [hc, true_and]
    · simp [hc]

/-- A number is read from digits, and from digits alone. -/
theorem number?_eq_some_iff {digits : String} {n : Nat} :
    number? 10 digits.toList = some n ↔ Denotes digits n := by
  unfold number?
  split
  · next hempty =>
    have hdigits : digits = "" := String.toList_eq_nil_iff.mp (List.isEmpty_iff.mp hempty)
    constructor
    · intro h
      cases h
    · intro h
      exact absurd hdigits h.ne_empty
  · next hempty =>
    have hne : digits ≠ "" := fun h => hempty (by rw [h]; rfl)
    rw [numberFrom?_eq_some_iff]
    exact ⟨fun ⟨hdigit, hvalue⟩ => ⟨hne, hdigit, hvalue⟩, fun h => ⟨h.isDigit, h.value⟩⟩

/-- Zeros before a number do not change it. -/
theorem denotes_toString (zeros n : Nat) :
    Denotes (String.ofList (List.replicate zeros '0') ++ toString n) n := by
  have hlist : (String.ofList (List.replicate zeros '0') ++ toString n).toList =
      List.replicate zeros '0' ++ Nat.toDigits 10 n := by
    rw [String.toList_append, String.toList_ofList, Nat.toString_eq_ofList_toDigits, String.toList_ofList]
  refine ⟨?_, ?_, ?_⟩
  · intro hempty
    rw [hempty] at hlist
    exact Nat.toDigits_ne_nil (List.append_eq_nil_iff.mp hlist.symm).2
  · intro c hc
    rw [hlist] at hc
    rcases List.mem_append.mp hc with hzero | hdigit
    · rw [List.eq_of_mem_replicate hzero]
      rfl
    · exact Nat.isDigit_of_mem_toDigits (by decide) (by decide) hdigit
  · rw [hlist, Nat.ofDigitChars_append, Nat.ofDigitChars_replicate_zero, Nat.mul_zero,
      Nat.ofDigitChars_ten_toDigits]

/-! ## Base sixteen -/

theorem digitValue?_hexDigit {d : Nat} (h : d < 16) : digitValue? 16 (hexDigit d) = some d := by
  have hall : ∀ d < 16, digitValue? 16 (hexDigit d) = some d := by decide
  exact hall d h

@[simp] theorem length_hexFixed (width n : Nat) : (hexFixed width n).length = width := by
  induction width generalizing n with
  | zero => rfl
  | succ width ih => simp [hexFixed, ih]

theorem exists_of_mem_hexFixed {width n : Nat} {c : Char} (h : c ∈ hexFixed width n) :
    ∃ d < 16, c = hexDigit d := by
  induction width generalizing n with
  | zero => cases h
  | succ width ih =>
    rw [hexFixed, List.mem_append, List.mem_singleton] at h
    rcases h with h | rfl
    · exact ih h
    · exact ⟨n % 16, Nat.mod_lt _ (by decide), rfl⟩

theorem numberFrom?_append {base n : Nat} (xs ys : List Char) :
    numberFrom? base n (xs ++ ys) =
      (numberFrom? base n xs).bind fun m => numberFrom? base m ys := by
  induction xs generalizing n with
  | nil => rfl
  | cons x xs ih =>
    rw [List.cons_append, numberFrom?, numberFrom?]
    cases digitValue? base x with
    | none => rfl
    | some d => exact ih

theorem numberFrom?_hexFixed (m width n : Nat) :
    numberFrom? 16 m (hexFixed width n) = some (m * 16 ^ width + n % 16 ^ width) := by
  induction width generalizing n with
  | zero => simp [hexFixed, numberFrom?, Nat.mod_one]
  | succ width ih =>
    have hlast : digitValue? 16 (hexDigit (n % 16)) = some (n % 16) :=
      digitValue?_hexDigit (Nat.mod_lt _ (by decide))
    have hsplit : n % 16 ^ (width + 1) = n % 16 + 16 * (n / 16 % 16 ^ width) := by
      rw [Nat.pow_succ', Nat.mod_mul]
    rw [hexFixed, numberFrom?_append, ih, Option.bind_some, numberFrom?, hlast, Option.bind_some,
      numberFrom?, hsplit, Nat.pow_succ, ← Nat.mul_assoc]
    congr 1
    omega

/-- The last digits of a number make what remains of it. -/
theorem number?_hexFixed {width : Nat} (hwidth : 0 < width) (n : Nat) :
    number? 16 (hexFixed width n) = some (n % 16 ^ width) := by
  have hne : hexFixed width n ≠ [] := List.ne_nil_of_length_pos (by simpa using hwidth)
  rw [number?, if_neg (by simpa using hne), numberFrom?_hexFixed, Nat.zero_mul, Nat.zero_add]

end MissionShell.Text
