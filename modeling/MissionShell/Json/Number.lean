import MissionShell.Binary64
import MissionShell.Text.Digits

/-!
# JSON numbers

* `JsonNumber.read?` : reads a number without its sign from the front of a text;
* `JsonNumber.coefficient`, `JsonNumber.scale` : its value as a coefficient below `2 ^ 64` times a
  power of ten, digits that do not fit being dropped;
* `JsonNumber.fits` : whether that value has a double.
-/

namespace MissionShell

structure JsonNumber where
  whole : List Nat
  fraction : List Nat
  exponent : Int

namespace JsonNumber

/-! ## Reading -/

def isDigit (c : Char) : Bool := '0' ≤ c && c ≤ '9'

def digits (cs : List Char) : List Nat :=
  (cs.takeWhile isDigit).map fun c => c.toNat - '0'.toNat

def afterDigits (cs : List Char) : List Char := cs.dropWhile isDigit

def readDigits? (cs : List Char) : Option (List Nat × List Char) :=
  if (digits cs).isEmpty then none else some (digits cs, afterDigits cs)

/-- Reads the digits before the point: zero stands alone. -/
def readWhole? (cs : List Char) : Option (List Nat × List Char) :=
  (readDigits? cs).filter fun r => r.1.head? ≠ some 0 || r.1.length = 1

def readFraction? : List Char → Option (List Nat × List Char)
  | '.' :: cs => readDigits? cs
  | cs => some ([], cs)

def readPower? (negative : Bool) (cs : List Char) : Option (Int × List Char) :=
  (readDigits? cs).map fun (ds, rest) =>
    let n : Nat := ds.foldl (fun n d => n * 10 + d) 0
    (if negative then -(n : Int) else n, rest)

def readExponent? : List Char → Option (Int × List Char)
  | c :: cs =>
    if c = 'e' || c = 'E' then
      match cs with
      | '+' :: rest => readPower? false rest
      | '-' :: rest => readPower? true rest
      | rest => readPower? false rest
    else some (0, c :: cs)
  | [] => some (0, [])

def read? (cs : List Char) : Option (JsonNumber × List Char) :=
  (readWhole? cs).bind fun (whole, cs) =>
    (readFraction? cs).bind fun (fraction, cs) =>
      (readExponent? cs).map fun (exponent, cs) => (⟨whole, fraction, exponent⟩, cs)

/-! ## Size -/

/-- Appends digits to `n` while the result stays below `2 ^ 64`. The second part of the answer
counts the digits that were appended. -/
def absorb (n : Nat) : List Nat → Nat × Nat
  | [] => (n, 0)
  | d :: ds =>
    if n * 10 + d < UInt64.size then ((absorb (n * 10 + d) ds).1, (absorb (n * 10 + d) ds).2 + 1)
    else (n, 0)

def coefficient (x : JsonNumber) : Nat := (absorb (absorb 0 x.whole).1 x.fraction).1

def scale (x : JsonNumber) : Int :=
  let kept := absorb 0 x.whole
  ((x.whole.length - kept.2 : Nat) : Int) - ((absorb kept.1 x.fraction).2 : Int) + x.exponent

/-- Whether the value is below the range's end `2 ^ 1024` when coefficient, power and product are
each taken to the nearest double. Powers above the greatest that has a double do not fit. -/
def fits (x : JsonNumber) : Bool :=
  x.coefficient = 0 || x.scale ≤ 0 ||
    (x.scale ≤ 308 &&
      let power : Nat := Nat.pow 10 x.scale.toNat
      Binary64.nearest (Binary64.nearest x.coefficient * Binary64.nearest power) <
        (Nat.pow 2 1024 : Nat))

/-! ## Lengths -/

theorem length_afterDigits_le (cs : List Char) : (afterDigits cs).length ≤ cs.length :=
  (List.dropWhile_suffix isDigit).length_le

theorem length_of_readDigits? {cs rest : List Char} {ds : List Nat}
    (h : readDigits? cs = some (ds, rest)) : rest.length < cs.length := by
  unfold readDigits? at h
  split at h
  · exact absurd h (by simp)
  · next hne =>
    simp only [Option.some.injEq, Prod.mk.injEq] at h
    obtain ⟨-, rfl⟩ := h
    cases cs with
    | nil => exact absurd rfl hne
    | cons c cs =>
      by_cases hc : isDigit c = true
      · rw [afterDigits, List.dropWhile_cons_of_pos hc]
        exact Nat.lt_succ_of_le (length_afterDigits_le cs)
      · exact absurd (by simp [digits, List.takeWhile_cons_of_neg hc]) hne

theorem length_of_readFraction? {cs rest : List Char} {ds : List Nat}
    (h : readFraction? cs = some (ds, rest)) : rest.length ≤ cs.length := by
  unfold readFraction? at h
  split at h
  · exact Nat.le_succ_of_le (Nat.le_of_lt (length_of_readDigits? h))
  · simp only [Option.some.injEq, Prod.mk.injEq] at h
    exact Nat.le_of_eq (congrArg List.length h.2.symm)

theorem length_of_readPower? {negative : Bool} {cs rest : List Char} {n : Int}
    (h : readPower? negative cs = some (n, rest)) : rest.length < cs.length := by
  unfold readPower? at h
  obtain ⟨⟨ds, r⟩, hr, he⟩ := Option.map_eq_some_iff.1 h
  simp only [Prod.mk.injEq] at he
  obtain ⟨-, rfl⟩ := he
  exact length_of_readDigits? hr

theorem length_of_readExponent? {cs rest : List Char} {n : Int}
    (h : readExponent? cs = some (n, rest)) : rest.length ≤ cs.length := by
  unfold readExponent? at h
  split at h
  · split at h
    · split at h
      · have := length_of_readPower? h
        simp only [List.length_cons]; omega
      · have := length_of_readPower? h
        simp only [List.length_cons]; omega
      · have := length_of_readPower? h
        simp only [List.length_cons]; omega
    · simp only [Option.some.injEq, Prod.mk.injEq] at h
      exact Nat.le_of_eq (congrArg List.length h.2.symm)
  · simp only [Option.some.injEq, Prod.mk.injEq] at h
    exact Nat.le_of_eq (congrArg List.length h.2.symm)

/-- Reading a number takes at least one character. -/
theorem length_of_read? {cs rest : List Char} {x : JsonNumber} (h : read? cs = some (x, rest)) :
    rest.length < cs.length := by
  simp only [read?, Option.bind_eq_some_iff, Option.map_eq_some_iff, Prod.exists,
    Prod.mk.injEq] at h
  obtain ⟨whole, r₁, h₁, fraction, r₂, h₂, exponent, r₃, h₃, he⟩ := h
  have h₁' := length_of_readDigits? (Option.eq_some_of_filter_eq_some h₁)
  have h₂' := length_of_readFraction? h₂
  have h₃' := length_of_readExponent? h₃
  rw [← he.2]
  omega

end JsonNumber

end MissionShell
