import MissionShell.Binary64
import Mathlib.Algebra.Order.Field.Power
import Mathlib.Data.Rat.Floor
import Mathlib.Tactic.GCongr
import Mathlib.Tactic.Linarith
import Mathlib.Tactic.Ring

/-!
# Correct rounding

A double is an integer of 53 bits, scaled by a power of two. Rounding takes a number to a double that
none is nearer to; whatever way ties go, a number then never crosses a double, and one that is not
half way up to a double stays below it.

* `Binary64.IsDouble` : the doubles, far from the ends of their range;
* `Binary64.Rounds` : a double that is as near as any;
* `Binary64.Rounds.eq`, `Binary64.Rounds.le_of_le`, `Binary64.Rounds.lt_of_lt` : what follows from
  that;
* `Binary64.rounds_nearest` : the nearest double is one.
-/

namespace MissionShell.Binary64

/-- An integer of 53 bits, scaled by a power of two. -/
def IsDouble (x : Rat) : Prop := ∃ m k : Int, |m| < 2 ^ 53 ∧ x = m * 2 ^ k

theorem isDouble_intCast {m : Int} (h : |m| < 2 ^ 53) : IsDouble m :=
  ⟨m, 0, h, by rw [zpow_zero, mul_one]⟩

/-- The double `y` is as near to `x` as any double. -/
structure Rounds (x y : Rat) : Prop where
  isDouble : IsDouble y
  nearest : ∀ z, IsDouble z → |y - x| ≤ |z - x|

namespace Rounds
variable {x y : Rat} (h : Rounds x y)
include h

/-- Doubles are not rounded. -/
theorem eq (hx : IsDouble x) : y = x := by
  have hzero : |y - x| ≤ 0 := by simpa using h.nearest x hx
  exact sub_eq_zero.mp (abs_nonpos_iff.mp hzero)

/-- Rounding does not take a number below a double. -/
theorem le_of_le {a : Rat} (ha : IsDouble a) (hax : a ≤ x) : a ≤ y := by
  by_contra hya
  rw [not_le] at hya
  have hnear := h.nearest a ha
  rw [abs_of_neg (by linarith), abs_of_nonpos (by linarith)] at hnear
  linarith

/-- A number that is nearer to the double `a` than to `b` above it is not taken up to `b`. -/
theorem lt_of_lt {a b : Rat} (ha : IsDouble a) (hab : a < b) (hx : x < (a + b) / 2) : y < b := by
  by_contra hby
  rw [not_lt] at hby
  have hnear := h.nearest a ha
  rw [abs_of_nonneg (by linarith)] at hnear
  have hfar : |a - x| < b - x := by
    rw [abs_lt]
    constructor <;> linarith
  linarith

end Rounds

/-! ## The nearest integer -/

theorem halfEven_cases (x : Rat) :
    halfEven x = x.floor ∧ x - x.floor ≤ 1 / 2 ∨
      halfEven x = x.floor + 1 ∧ 1 / 2 ≤ x - x.floor := by
  unfold halfEven
  dsimp only
  split_ifs with hbelow habove heven
  · exact Or.inl ⟨rfl, hbelow.le⟩
  · exact Or.inr ⟨rfl, habove.le⟩
  · exact Or.inl ⟨rfl, not_lt.mp habove⟩
  · exact Or.inr ⟨rfl, not_lt.mp hbelow⟩

/-- No integer is nearer. -/
theorem abs_halfEven_sub_le (x : Rat) (n : Int) : |(halfEven x : Rat) - x| ≤ |(n : Rat) - x| := by
  have hfloor : (x.floor : Rat) ≤ x := Rat.floor_le x
  have hnext : x < x.floor + 1 := by simpa using Rat.lt_floor_add_one x
  have hapart : (n : Rat) ≤ x.floor ∨ (x.floor : Rat) + 1 ≤ n := by
    rcases Int.lt_or_le x.floor n with hlt | hle
    · exact Or.inr (by exact_mod_cast hlt)
    · exact Or.inl (by exact_mod_cast hle)
  have hhalf : |(halfEven x : Rat) - x| ≤ x - x.floor ∧ |(halfEven x : Rat) - x| ≤ x.floor + 1 - x := by
    rcases halfEven_cases x with ⟨heq, hx⟩ | ⟨heq, hx⟩
    · rw [heq, abs_of_nonpos (by linarith)]
      constructor <;> linarith
    · rw [heq, Int.cast_add, Int.cast_one, abs_of_nonneg (by linarith)]
      constructor <;> linarith
  rcases hapart with hn | hn
  · rw [abs_of_nonpos (by linarith : (n : Rat) - x ≤ 0)]
    linarith [hhalf.1]
  · rw [abs_of_nonneg (by linarith : (0 : Rat) ≤ n - x)]
    linarith [hhalf.2]

theorem le_halfEven {x : Rat} {n : Int} (h : (n : Rat) ≤ x) : n ≤ halfEven x := by
  have hfloor : n ≤ x.floor := Rat.le_floor_iff.mpr h
  rcases halfEven_cases x with ⟨heq, -⟩ | ⟨heq, -⟩ <;> omega

theorem halfEven_le {x : Rat} {n : Int} (h : x < n) : halfEven x ≤ n := by
  have hfloor : x.floor < n := Rat.floor_lt_iff.mpr h
  rcases halfEven_cases x with ⟨heq, -⟩ | ⟨heq, -⟩ <;> omega

/-! ## The nearest double -/

theorem zpow_log2_le {n : Nat} (h : n ≠ 0) : (2 : Rat) ^ (n.log2 : Int) ≤ n := by
  exact_mod_cast Nat.log2_self_le h

theorem lt_zpow_log2 (n : Nat) : (n : Rat) < 2 ^ ((n.log2 : Int) + 1) := by
  exact_mod_cast Nat.lt_log2_self (n := n)

theorem exponent_spec {x : Rat} (hx : 0 < x) :
    (2 : Rat) ^ exponent x ≤ x ∧ x < 2 ^ (exponent x + 1) := by
  have hnum : x.num.toNat ≠ 0 := by
    have hpos := Rat.num_pos.mpr hx
    omega
  have hden : (0 : Rat) < x.den := by exact_mod_cast x.den_pos
  have hquotient : x = (x.num.toNat : Rat) / x.den := by
    have hcast : ((x.num.toNat : Int) : Rat) = x.num :=
      congrArg Int.cast (Int.toNat_of_nonneg (Rat.num_pos.mpr hx).le)
    rw [← Int.cast_natCast, hcast, Rat.num_div_den]
  have hlower : (2 : Rat) ^ ((x.num.toNat.log2 : Int) - x.den.log2 - 1) ≤ x :=
    calc (2 : Rat) ^ ((x.num.toNat.log2 : Int) - x.den.log2 - 1)
        = 2 ^ (x.num.toNat.log2 : Int) / 2 ^ ((x.den.log2 : Int) + 1) := by
          rw [← zpow_sub₀ two_ne_zero, sub_sub]
      _ ≤ (x.num.toNat : Rat) / x.den :=
          div_le_div₀ (Nat.cast_nonneg _) (zpow_log2_le hnum) hden (lt_zpow_log2 x.den).le
      _ = x := hquotient.symm
  have hupper : x < (2 : Rat) ^ ((x.num.toNat.log2 : Int) - x.den.log2 + 1) :=
    calc x = (x.num.toNat : Rat) / x.den := hquotient
      _ < 2 ^ ((x.num.toNat.log2 : Int) + 1) / 2 ^ (x.den.log2 : Int) :=
          div_lt_div₀ (lt_zpow_log2 _) (zpow_log2_le x.den_nz) (zpow_pos two_pos _).le
            (zpow_pos two_pos _)
      _ = 2 ^ ((x.num.toNat.log2 : Int) - x.den.log2 + 1) := by
          rw [← zpow_sub₀ two_ne_zero]
          congr 1
          ring
  unfold exponent
  dsimp only
  split_ifs with h
  · exact ⟨h, hupper⟩
  · rw [sub_add_cancel]
    exact ⟨hlower, not_le.mp h⟩

/-- The distance between neighbouring doubles in the binade of `x`. -/
def spacing (x : Rat) : Rat := 2 ^ (exponent x - 52)

theorem spacing_pos (x : Rat) : 0 < spacing x := zpow_pos two_pos _

section Nearest
variable {x : Rat} (hx : 0 < x)
include hx

theorem nearest_eq : nearest x = halfEven (x / spacing x) * spacing x := by
  rw [nearest, if_neg (not_le.mpr hx), spacing]

/-- Counted in spacings, a number has 53 bits before the point. -/
theorem spacing_bounds : 2 ^ 52 ≤ x / spacing x ∧ x / spacing x < 2 ^ 53 := by
  obtain ⟨hlower, hupper⟩ := exponent_spec hx
  have hbinade : ∀ j : Nat, (2 : Rat) ^ j * spacing x = 2 ^ (exponent x + (j - 52)) := by
    intro j
    rw [spacing, ← zpow_natCast, ← zpow_add₀ two_ne_zero]
    congr 1
    ring
  rw [le_div_iff₀ (spacing_pos x), div_lt_iff₀ (spacing_pos x), hbinade 52, hbinade 53]
  norm_num
  exact ⟨hlower, hupper⟩

theorem isDouble_nearest : IsDouble (nearest x) := by
  obtain ⟨hlower, hupper⟩ := spacing_bounds hx
  have hge : 2 ^ 52 ≤ halfEven (x / spacing x) := le_halfEven (by exact_mod_cast hlower)
  have hle : halfEven (x / spacing x) ≤ 2 ^ 53 := halfEven_le (by exact_mod_cast hupper)
  rw [nearest_eq hx]
  rcases hle.lt_or_eq with hlt | heq
  · exact ⟨_, _, by rw [abs_of_nonneg (by omega)]; exact hlt, rfl⟩
  · -- rounded up to the next binade
    refine ⟨2 ^ 52, exponent x - 51, by norm_num, ?_⟩
    have hnext : (2 : Rat) ^ (exponent x - 51) = 2 * spacing x := by
      rw [spacing, ← zpow_one_add₀ two_ne_zero]
      congr 1
      ring
    rw [heq, hnext]
    push_cast
    ring

/-- No multiple of the spacing is nearer. -/
theorem abs_nearest_sub_le (n : Int) : |nearest x - x| ≤ |n * spacing x - x| := by
  have hscale : ∀ a : Rat, |a * spacing x - x| = |a - x / spacing x| * spacing x := by
    intro a
    rw [← abs_of_pos (spacing_pos x), ← abs_mul, abs_of_pos (spacing_pos x), sub_mul,
      div_mul_cancel₀ _ (spacing_pos x).ne']
  rw [nearest_eq hx, hscale, hscale]
  exact mul_le_mul_of_nonneg_right (abs_halfEven_sub_le _ n) (spacing_pos x).le

end Nearest

/-- Every double is a multiple of the spacing of `x` or lies below its binade. -/
theorem IsDouble.multiple_or_lt {z : Rat} (hz : IsDouble z) (x : Rat) :
    (∃ n : Int, z = n * spacing x) ∨ z < 2 ^ 52 * spacing x := by
  obtain ⟨m, k, hm, rfl⟩ := hz
  rcases le_or_gt (exponent x - 52) k with hk | hk
  · left
    obtain ⟨j, hj⟩ := Int.le.dest hk
    refine ⟨m * 2 ^ j, ?_⟩
    rw [← hj, zpow_add₀ two_ne_zero, zpow_natCast, spacing]
    push_cast
    ring
  · right
    have hpow : (2 : Rat) ^ (k + 1) ≤ spacing x := zpow_le_zpow_right₀ one_le_two (by omega)
    have hmlt : (m : Rat) < 2 ^ 53 := by exact_mod_cast (abs_lt.mp hm).2
    calc (m : Rat) * 2 ^ k < 2 ^ 53 * 2 ^ k := mul_lt_mul_of_pos_right hmlt (zpow_pos two_pos k)
      _ = 2 ^ 52 * 2 ^ (k + 1) := by rw [zpow_add_one₀ two_ne_zero]; ring
      _ ≤ 2 ^ 52 * spacing x := by gcongr

/-- **The nearest double is one that is as near as any.** -/
theorem rounds_nearest {x : Rat} (hx : 0 ≤ x) : Rounds x (nearest x) := by
  rcases hx.eq_or_lt with rfl | hpos
  · have hzero : nearest 0 = 0 := rfl
    rw [hzero]
    exact ⟨⟨0, 0, by norm_num, by norm_num⟩, fun z _ => by simp⟩
  refine ⟨isDouble_nearest hpos, fun z hz => ?_⟩
  rcases hz.multiple_or_lt x with ⟨n, rfl⟩ | hbelow
  · exact abs_nearest_sub_le hpos n
  · -- the least double of the binade stands between `z` and `x`
    have hleast : 2 ^ 52 * spacing x ≤ x :=
      (le_div_iff₀ (spacing_pos x)).mp (spacing_bounds hpos).1
    have hcast : ((2 ^ 52 : Int) : Rat) = 2 ^ 52 := by norm_num
    have hnear := abs_nearest_sub_le hpos (2 ^ 52)
    rw [hcast] at hnear
    rw [abs_of_nonpos (by linarith : (2 : Rat) ^ 52 * spacing x - x ≤ 0)] at hnear
    rw [abs_of_nonpos (by linarith : z - x ≤ 0)]
    linarith

theorem halfUp_eq_iff {x : Rat} {m : Int} :
    halfUp x = m ↔ (m : Rat) - 1 / 2 ≤ x ∧ x < m + 1 / 2 := by
  have hlower : m ≤ halfUp x ↔ (m : Rat) - 1 / 2 ≤ x := by
    rw [halfUp, Rat.le_floor_iff, sub_le_iff_le_add]
  have hupper : halfUp x < m + 1 ↔ x < m + 1 / 2 := by
    rw [halfUp, Rat.floor_lt_iff, ← sub_pos, ← sub_pos (b := x)]
    push_cast
    ring_nf
  rw [← hlower, ← hupper]
  omega

end MissionShell.Binary64
