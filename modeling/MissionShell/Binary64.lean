/-!
# Rounding to binary64

The arithmetic of double-precision numbers that are not negative, far from the ends of their range:
an operation is carried out on the rationals and its result is taken to the nearest number with a
significand of 53 bits, a tie to the even significand.

* `Binary64.halfEven` : the nearest integer, ties to even;
* `Binary64.exponent` : the power of two at or below a positive rational;
* `Binary64.nearest` : the nearest double;
* `Binary64.halfUp` : the nearest integer, ties upwards.
-/

namespace MissionShell.Binary64

def halfEven (x : Rat) : Int :=
  let below := x.floor
  if x - below < 1 / 2 then below
  else if 1 / 2 < x - below then below + 1
  else if below % 2 = 0 then below else below + 1

def halfUp (x : Rat) : Int := (x + 1 / 2).floor

/-- The exponent `k` with `2 ^ k ≤ x < 2 ^ (k + 1)`, for a positive `x`. -/
def exponent (x : Rat) : Int :=
  let k : Int := (x.num.toNat.log2 : Int) - (x.den.log2 : Int)
  if (2 : Rat) ^ k ≤ x then k else k - 1

/-- The double nearest to `x`, which is taken to be zero if it is not positive. -/
def nearest (x : Rat) : Rat :=
  if x ≤ 0 then 0
  else
    let unit := (2 : Rat) ^ (exponent x - 52)
    (halfEven (x / unit) : Rat) * unit

end MissionShell.Binary64
