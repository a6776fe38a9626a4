import RecordEngine.Binary64.Basic
/-!
The double nearest to a fraction, a tie going to the even significand.

`roundRatio` works on a numerator and a denominator in `Nat`, so a conversion, a product and a
quotient of doubles are each one exact fraction rounded once.
-/

set_option autoImplicit false

namespace RecordEngine

/-- `num / den` to the nearest whole number, a half to the even neighbour. -/
def roundHalfEven (num den : Nat) : Nat :=
  let q := num / den
  let r := num % den
  if den < 2 * r ∨ (2 * r = den ∧ q % 2 = 1) then q + 1 else q

namespace Binary64

/-- The pair `num / den` divided by `2 ^ e`, still as a fraction. -/
def scaleDown (num den : Nat) (e : Int) : Nat × Nat :=
  if 0 ≤ e then (num, den * Nat.pow 2 e.toNat) else (num * Nat.pow 2 (-e).toNat, den)

/-- The exponent under which `num / den` has a significand of fifty-three bits; never less than
that of the subnormal numbers. -/
def scaleOf (num den : Nat) : Int :=
  let guess : Int := (num.log2 : Int) - (den.log2 : Int) - 52
  let (n, d) := scaleDown num den guess
  max (-1074) (if n / d < exponentWeight then guess - 1 else guess)

/-- The magnitude `m · 2 ^ e`, for `m ≤ 2 ^ 53` and a normal significand or the least exponent;
past the greatest double it is the infinity. A significand of `2 ^ 53` carries into the exponent
field by itself. -/
def assemble (negative : Bool) (m : Nat) (e : Int) : Binary64 :=
  let magnitude := (e + 1074).toNat * exponentWeight + m
  if 2047 * exponentWeight ≤ magnitude then infinity negative
  else ⟨UInt64.ofNat ((if negative then signWeight else 0) + magnitude)⟩

/-- The double nearest to `num / den`, of the given sign. -/
def roundRatio (negative : Bool) (num den : Nat) : Binary64 :=
  if num = 0 then zero negative
  else
    let e := scaleOf num den
    let (n, d) := scaleDown num den e
    assemble negative (roundHalfEven n d) e

/-- The double nearest to a whole number. -/
def ofInt (n : Int) : Binary64 := roundRatio (n < 0) n.natAbs 1

/-- The magnitude of a finite number as a fraction. -/
def ratio (x : Binary64) : Nat × Nat :=
  if 0 ≤ x.exponent then (x.significand * Nat.pow 2 x.exponent.toNat, 1)
  else (x.significand, Nat.pow 2 (-x.exponent).toNat)

/-- The rounded product of two finite magnitudes. -/
def mulMagnitude (x y : Binary64) : Binary64 :=
  let (a, b) := x.ratio
  let (c, d) := y.ratio
  roundRatio false (a * c) (b * d)

/-- The rounded quotient of two finite magnitudes, the second not zero. -/
def divMagnitude (x y : Binary64) : Binary64 :=
  let (a, b) := x.ratio
  let (c, d) := y.ratio
  roundRatio false (a * d) (b * c)

/-- The same magnitude under the other sign. -/
def negate (x : Binary64) : Binary64 := ⟨x.bits ^^^ 0x8000000000000000⟩

end Binary64

end RecordEngine
