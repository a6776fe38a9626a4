import RecordEngine.Binary64.Rounding
/-!
Doubles as decimal text and back.

Writing takes the fewest significant digits that still read back as the same number; of two such
decimals the nearer one, and an exact tie is for the layout to settle. `DecimalLayout` holds what
the formats decide for themselves. Reading is the other way about: `ofDecimal` scales a
significand of at most 64 bits by a power of ten in floating point, one rounding a step.
-/

set_option autoImplicit false

namespace RecordEngine

/-- Which way the last digit goes when two shortest decimals are equally near. -/
inductive Tie where
  | toEven
  | up
  deriving DecidableEq, Repr

namespace Binary64

/-- The fraction `num / den` scaled by `10 ^ -k`. -/
def scaleByTen (num den : Nat) (k : Int) : Nat × Nat :=
  if 0 ≤ k then (num, den * Nat.pow 10 k.toNat) else (num * Nat.pow 10 (-k).toNat, den)

/-- The greatest `p` with `10 ^ p ≤ num / den`, found near `start` by walking at most `fuel`
steps up. -/
def decimalExponent (num den : Nat) (start : Int) : Nat → Int
  | 0 => start
  | fuel + 1 =>
    let (n, d) := scaleByTen num den (start + 1)
    if d ≤ n then decimalExponent num den (start + 1) fuel else start

/-- Whether `c · 10 ^ k` lies among the reals that round to `x`, the ends included when the
significand is even. With `x = m · 2 ^ e` these reach from `m - 1/2` to `m + 1/2` units, but only
from `m - 1/4` where the next smaller binade begins. -/
def readsBack (x : Binary64) (c : Nat) (k : Int) : Bool :=
  let m := x.significand
  let low := if x.fraction = 0 ∧ 1 < x.exponentField then 4 * m - 1 else 4 * m - 2
  let high := 4 * m + 2
  -- quarters of a unit on both sides of the comparison
  let cn := if 0 ≤ k then c * Nat.pow 10 k.toNat else c
  let cd := if 0 ≤ k then 1 else Nat.pow 10 (-k).toNat
  let en := if 0 ≤ x.exponent then Nat.pow 2 x.exponent.toNat else 1
  let ed := if 0 ≤ x.exponent then 1 else Nat.pow 2 (-x.exponent).toNat
  let here := 4 * cn * ed
  let unit := en * cd
  if m % 2 = 0 then low * unit ≤ here && here ≤ high * unit
  else low * unit < here && here < high * unit

/-- The better of the two neighbours of `num / den` on the grid of step `10 ^ k`, if either reads
back as `x`. -/
def onGrid (tie : Tie) (x : Binary64) (num den : Nat) (k : Int) : Option Nat :=
  let (n, d) := scaleByTen num den k
  let floor := n / d
  let twice := 2 * (n % d)
  match readsBack x floor k, readsBack x (floor + 1) k with
  | true, true =>
    some <| if twice < d then floor
      else if d < twice then floor + 1
      else match tie with
        | .toEven => if floor % 2 = 0 then floor else floor + 1
        | .up => floor + 1
  | true, false => some floor
  | false, true => some (floor + 1)
  | false, false => none

/-- The first hit among the grids of `digits`, `digits + 1`, … significant digits, as many as
`fuel` grids; seventeen digits always hit. -/
def firstGrid (tie : Tie) (x : Binary64) (num den : Nat) (p : Int) (digits : Nat) :
    Nat → Nat × Int
  | 0 => (0, 0)
  | fuel + 1 =>
    let k := p - digits + 1
    match onGrid tie x num den k with
    | some c => (c, k)
    | none => firstGrid tie x num den p (digits + 1) fuel

/-- `c · 10 ^ k` with the trailing zeros of `c` moved into the exponent. -/
def trimZeros (c : Nat) (k : Int) : Nat → Nat × Int
  | 0 => (c, k)
  | fuel + 1 => if c ≠ 0 ∧ c % 10 = 0 then trimZeros (c / 10) (k + 1) fuel else (c, k)

/-- The shortest decimal `c · 10 ^ k` that reads back as the finite magnitude of `x`. -/
def shortest (tie : Tie) (x : Binary64) : Nat × Int :=
  if x.significand = 0 then (0, 0)
  else
    let (num, den) := x.ratio
    -- log₁₀ 2 is a little more than 30102/100000, so this starts at or just below the answer
    let binary : Int := (num.log2 : Int) - (den.log2 : Int) - 1
    let start : Int := (binary * 30103).fdiv 100000 - 1
    let p := decimalExponent num den start 4
    let (c, k) := firstGrid tie x num den p 1 17
    trimZeros c k 17

end Binary64

/-- What a text format decides about a decimal: where positional notation ends, how whole numbers
and exponents look, which way ties go, and the words for the values that have no digits. -/
structure DecimalLayout where
  /-- Decimal exponents written positionally; `none` for all of them. -/
  positional : Option (Int × Int)
  /-- Whether a whole number in positional notation keeps a `.0`. -/
  keepsPoint : Bool
  tie : Tie
  nan : String
  infinity : String
  negativeInfinity : String

namespace DecimalLayout

/-- A decimal exponent with its sign, never padded. -/
def exponentText (e : Int) : String :=
  (if e < 0 then "e-" else "e+") ++ toString e.natAbs

/-- The digits `ds`, scaled by `10 ^ k`, without an exponent. -/
def positionalText (layout : DecimalLayout) (ds : List Char) (k : Int) : String :=
  let point : Int := ds.length + k
  if 0 ≤ k then
    String.ofList (ds ++ List.replicate k.toNat '0') ++ (if layout.keepsPoint then ".0" else "")
  else if 0 < point then
    String.ofList (ds.take point.toNat ++ '.' :: ds.drop point.toNat)
  else
    String.ofList ('0' :: '.' :: (List.replicate (-point).toNat '0' ++ ds))

/-- The digits `ds`, scaled by `10 ^ k`, with one digit before the point. -/
def scientificText (ds : List Char) (k : Int) : String :=
  let e : Int := ds.length + k - 1
  match ds with
  | [] => ""
  | [d] => String.ofList [d] ++ exponentText e
  | d :: rest => String.ofList (d :: '.' :: rest) ++ exponentText e

/-- A double as the layout writes it. -/
def write (layout : DecimalLayout) (x : Binary64) : String :=
  if x.isNaN then layout.nan
  else if x.isInfinite then if x.negative then layout.negativeInfinity else layout.infinity
  else
    let (c, k) := x.shortest layout.tie
    let ds := Nat.toDigits 10 c
    let e : Int := ds.length + k - 1
    let inside := match layout.positional with
      | none => true
      | some (low, high) => c = 0 || (low ≤ e && e ≤ high)
    (if x.negative then "-" else "") ++
      (if inside then layout.positionalText ds k else scientificText ds k)

/-- Plain decimals at any size, whole numbers without a point. -/
def plain : DecimalLayout where
  positional := none
  keepsPoint := false
  tie := .up
  nan := "NaN"
  infinity := "inf"
  negativeInfinity := "-inf"

/-- Documents: positional from `1e-5` up to below `1e16`, always with a point or an exponent; what
is no number is null. -/
def document : DecimalLayout where
  positional := some (-5, 15)
  keepsPoint := true
  tie := .toEven
  nan := "null"
  infinity := "null"
  negativeInfinity := "null"

end DecimalLayout

namespace Binary64

/-- The powers of ten are doubles up to this one. -/
def greatestTenPower : Nat := 308

/-- The double nearest to `10 ^ k`. -/
def tenPower (k : Nat) : Binary64 := roundRatio false (Nat.pow 10 k) 1

/-- `f · 10 ^ e` in floating point: one product upward, and downward one quotient for each 308
decades, of which `fuel` bounds the number. Past the greatest double there is no value. -/
def scaleDecimal (f : Binary64) (e : Int) : Nat → Option Binary64
  | 0 => some f
  | fuel + 1 =>
    if e.natAbs ≤ greatestTenPower then
      if 0 ≤ e then
        let product := mulMagnitude f (tenPower e.toNat)
        if product.isInfinite then none else some product
      else some (divMagnitude f (tenPower e.natAbs))
    else if f.isZero then some f
    else if 0 ≤ e then none
    else scaleDecimal (divMagnitude f (tenPower greatestTenPower)) (e + greatestTenPower) fuel

/-- The double that a significand below `2 ^ 64` and a power of ten read as. -/
def ofDecimal (negative : Bool) (significand : Nat) (e : Int) : Option Binary64 :=
  let f := roundRatio false significand 1
  -- after three quotients of 308 decades nothing is left of a 64-bit significand
  (scaleDecimal f e 4).map fun x => if negative then x.negate else x

end Binary64

end RecordEngine
