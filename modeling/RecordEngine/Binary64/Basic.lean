/-!
Double-precision numbers, kept as their 64 bits.

A record stores a number exactly as it was given, payload of a NaN and sign of a zero
included, so the bits are the datum and everything else here is read off them in `Nat`
arithmetic. `agrees` is the comparison that decides whether a field changed: it is the numeric
one, completed so that a NaN agrees with every NaN. `hashKey` is what a hash is fed; it
identifies the NaNs but keeps the two zeros apart.
-/

set_option autoImplicit false

namespace RecordEngine

/-- A double, as its 64 bits: sign, eleven bits of exponent, fifty-two bits of fraction. -/
structure Binary64 where
  bits : UInt64
  deriving DecidableEq, Repr

namespace Binary64

/-- The bits as a number, whose digits in base two are the three fields. -/
def word (x : Binary64) : Nat := x.bits.toNat

/-- The weight of the sign bit. -/
def signWeight : Nat := Nat.pow 2 63

/-- The weight of the exponent field, and the bound of the fraction field. -/
def exponentWeight : Nat := Nat.pow 2 52

/-- The bound of the exponent field. -/
def exponentBound : Nat := 2048

/-- Set in negative numbers, in the negative zero and in half of the NaNs. -/
def negative (x : Binary64) : Bool := signWeight ≤ x.word

/-- The exponent field: 0 for zeros and subnormal numbers, 2047 for infinities and NaNs. -/
def exponentField (x : Binary64) : Nat := x.word / exponentWeight % exponentBound

/-- The fraction field. -/
def fraction (x : Binary64) : Nat := x.word % exponentWeight

def isNaN (x : Binary64) : Bool := x.exponentField == 2047 && x.fraction != 0

def isInfinite (x : Binary64) : Bool := x.exponentField == 2047 && x.fraction == 0

def isZero (x : Binary64) : Bool := x.word % signWeight == 0

/-- The quiet NaN that stands for all of them where only one is wanted. -/
def nan : Binary64 := ⟨0x7ff8000000000000⟩

/-- The infinity of the given sign. -/
def infinity (negative : Bool) : Binary64 :=
  ⟨UInt64.ofNat ((if negative then signWeight else 0) + 2047 * exponentWeight)⟩

/-- The zero of the given sign. -/
def zero (negative : Bool) : Binary64 := ⟨if negative then 0x8000000000000000 else 0⟩

/-- The whole number `m` in `m · 2 ^ exponent`, the magnitude of a finite number. -/
def significand (x : Binary64) : Nat :=
  if x.exponentField = 0 then x.fraction else exponentWeight + x.fraction

/-- The power of two that scales `significand`. -/
def exponent (x : Binary64) : Int :=
  if x.exponentField = 0 then -1074 else (x.exponentField : Int) - 1075

/-- Numeric equality: a NaN equals nothing, and the two zeros equal each other. -/
def numericEq (x y : Binary64) : Bool :=
  !x.isNaN && !y.isNaN && (x.bits == y.bits || x.isZero && y.isZero)

/-- Numeric equality, with all NaNs taken for one more number. -/
def agrees (x y : Binary64) : Bool :=
  x.isNaN && y.isNaN || x.numericEq y

/-- The bits a hash is fed: one pattern for every NaN, and for any other number its own. -/
def hashKey (x : Binary64) : UInt64 := if x.isNaN then nan.bits else x.bits

end Binary64

end RecordEngine
