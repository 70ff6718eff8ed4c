/-!
# Double precision numbers

A number of sixty-four bits in the binary interchange format, with its fields, its exact value, the
comparison of values, and rounding of a ratio of naturals to the nearest such number.  All of it is
integer arithmetic, so every result can be computed by a proof.
-/

namespace EntityQuery

structure Binary64 where
  bits : UInt64
deriving DecidableEq, Inhabited

namespace Binary64

/-- The unit of the field of the exponent. -/
def hiddenBit : Nat := 1 <<< 52

def signBit : Nat := 1 <<< 63

def negative (x : Binary64) : Bool :=
  signBit ≤ x.bits.toNat

/-- The word without its sign. -/
def magnitude (x : Binary64) : Nat :=
  x.bits.toNat % signBit

def exponentField (x : Binary64) : Nat :=
  x.magnitude / hiddenBit

def fraction (x : Binary64) : Nat :=
  x.bits.toNat % hiddenBit

def isFinite (x : Binary64) : Bool :=
  x.exponentField < 2047

def isNaN (x : Binary64) : Bool :=
  x.exponentField == 2047 && x.fraction != 0

def isZero (x : Binary64) : Bool :=
  x.magnitude == 0

/-- A finite number is `significand` times two to the `scale`, up to its sign. -/
def significand (x : Binary64) : Nat :=
  if x.exponentField = 0 then x.fraction else hiddenBit + x.fraction

def scale (x : Binary64) : Int :=
  (max x.exponentField 1 : Nat) - 1075

def ofMagnitude (negative : Bool) (magnitude : Nat) : Binary64 :=
  ⟨UInt64.ofNat ((if negative then signBit else 0) + magnitude)⟩

def infinityMagnitude : Nat := 2047 * hiddenBit

def infinity (negative : Bool) : Binary64 :=
  ofMagnitude negative infinityMagnitude

def zero (negative : Bool) : Binary64 :=
  ofMagnitude negative 0

def nan : Binary64 :=
  ofMagnitude false (infinityMagnitude + hiddenBit / 2)

/-- Orders all numbers but the undefined one by value: both zeros have key zero. -/
def orderKey (x : Binary64) : Int :=
  if x.negative then -(x.magnitude : Int) else x.magnitude

/-- Equality of values: the two zeros are equal and an undefined number equals nothing. -/
def equal (x y : Binary64) : Bool :=
  !x.isNaN && !y.isNaN && x.orderKey == y.orderKey

def less (x y : Binary64) : Bool :=
  !x.isNaN && !y.isNaN && x.orderKey < y.orderKey

def lessOrEqual (x y : Binary64) : Bool :=
  !x.isNaN && !y.isNaN && x.orderKey ≤ y.orderKey

/-- The quotient rounded to the nearest natural, a half to the even one. -/
def divideToEven (num den : Nat) : Nat :=
  let quotient := num / den
  let twice := 2 * (num % den)
  if twice < den ∨ (twice = den ∧ quotient % 2 = 0) then quotient else quotient + 1

/-- `num / den` times two to the `-scale`, as a quotient of naturals. -/
def scaledRatio (num den : Nat) (scale : Int) : Nat × Nat :=
  if 0 ≤ scale then (num, den <<< scale.toNat) else (num <<< (-scale).toNat, den)

/-- The scale at which the quotient has fifty-three bits, or the least scale there is. -/
def roundingScale (num den : Nat) : Int :=
  let guess : Int := (num.log2 : Int) - den.log2 - 53
  let (n, d) := scaledRatio num den guess
  max (if n / d < 2 * hiddenBit then guess else guess + 1) (-1074)

/-- The number nearest to `num / den`; of two that are equally near, the one whose significand is
even. -/
def ofRatio (negative : Bool) (num den : Nat) : Binary64 :=
  if num = 0 then zero negative
  else
    let scale := roundingScale num den
    let (n, d) := scaledRatio num den scale
    let magnitude := (scale + 1074).toNat * hiddenBit + divideToEven n d
    ofMagnitude negative (min magnitude infinityMagnitude)

def ofNat (n : Nat) : Binary64 :=
  ofRatio false n 1

/-- The integral part of a finite number without its sign. -/
def truncate (x : Binary64) : Nat :=
  if 0 ≤ x.scale then x.significand <<< x.scale.toNat
  else x.significand >>> (-x.scale).toNat

/-- The number nearest to `digits` times ten to the `exponent`. -/
def ofDecimal (negative : Bool) (digits : Nat) (exponent : Int) : Binary64 :=
  if digits = 0 then zero negative
  else
    let size := ((Nat.toDigits 10 digits).length : Int) + exponent
    if 310 < size then infinity negative
    else if size < -330 then zero negative
    else if 0 ≤ exponent then ofRatio negative (digits * Nat.pow 10 exponent.toNat) 1
    else ofRatio negative digits (Nat.pow 10 (-exponent).toNat)

end Binary64

end EntityQuery
