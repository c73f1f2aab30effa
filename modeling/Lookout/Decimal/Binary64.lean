/-!
# Double-precision numbers

A double-precision number is its 64 bits: a sign, an exponent field of eleven bits and a fraction of
fifty-two. Values are exact ratios of natural numbers, and every operation rounds an exact ratio to
the nearest number, a tie to the even significand.

* **`finite_zero`** — both zeros are finite.
-/

namespace Lookout

/-- A double-precision number, given by its bits. -/
structure Binary64 where
  bits : UInt64
deriving DecidableEq, Inhabited, Repr

namespace Binary64

/-- The sign bit is set. -/
def isNegative (x : Binary64) : Bool := x.bits.toNat / 0x8000000000000000 == 1

/-- The eleven bits of the exponent. -/
def exponentField (x : Binary64) : Nat := x.bits.toNat / 0x10000000000000 % 0x800

/-- The fifty-two bits of the fraction. -/
def fraction (x : Binary64) : Nat := x.bits.toNat % 0x10000000000000

/-- Neither infinite nor undefined. -/
def isFinite (x : Binary64) : Bool := x.exponentField < 2047

/-- A fraction in the infinite exponent marks an undefined result. -/
def isUndefined (x : Binary64) : Bool := x.exponentField == 2047 && x.fraction != 0

/-- The whole number `m` such that the magnitude of a finite number is `m · 2 ^ scale`. -/
def significand (x : Binary64) : Nat :=
  if x.exponentField = 0 then x.fraction else 0x10000000000000 + x.fraction

/-- The power of two that scales the significand. -/
def scale (x : Binary64) : Int := (max x.exponentField 1 : Nat) - 1075

/-- The numerator of the magnitude. -/
def numerator (x : Binary64) : Nat := x.significand * Nat.pow 2 x.scale.toNat

/-- The denominator of the magnitude. -/
def denominator (x : Binary64) : Nat := Nat.pow 2 (-x.scale).toNat

/-- Positive or negative zero. -/
def zero (negative : Bool) : Binary64 := ⟨if negative then 0x8000000000000000 else 0⟩

/-- Positive or negative infinity. -/
def infinity (negative : Bool) : Binary64 :=
  ⟨if negative then 0xfff0000000000000 else 0x7ff0000000000000⟩

/-- The undefined result. -/
def undefined : Binary64 := ⟨0x7ff8000000000000⟩

theorem finite_zero (negative : Bool) : (zero negative).isFinite = true := by
  cases negative <;> decide +kernel

/-- The quotient rounded to the nearest whole number, a tie to the even one. -/
def roundedQuotient (num den : Nat) : Nat :=
  let whole := num / den
  let twice := 2 * (num % den)
  if twice < den then whole
  else if twice = den then whole + whole % 2
  else whole + 1

/-- The number of bits before the point of the positive ratio `num / den`, less one. -/
def ratioLog2 (num den : Nat) : Int :=
  let guess : Int := (num.log2 : Int) - den.log2
  if den * Nat.pow 2 guess.toNat ≤ num * Nat.pow 2 (-guess).toNat then guess else guess - 1

/-- The double-precision number nearest to `num / den`, with the given sign. -/
def ofRatio (negative : Bool) (num den : Nat) : Binary64 :=
  if num = 0 || den = 0 then zero negative
  else
    let scale := max (ratioLog2 num den - 52) (-1074)
    let m := roundedQuotient (num * Nat.pow 2 (-scale).toNat) (den * Nat.pow 2 scale.toNat)
    let magnitude := (scale + 1074).toNat * 0x10000000000000 + m
    if magnitude < 2047 * 0x10000000000000 then
      ⟨UInt64.ofNat ((if negative then 0x8000000000000000 else 0) + magnitude)⟩
    else infinity negative

/-- The double-precision number nearest to a whole number. -/
def ofInt (n : Int) : Binary64 := ofRatio (n < 0) n.natAbs 1

/-- The double-precision number nearest to `digits · 10 ^ exponent`. Exponents beyond all
double-precision numbers are cut off first. -/
def ofDecimal (negative : Bool) (digits : Nat) (exponent : Int) : Binary64 :=
  let length : Int := (Nat.toDigits 10 digits).length
  if digits = 0 || length + exponent < -400 then zero negative
  else if length + exponent > 400 then infinity negative
  else ofRatio negative (digits * Nat.pow 10 exponent.toNat) (Nat.pow 10 (-exponent).toNat)

/-- The product of the magnitudes, rounded. -/
def mul (x y : Binary64) : Binary64 :=
  ofRatio (x.isNegative != y.isNegative) (x.numerator * y.numerator) (x.denominator * y.denominator)

/-- The quotient of the magnitudes, rounded. -/
def div (x y : Binary64) : Binary64 :=
  ofRatio (x.isNegative != y.isNegative) (x.numerator * y.denominator) (x.denominator * y.numerator)

/-- The same magnitude with the sign changed if `negative` holds. -/
def negateIf (negative : Bool) (x : Binary64) : Binary64 :=
  if negative then ⟨x.bits ^^^ 0x8000000000000000⟩ else x

end Binary64

end Lookout
