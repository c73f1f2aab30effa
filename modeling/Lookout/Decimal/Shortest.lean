import Lookout.Decimal.Binary64

/-!
# Shortest decimals

The decimal with the fewest digits that rounds to a given double-precision number, and of several
the one nearest to it; then its two written forms, and the form with two places.
-/

namespace Lookout

namespace Binary64

/-- A decimal `digits · 10 ^ exponent`. -/
structure Decimal where
  digits : Nat
  exponent : Int
deriving DecidableEq, Repr

/-- The power of ten of the first digit of the positive ratio `num / den`. -/
def ratioLog10 (num den : Nat) : Int :=
  if den ≤ num then ((Nat.toDigits 10 (num / den)).length : Int) - 1
  else
    let places := (Nat.toDigits 10 (den / num)).length
    if num * Nat.pow 10 (places - 1) = den then 1 - (places : Int) else -(places : Int)

/-- The decimal rounds to the finite number `x`: it lies between the midpoints to the neighbours of
`x`, which count as inside exactly if the significand is even. All terms are doubled twice. -/
def roundsTo (x : Binary64) (d : Decimal) : Bool :=
  let m := x.significand
  let lower := if m = 0x10000000000000 && 1 < x.exponentField then 4 * m - 1 else 4 * m - 2
  let upper := 4 * m + 2
  let num := 4 * (d.digits * Nat.pow 10 d.exponent.toNat) * Nat.pow 2 (-x.scale).toNat
  let den := Nat.pow 10 (-d.exponent).toNat * Nat.pow 2 x.scale.toNat
  if m % 2 = 0 then lower * den ≤ num && num ≤ upper * den
  else lower * den < num && num < upper * den

/-- The decimals with `places` digits next to the positive finite number `x`, nearest first. -/
def neighbours (x : Binary64) (places : Nat) : List Decimal :=
  let exponent := ratioLog10 x.numerator x.denominator + 1 - places
  let num := x.numerator * Nat.pow 10 (-exponent).toNat
  let den := x.denominator * Nat.pow 10 exponent.toNat
  let below : Decimal := ⟨num / den, exponent⟩
  let above : Decimal := ⟨num / den + 1, exponent⟩
  let twice := 2 * (num % den)
  if twice < den || (twice = den && num / den % 2 = 0) then [below, above] else [above, below]

/-- The decimal without zeros at the end of its digits, dropping `room` of them at most. -/
def Decimal.stripped : Nat → Decimal → Decimal
  | 0, d => d
  | room + 1, d =>
    if d.digits ≠ 0 ∧ d.digits % 10 = 0 then stripped room ⟨d.digits / 10, d.exponent + 1⟩ else d

/-- The shortest decimal that rounds to the magnitude of a finite number. -/
def shortest (x : Binary64) : Decimal :=
  if x.significand = 0 then ⟨0, 0⟩
  else
    match (List.range 17).findSome? fun n => (neighbours x (n + 1)).find? (roundsTo x) with
    | some d => d.stripped 20
    | none => ⟨0, 0⟩

/-- The digits written out with a point, as many zeros as needed on either side. -/
def Decimal.positional (d : Decimal) : List Char :=
  let digits := Nat.toDigits 10 d.digits
  let whole : Int := digits.length + d.exponent
  if 0 ≤ d.exponent then digits ++ List.replicate d.exponent.toNat '0' ++ ['.', '0']
  else if 0 < whole then digits.take whole.toNat ++ '.' :: digits.drop whole.toNat
  else ['0', '.'] ++ List.replicate (-whole).toNat '0' ++ digits

/-- The digits with a point after the first one and an exponent with its sign. -/
def Decimal.scientific (d : Decimal) : List Char :=
  let digits := Nat.toDigits 10 d.digits
  let power : Int := digits.length + d.exponent - 1
  digits.take 1 ++ (if digits.length = 1 then [] else '.' :: digits.drop 1) ++
    ['e', if power < 0 then '-' else '+'] ++ Nat.toDigits 10 power.natAbs

/-- The sign of a negative number, zero included. -/
def signText (x : Binary64) : List Char := if x.isNegative then ['-'] else []

/-- The written form in a document: positional from 0.00001 up to sixteen whole digits, with an
exponent outside, and always with a point or an exponent. -/
def text (x : Binary64) : List Char :=
  let d := x.shortest
  let whole : Int := (Nat.toDigits 10 d.digits).length + d.exponent
  x.signText ++ (if d.digits = 0 || (-5 < whole && whole ≤ 16) then d.positional else d.scientific)

/-- The written form without exponents, however many digits it takes. -/
def plainText (x : Binary64) : List Char :=
  if x.isUndefined then ['N', 'a', 'N', '.', '0']
  else if x.isFinite then x.signText ++ x.shortest.positional
  else x.signText ++ ['i', 'n', 'f', '.', '0']

/-- The number rounded to hundredths, a tie to the even digit, with two places after the point. -/
def hundredthsText (x : Binary64) : List Char :=
  let cents := roundedQuotient (x.numerator * 100) x.denominator
  let places := Nat.toDigits 10 (cents % 100)
  x.signText ++ Nat.toDigits 10 (cents / 100) ++
    '.' :: (List.replicate (2 - places.length) '0' ++ places)

end Binary64

end Lookout
