import Lookout.Json.Basic

/-!
# Reading numbers

The number at the start of a text. A number without point and exponent is whole if 64 bits hold it.
Any other is read as a significand of at most 64 bits and a power of ten: the significand is rounded
to double precision, then multiplied or divided by the power and rounded again.
-/

namespace Lookout.Json

/-- The value of a decimal digit. -/
def digitValue (c : Char) : Nat := c.toNat - '0'.toNat

/-- The digits at the start of a text and the text behind them. -/
def spanDigits (cs : List Char) : List Char × List Char :=
  (cs.takeWhile Char.isDigit, cs.dropWhile Char.isDigit)

/-- The largest significand. -/
def maxSignificand : Nat := 0x10000000000000000 - 1

/-- Appends digits to a significand as long as it stays within its bound; returns it with the number
of digits that were left out. -/
def appendDigits (significand : Nat) : List Char → Nat × Nat
  | [] => (significand, 0)
  | d :: ds =>
    let longer := significand * 10 + digitValue d
    if maxSignificand < longer then (significand, ds.length + 1) else appendDigits longer ds

/-- A power of ten in double precision. -/
def powerOfTen (n : Nat) : Binary64 := Binary64.ofDecimal false 1 n

/-- Scales a magnitude by a power of ten, in steps of at most 308 places downwards; none if the result
is out of range. -/
def scaleByTen : Nat → Binary64 → Int → Option Binary64
  | 0, _, _ => some (Binary64.zero false)
  | steps + 1, x, exponent =>
    if exponent.natAbs ≤ 308 then
      if 0 ≤ exponent then
        let y := x.mul (powerOfTen exponent.toNat)
        if y.isFinite then some y else none
      else some (x.div (powerOfTen exponent.natAbs))
    else if x.significand = 0 then some x
    else if 0 ≤ exponent then none
    else scaleByTen steps (x.div (powerOfTen 308)) (exponent + 308)

/-- The double-precision number for a significand and a power of ten; none if it is out of range. -/
def realOfParts (negative : Bool) (significand : Nat) (exponent : Int) : Option Number :=
  match scaleByTen 4 (Binary64.ofInt significand) exponent with
  | some x =>
    let y := x.negateIf negative
    if h : y.isFinite = true then some (.real y h) else none
  | none => none

/-- The whole number with the given sign, in double precision if 64 bits do not hold it and for
negative zero. -/
def wholeOrReal (negative : Bool) (significand : Nat) : Option Number :=
  let n : Int := if negative then -(significand : Int) else significand
  if h : Fits n then
    if negative && significand == 0 then realOfParts true 0 0 else some (.whole n h)
  else realOfParts negative significand 0

/-- The sign at the start of a text, true for minus, and the text behind it. -/
def spanSign : List Char → Bool × List Char
  | '+' :: rest => (false, rest)
  | '-' :: rest => (true, rest)
  | rest => (false, rest)

/-- Reads the exponent behind the letter `e`. -/
def readExponent (negative : Bool) (significand : Nat) (exponent : Int) (cs : List Char) :
    Option (Number × List Char) :=
  let (down, cs) := spanSign cs
  match spanDigits cs with
  | ([], _) => none
  | (ds, rest) =>
    let power : Int := ds.foldl (fun n d => n * 10 + digitValue d) 0
    let total := if down then exponent - power else exponent + power
    if significand = 0 then (realOfParts negative 0 0).map (·, rest)
    else (realOfParts negative significand total).map (·, rest)

/-- Reads the exponent, if there is one, and builds the number. -/
def readOptionalExponent (negative : Bool) (significand : Nat) (exponent : Int) :
    List Char → Option (Number × List Char)
  | 'e' :: rest | 'E' :: rest => readExponent negative significand exponent rest
  | rest => (realOfParts negative significand exponent).map (·, rest)

/-- Reads what stands behind the whole digits, `left` of which the significand does not hold, and builds
the number. -/
def readPlaces (negative : Bool) (significand left : Nat) : List Char → Option (Number × List Char)
  | '.' :: rest =>
    match spanDigits rest with
    | ([], _) => none
    | (places, rest) =>
      let (longer, dropped) := appendDigits significand places
      readOptionalExponent negative longer ((left : Int) - (places.length - dropped : Nat)) rest
  | 'e' :: rest | 'E' :: rest => readExponent negative significand left rest
  | rest =>
    if left = 0 then (wholeOrReal negative significand).map (·, rest)
    else (realOfParts negative significand left).map (·, rest)

/-- Reads the number behind its sign. -/
def readMagnitude (negative : Bool) (cs : List Char) : Option (Number × List Char) :=
  match spanDigits cs with
  | ([], _) => none
  | ('0' :: _ :: _, _) => none
  | (ds, rest) =>
    let (significand, left) := appendDigits 0 ds
    readPlaces negative significand left rest

/-- Reads the number at the start of a text. -/
def readNumber : List Char → Option (Number × List Char)
  | '-' :: rest => readMagnitude true rest
  | rest => readMagnitude false rest

end Lookout.Json
