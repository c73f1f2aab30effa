import Lookout.Decode.Mismatch
import Lookout.Json.NumberReader

/-!
# Plain scalars

What an unquoted scalar stands for: nothing, a truth value, a number or its own text. Whole numbers may
carry a sign and be written to the bases sixteen, eight and two; a number with zeros in front is a
text.

* **`resolve_null`** — the word null stands for nothing.
-/

namespace Lookout.Yaml

open Decode

/-- The scalar stands for nothing. -/
def isNull (s : String) : Bool := s == "null" || s == "Null" || s == "NULL" || s == "~"

/-- The truth value of a scalar. -/
def bool? : String → Option Bool
  | "true" | "True" | "TRUE" => some true
  | "false" | "False" | "FALSE" => some false
  | _ => none

/-- The value of a digit to a base of at most sixteen. -/
def digit? (base : Nat) (c : Char) : Option Nat :=
  let value :=
    if c.isDigit then some (c.toNat - '0'.toNat)
    else if 'a' ≤ c && c ≤ 'f' then some (c.toNat - 'a'.toNat + 10)
    else if 'A' ≤ c && c ≤ 'F' then some (c.toNat - 'A'.toNat + 10)
    else none
  value.filter (· < base)

/-- The number that one digit or more denote. -/
def natural? (base : Nat) (digits : List Char) : Option Nat :=
  if digits.isEmpty then none
  else digits.foldl (fun n c => do pure ((← n) * base + (← digit? base c))) (some 0)

/-- The scalar without one of two signs in front. -/
def unsigned : List Char → List Char
  | '-' :: rest | '+' :: rest => rest
  | cs => cs

/-- The scalar consists of digits, the first of several is a zero, and so it is a text. -/
def hasLeadingZero (cs : List Char) : Bool :=
  match unsigned cs with
  | '0' :: d :: rest => (d :: rest).all Char.isDigit
  | _ => false

/-- The number whose base the first two characters tell. -/
def basedMagnitude? : List Char → Option Nat
  | '0' :: 'x' :: digits => natural? 16 digits
  | '0' :: 'o' :: digits => natural? 8 digits
  | '0' :: 'b' :: digits => natural? 2 digits
  | _ => none

/-- The number behind the sign of the scalar `whole`. -/
def magnitude? (whole digits : List Char) : Option Nat :=
  match basedMagnitude? digits with
  | some n => some n
  | none => if hasLeadingZero whole then none else natural? 10 digits

/-- The whole number without a minus sign that a scalar denotes. -/
def positive? : List Char → Option Nat
  | '+' :: digits => magnitude? ('+' :: digits) digits
  | digits => magnitude? digits digits

/-- The whole number with a minus sign that a scalar denotes. -/
def negative? : List Char → Option Nat
  | '-' :: digits => magnitude? ('-' :: digits) digits
  | _ => none

/-- The whole number that a scalar denotes; one beyond 64 bits is huge, and one beyond 128 bits is
none. -/
def whole? (cs : List Char) : Option Found :=
  match positive? cs, negative? cs with
  | some n, _ =>
    if n < 0x10000000000000000 then some (.whole n)
    else if n < 0x100000000000000000000000000000000 then some (.hugeWhole n)
    else none
  | none, some n =>
    if n ≤ 0x8000000000000000 then some (.whole (-n))
    else if n ≤ 0x80000000000000000000000000000000 then some (.hugeWhole (-n))
    else none
  | none, none => none

/-- The power of ten behind a significand. -/
def exponent? : List Char → Option Int
  | [] => some 0
  | e :: rest =>
    if e == 'e' || e == 'E' then
      match rest with
      | '-' :: digits => (natural? 10 digits).map fun n => -(n : Int)
      | '+' :: digits => (natural? 10 digits).map fun n => (n : Int)
      | digits => (natural? 10 digits).map fun n => (n : Int)
    else none

/-- The double-precision number written with an optional point and an optional exponent. -/
def decimal? (negative : Bool) (cs : List Char) : Option Binary64 :=
  let (whole, rest) := Json.spanDigits cs
  let (places, rest) := match rest with
    | '.' :: rest => Json.spanDigits rest
    | rest => ([], rest)
  if whole.isEmpty && places.isEmpty then none
  else
    match natural? 10 (whole ++ places), exponent? rest with
    | some digits, some power =>
      let x := Binary64.ofDecimal negative digits (power - places.length)
      if x.isFinite then some x else none
    | _, _ => none

/-- The spellings of infinity behind a sign. -/
def isInfinity (cs : List Char) : Bool :=
  let s := String.ofList cs
  s == ".inf" || s == ".Inf" || s == ".INF"

/-- The double-precision number that a scalar denotes. -/
def real? (s : String) : Option Binary64 :=
  if s == ".nan" || s == ".NaN" || s == ".NAN" then some Binary64.undefined
  else
    match s.toList with
    | '-' :: rest => if isInfinity rest then some (Binary64.infinity true) else decimal? true rest
    | '+' :: rest => if isInfinity rest then some (Binary64.infinity false) else decimal? false rest
    | rest => if isInfinity rest then some (Binary64.infinity false) else decimal? false rest

/-- What a plain scalar stands for. -/
def resolve (s : String) : Found :=
  if s.isEmpty || isNull s then .empty
  else
    match bool? s with
    | some b => .bool b
    | none =>
      match whole? s.toList with
      | some n => n
      | none =>
        match (if hasLeadingZero s.toList then none else real? s) with
        | some x => .real x
        | none => .text s

/-- The word null stands for nothing. -/
theorem resolve_null {s : String} (h : isNull s = true) : resolve s = .empty := by
  simp [resolve, h]

/-! ## Tagged scalars -/

/-- The tags of the standard kinds of scalars. -/
def boolTag : String := "tag:yaml.org,2002:bool"

/-- The tag of whole numbers. -/
def wholeTag : String := "tag:yaml.org,2002:int"

/-- The tag of real numbers. -/
def realTag : String := "tag:yaml.org,2002:float"

/-- The tag of nothing. -/
def nullTag : String := "tag:yaml.org,2002:null"

/-- The scalar does not stand for what its tag says. -/
def mistagged {α : Type} (s expected : String) : Except Mismatch α :=
  .error (.wrongValue (.text s) expected)

/-- What a scalar with a tag stands for; a tag of no standard kind leaves a plain scalar as it is only
if it is local to the document. -/
def resolveTagged (tag : String) (isPlain : Bool) (s : String) : Except Mismatch Found :=
  if tag = boolTag then
    match bool? s with
    | some b => .ok (.bool b)
    | none => mistagged s "a boolean"
  else if tag = wholeTag then
    match whole? s.toList with
    | some n => .ok n
    | none => mistagged s "an integer"
  else if tag = realTag then
    match real? s with
    | some x => .ok (.real x)
    | none => mistagged s "a float"
  else if tag = nullTag then if isNull s then .ok .empty else mistagged s "null"
  else if tag.startsWith "!" && isPlain then .ok (resolve s)
  else .ok (.text s)

/-- What a scalar stands for. -/
def resolveScalar (tag : Option String) (isPlain : Bool) (s : String) : Except Mismatch Found :=
  match tag with
  | some tag => resolveTagged tag isPlain s
  | none => .ok (if isPlain then resolve s else .text s)

/-- The name of a tag that is local to the document. -/
def localTag? (tag : Option String) : Option String :=
  match tag.map String.toList with
  | some ['!'] => some "!"
  | some ('!' :: name) => some (String.ofList name)
  | _ => none

end Lookout.Yaml
