import Lookout.Text.Blank
import Lookout.Time.Calendar

/-!
# Timestamps

Reading a date with a time and an offset as servers write them, loosely: fields of one digit, blanks
before fields and separators, `T`, `t` or a blank before the time, and `Z`, `UTC` or a signed offset
behind it. Whatever does not have this form is shown as it is.
-/

namespace Lookout.Time

/-- A time read from a text: its date, its minute of the day, and the offset in seconds to be taken
off. -/
structure Stamp where
  date : Date
  secondOfDay : Nat
  offset : Int
deriving DecidableEq, Repr

/-- A step of reading: the value and the text behind it. -/
abbrev Reading (α : Type) := Option (α × List Char)

/-- Reads a number of one to `most` digits. -/
def readDigits (most : Nat) (cs : List Char) : Reading Nat :=
  let digits := (cs.take most).takeWhile Char.isDigit
  if digits.isEmpty then none
  else some (digits.foldl (fun n d => n * 10 + (d.toNat - '0'.toNat)) 0, cs.drop digits.length)

/-- Reads a field of at most two digits behind blanks, no larger than `bound`. -/
def readField (least bound : Nat) (cs : List Char) : Reading Nat :=
  match readDigits 2 (Text.trimStart cs) with
  | some (n, rest) => if least ≤ n && n ≤ bound then some (n, rest) else none
  | none => none

/-- Reads a separator behind blanks. -/
def readMark (mark : Char) (cs : List Char) : Option (List Char) :=
  match Text.trimStart cs with
  | c :: rest => if c = mark then some rest else none
  | [] => none

/-- Reads a year: of any length behind a sign, and otherwise of at most four digits. -/
def readYear (cs : List Char) : Reading Int :=
  match Text.trimStart cs with
  | '-' :: rest => (readDigits rest.length rest).map fun (n, r) => (-(n : Int), r)
  | '+' :: rest => (readDigits rest.length rest).map fun (n, r) => ((n : Int), r)
  | rest => (readDigits 4 rest).map fun (n, r) => ((n : Int), r)

/-- Reads a date. -/
def readDate (cs : List Char) : Option (Date × List Char) := do
  let (year, cs) ← readYear cs
  let cs ← readMark '-' cs
  let (month, cs) ← readField 1 12 cs
  let cs ← readMark '-' cs
  let (day, cs) ← readField 1 31 cs
  pure (⟨year, month, day⟩, cs)

/-- Reads the fraction of a second, if there is one. -/
def readFraction : List Char → Option (List Char)
  | '.' :: rest =>
    match rest.dropWhile Char.isDigit with
    | behind => if behind.length = rest.length then none else some behind
  | rest => some rest

/-- Reads the time of day, in seconds; a leap second counts as the one before it. -/
def readTime (cs : List Char) : Option (Nat × List Char) := do
  let (hour, cs) ← readField 0 23 cs
  let cs ← readMark ':' cs
  let (minute, cs) ← readField 0 59 cs
  let cs ← readMark ':' cs
  let (second, cs) ← readField 0 60 cs
  let cs ← readFraction cs
  pure (hour * 3600 + minute * 60 + Nat.min second 59, cs)

/-- Reads the signed offset: two digits of hours, two digits of minutes and what separates them. -/
def readSignedOffset (negative : Bool) (cs : List Char) : Reading Int :=
  match cs with
  | h1 :: h2 :: rest =>
    match rest.dropWhile fun c => c == ':' || Text.isBlank c with
    | m1 :: m2 :: behind =>
      if [h1, h2, m1, m2].all Char.isDigit && m1 ≤ '5' then
        let digit (c : Char) : Int := c.toNat - '0'.toNat
        let seconds := (digit h1 * 10 + digit h2) * 3600 + (digit m1 * 10 + digit m2) * 60
        some (if negative then -seconds else seconds, behind)
      else none
    | _ => none
  | _ => none

/-- Reads the offset behind blanks. -/
def readOffset (cs : List Char) : Reading Int :=
  match Text.trimStart cs with
  | 'Z' :: rest | 'z' :: rest => some (0, rest)
  | '+' :: rest => readSignedOffset false rest
  | '-' :: rest | '−' :: rest => readSignedOffset true rest
  | a :: b :: c :: rest =>
    if [a, b, c].map Char.toUpper = ['U', 'T', 'C'] then some (0, rest) else none
  | _ => none

/-- Reads a timestamp that fills the text up to blanks at its end. -/
def Stamp.read (cs : List Char) : Option Stamp := do
  let (date, cs) ← readDate cs
  let cs ← match cs with
    | c :: rest => if c = 'T' || c = 't' || c = ' ' then some rest else none
    | [] => none
  let (secondOfDay, cs) ← readTime cs
  let (offset, cs) ← readOffset cs
  if (Text.trimStart cs).isEmpty && date.isValid && offset.natAbs < 86400 then
    some ⟨date, secondOfDay, offset⟩
  else none

/-- The seconds from 1 January 1970. -/
def Stamp.toSeconds (s : Stamp) : Int := s.date.toDays * 86400 + s.secondOfDay - s.offset

/-- The day, the month and the minute of a timestamp, or the text as it is. -/
def shortText (s : String) : String :=
  match Stamp.read s.toList with
  | none => s
  | some stamp =>
    let seconds := stamp.toSeconds
    if coversDay (seconds / 86400) then
      let date := Date.ofDays (seconds / 86400)
      let minute := (seconds % 86400).toNat / 60
      String.ofList (twoDigits date.day ++ '.' :: twoDigits date.month ++
        ' ' :: twoDigits (minute / 60) ++ ':' :: twoDigits (minute % 60))
    else s

end Lookout.Time
