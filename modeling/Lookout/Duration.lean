/-!
# Durations

A span of time in whole nanoseconds, up to the largest one that 64 bits of seconds hold.

* **`double_le_max`** — doubling stops at the largest duration.
* **`ofSecs_secs`** — a duration made of whole seconds counts them.
-/

namespace Lookout

/-- A span of time. -/
structure Duration where
  nanos : Nat
deriving DecidableEq, Inhabited, Repr

namespace Duration

/-- The nanoseconds of a second. -/
def nanosPerSec : Nat := 1000000000

/-- The nanoseconds of a millisecond. -/
def nanosPerMilli : Nat := 1000000

/-- The largest duration: all seconds that 64 bits count, and 999999999 nanoseconds. -/
def max : Duration := ⟨0x10000000000000000 * nanosPerSec - 1⟩

/-- The empty span. -/
def zero : Duration := ⟨0⟩

/-- A number of seconds. -/
def ofSecs (n : Nat) : Duration := ⟨n * nanosPerSec⟩

/-- A number of milliseconds. -/
def ofMillis (n : Nat) : Duration := ⟨n * nanosPerMilli⟩

/-- The whole seconds of a duration. -/
def secs (d : Duration) : Nat := d.nanos / nanosPerSec

/-- The nanoseconds beyond the whole seconds. -/
def subsecNanos (d : Duration) : Nat := d.nanos % nanosPerSec

/-- The milliseconds of a duration, a part of one counted in full. -/
def ceilMillis (d : Duration) : Nat := (d.nanos + nanosPerMilli - 1) / nanosPerMilli

instance : LE Duration := ⟨fun a b => a.nanos ≤ b.nanos⟩

instance : LT Duration := ⟨fun a b => a.nanos < b.nanos⟩

instance (a b : Duration) : Decidable (a ≤ b) := inferInstanceAs (Decidable (a.nanos ≤ b.nanos))

instance (a b : Duration) : Decidable (a < b) := inferInstanceAs (Decidable (a.nanos < b.nanos))

theorem le_iff (a b : Duration) : a ≤ b ↔ a.nanos ≤ b.nanos := Iff.rfl

theorem eq_of_nanos {a b : Duration} (h : a.nanos = b.nanos) : a = b := congrArg Duration.mk h

/-- The shorter of two durations. -/
def shorter (a b : Duration) : Duration := ⟨Nat.min a.nanos b.nanos⟩

/-- The longer of two durations. -/
def longer (a b : Duration) : Duration := ⟨Nat.max a.nanos b.nanos⟩

/-- Twice the duration, at most the largest one. -/
def double (d : Duration) : Duration := shorter ⟨2 * d.nanos⟩ max

/-- Doubling stops at the largest duration. -/
theorem double_le_max (d : Duration) : d.double ≤ max := Nat.min_le_right _ _

/-- A duration made of whole seconds counts them. -/
theorem ofSecs_secs (n : Nat) : (ofSecs n).secs = n := by
  simp [secs, ofSecs, nanosPerSec]

/-- The digits of a fraction of `width` places, without zeros at the end. -/
def fractionDigits (width n : Nat) : List Char :=
  let digits := Nat.toDigits 10 n
  let padded := List.replicate (width - digits.length) '0' ++ digits
  (padded.reverse.dropWhile (· == '0')).reverse

/-- A number with a fraction, counted in units of `10 ^ width`. -/
def decimalText (whole width fraction : Nat) (unit : String) : String :=
  let places := fractionDigits width fraction
  toString whole ++ (if places.isEmpty then "" else "." ++ String.ofList places) ++ unit

/-- The duration in the largest unit that it fills. -/
def unitText (d : Duration) : String :=
  if nanosPerSec ≤ d.nanos then decimalText d.secs 9 d.subsecNanos "s"
  else if nanosPerMilli ≤ d.nanos then
    decimalText (d.nanos / nanosPerMilli) 6 (d.nanos % nanosPerMilli) "ms"
  else if 1000 ≤ d.nanos then decimalText (d.nanos / 1000) 3 (d.nanos % 1000) "µs"
  else decimalText d.nanos 0 0 "ns"

/-- The age in its largest unit of seconds, minutes, hours or days, rounded down. -/
def ageText (d : Duration) : String :=
  let secs := d.secs
  if secs < 60 then toString secs ++ "s"
  else if secs < 3600 then toString (secs / 60) ++ "m"
  else if secs < 86400 then toString (secs / 3600) ++ "h"
  else toString (secs / 86400) ++ "d"

end Duration

end Lookout
