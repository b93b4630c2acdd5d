/-!
Durations of whole seconds and nanoseconds. The two parts are bounded, so that there is a
longest duration, and multiplication carries nanoseconds into seconds and reports overflow.
-/

namespace MutationTesting

def nanosPerSecond : Nat := 1000000000

/-- One more than the largest number of whole seconds in a duration. -/
def secondLimit : Nat := UInt64.size

/-- A length of time: whole seconds and a rest of less than a second. -/
structure Duration where
  secs : Nat
  nanos : Nat
  secs_lt : secs < secondLimit := by decide
  nanos_lt : nanos < nanosPerSecond := by decide
deriving DecidableEq

namespace Duration

def zero : Duration := { secs := 0, nanos := 0 }

def longest : Duration := { secs := UInt64.size - 1, nanos := 999999999 }

instance : Inhabited Duration := ⟨zero⟩

def toNanos (d : Duration) : Nat := d.secs * nanosPerSecond + d.nanos

/-- The duration of the given parts, where nanoseconds from a second on carry into the
seconds; none when the seconds overflow.
-/
def ofParts? (secs nanos : Nat) : Option Duration :=
  if h : secs + nanos / nanosPerSecond < secondLimit then
    some
      {
        secs := secs + nanos / nanosPerSecond
        nanos := nanos % nanosPerSecond
        secs_lt := h
        nanos_lt := Nat.mod_lt _ (by decide)
      }
  else
    none

/-- The duration of a number of nanoseconds; the longest one when that is too many. -/
def ofNanos (nanos : Nat) : Duration := (ofParts? 0 nanos).getD longest

/-- The duration of a 64-bit number of milliseconds, which always fits. -/
def ofMillis (millis : UInt64) : Duration where
  secs := millis.toNat / 1000
  nanos := millis.toNat % 1000 * 1000000
  secs_lt := by
    have h := millis.toNat_lt
    unfold secondLimit UInt64.size
    omega
  nanos_lt := by
    have h := Nat.mod_lt millis.toNat (show 1000 > 0 by decide)
    unfold nanosPerSecond
    omega

/-- Whole milliseconds, at most the largest 64-bit number. -/
def toMillis (d : Duration) : Nat := min (d.toNanos / 1000000) (UInt64.size - 1)

/-- Product with a factor: nanoseconds are multiplied apart and their whole seconds carried
over; none when the seconds overflow.
-/
def mul? (d : Duration) (factor : Nat) : Option Duration :=
  let nanos := d.nanos * factor
  if h : d.secs * factor + nanos / nanosPerSecond < secondLimit then
    some
      {
        secs := d.secs * factor + nanos / nanosPerSecond
        nanos := nanos % nanosPerSecond
        secs_lt := h
        nanos_lt := Nat.mod_lt _ (by decide)
      }
  else
    none

/-- The order of durations: seconds decide, then nanoseconds. -/
def ble (left right : Duration) : Bool :=
  left.secs < right.secs || (left.secs == right.secs && left.nanos ≤ right.nanos)

def max (left right : Duration) : Duration := if ble left right then right else left

end Duration

end MutationTesting
