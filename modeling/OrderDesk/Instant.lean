import OrderDesk.Calendar

/-!
# Instants

A point in time is a number of whole seconds since 1970 and a number of
nanoseconds into that second.  A leap second is the second before it, with a
thousand million nanoseconds or more.
-/

namespace OrderDesk

/-- A point in time. -/
structure Instant where
  seconds : Int
  nanos : Nat
  nanos_lt : nanos < 2000000000
deriving DecidableEq

namespace Instant

/-- The instant of whole seconds since 1970. -/
def ofSeconds (seconds : Int) : Instant := ⟨seconds, 0, by decide⟩

instance : Inhabited Instant := ⟨ofSeconds 0⟩

/-- The instant with the given parts, if the nanoseconds are in range. -/
def ofParts? (seconds : Int) (nanos : Nat) : Option Instant :=
  if h : nanos < 2000000000 then some ⟨seconds, nanos, h⟩ else none

/-- The instant of microseconds since 1970. -/
def ofMicros (micros : Int) : Instant where
  seconds := micros / 1000000
  nanos := (micros % 1000000).toNat * 1000
  nanos_lt := by omega

/-- The microseconds since 1970. -/
def micros (t : Instant) : Int :=
  t.seconds * 1000000 + (t.nanos / 1000 : Nat)

/-- Order in time. -/
def cmp (a b : Instant) : Ordering :=
  (compare a.seconds b.seconds).then (compare a.nanos b.nanos)

/-- The number of the day that contains the instant. -/
def dayNumber (t : Instant) : Int := t.seconds / 86400

/-- The calendar date that contains the instant. -/
def date (t : Instant) : Date := Date.ofDayNumber t.dayNumber

/-- The seconds since the start of the day. -/
def secondOfDay (t : Instant) : Nat := (t.seconds % 86400).toNat

end Instant
end OrderDesk
