import OrderDesk.Text.Numeral

/-!
# Durations

A length of time in whole nanoseconds, and the text that shows it: the largest
of the units s, ms, µs and ns that goes into it at least once, with the exact
fraction and no trailing zeros.
-/

namespace OrderDesk

/-- A length of time. -/
structure Duration where
  nanos : Nat
deriving DecidableEq, Repr

namespace Duration

/-- A duration of whole milliseconds. -/
def ofMillis (n : Nat) : Duration := ⟨n * 1000000⟩

/-- The whole seconds of a duration. -/
def seconds (d : Duration) : Nat := d.nanos / 1000000000

/-- The nanoseconds beyond the whole seconds. -/
def subsecNanos (d : Duration) : Nat := d.nanos % 1000000000

/-- A decimal fraction of the given number of places, without trailing zeros. -/
def fraction (places rest : Nat) : List Char :=
  let kept := ((Text.paddedDigits places rest).reverse.dropWhile (· == '0')).reverse
  if kept.isEmpty then [] else '.' :: kept

/-- The number of nanoseconds counted in units of a power of ten. -/
def inUnit (places : Nat) (unit : String) (nanos : Nat) : String :=
  let size := Text.powerOfTen places
  String.ofList (Text.digits (nanos / size) ++ fraction places (nanos % size)) ++ unit

/-- The text of a duration. -/
def text (d : Duration) : String :=
  if 1000000000 ≤ d.nanos then inUnit 9 "s" d.nanos
  else if 1000000 ≤ d.nanos then inUnit 6 "ms" d.nanos
  else if 1000 ≤ d.nanos then inUnit 3 "µs" d.nanos
  else inUnit 0 "ns" d.nanos

/-- The parts of a duration add up to it. -/
theorem seconds_subsecNanos (d : Duration) :
    d.seconds * 1000000000 + d.subsecNanos = d.nanos := by
  unfold seconds subsecNanos
  omega

end Duration
end OrderDesk
