import NodePressure.Number.Digits

/-!
# NodePressure.Time.Span - moments and spans

The clock of the agent only ever measures: a *moment* is a whole number of nanoseconds since an
arbitrary start and may lie before it, a *span* is a length of time in nanoseconds.
-/

namespace NodePressure

/-- A point on the monotonic clock, in nanoseconds. -/
abbrev Moment := Int

/-- A length of time, in nanoseconds. -/
abbrev Span := Nat

namespace Span

/-- A span in whole seconds. -/
def seconds (n : Nat) : Span :=
  n * 1000000000

/-- A span in whole milliseconds. -/
def millis (n : Nat) : Span :=
  n * 1000000

/-- A span in whole microseconds. -/
def micros (n : Nat) : Span :=
  n * 1000

/-- The length of spans laid end to end. -/
def total : List Span → Span
  | [] => 0
  | s :: r => s + total r

/-- The whole milliseconds of a span, as many as 64 bits hold. -/
def toMillis (s : Span) : Nat :=
  s / 1000000 % (Number.max64 + 1)

/-- The span from one moment to another; none if the other is the earlier one. -/
def between (start stop : Moment) : Span :=
  (stop - start).toNat

end Span

end NodePressure
