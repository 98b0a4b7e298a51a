import WorkflowEngine.Decimal.Binary

/-!
# Spans of time

Lengths of time in whole nanoseconds, and their short written form.
-/

namespace WorkflowEngine

/-- A length of time. -/
structure Span where
  nanos : Nat
deriving Repr, DecidableEq, Inhabited

namespace Span

/-- No time at all. -/
def zero : Span := ⟨0⟩

/-- Whole seconds. -/
def ofSeconds (seconds : Nat) : Span := ⟨seconds * 1000000000⟩

/-- Whole milliseconds. -/
def ofMillis (millis : Nat) : Span := ⟨millis * 1000000⟩

/-- The whole milliseconds of a span. -/
def millis (span : Span) : Nat := span.nanos / 1000000

/-- The milliseconds of a span, a started one included. -/
def millisUp (span : Span) : Nat := (span.nanos + 999999) / 1000000

/-- The seconds beyond which no clock reaches. -/
def clockReach : Nat := Nat.pow 2 63

/-- How long to wait in place of a time that no clock reaches: thirty years. -/
def farFuture : Span := ⟨30 * 365 * 86400 * 1000000000⟩

/-- The milliseconds that waiting for a span takes on a clock that counts whole
milliseconds. -/
def ticks (span : Span) : Nat :=
  if clockReach * 1000000000 ≤ span.nanos then farFuture.millisUp else span.millisUp

/-- Whether waiting for a span takes longer than for another one, to the tick or
else to the nanosecond. -/
def outlasts (span other : Span) : Bool :=
  other.ticks < span.ticks || (other.ticks == span.ticks && other.nanos < span.nanos)

@[simp] theorem millis_ofMillis (count : Nat) : (ofMillis count).millis = count := by
  simp [ofMillis, millis]

/-- The most seconds that a span may have. -/
def secondLimit : Nat := Nat.pow 2 64

/-- The span nearest to a number of seconds, halves going to the even
nanosecond; there is none for a negative number, for what is no number, and
beyond the limit. -/
def ofSecondsFloat? (seconds : Float) : Option Span :=
  if !seconds.isFinite || seconds < 0.0 then none
  else
    let value := Decimal.Binary.ofFloat seconds
    let scaled := value.significand * 1000000000 * Nat.pow 2 value.exponent.toNat
    let unit := Nat.pow 2 (-value.exponent).toNat
    let quotient := scaled / unit
    let twice := 2 * (scaled % unit)
    let nanos :=
      if twice < unit then quotient
      else if unit < twice then quotient + 1
      else quotient + quotient % 2
    if nanos < secondLimit * 1000000000 then some ⟨nanos⟩ else none

/-- The digits of a fraction with a given number of places, without trailing
zeros. -/
def fractionChars (places value : Nat) : List Char :=
  let digits := Nat.toDigits 10 value
  let padded := List.replicate (places - digits.length) '0' ++ digits
  (padded.reverse.dropWhile (· = '0')).reverse

/-- A count of nanoseconds in a unit. -/
def inUnit (nanos unit places : Nat) (name : String) : String :=
  let whole := toString (nanos / unit)
  let fraction := if places = 0 then [] else fractionChars places (nanos % unit)
  if fraction.isEmpty then whole ++ name
  else whole ++ "." ++ String.ofList fraction ++ name

/-- The written form, in the largest unit of which there is at least one. -/
def text (span : Span) : String :=
  if 1000000000 ≤ span.nanos then inUnit span.nanos 1000000000 9 "s"
  else if 1000000 ≤ span.nanos then inUnit span.nanos 1000000 6 "ms"
  else if 1000 ≤ span.nanos then inUnit span.nanos 1000 3 "µs"
  else inUnit span.nanos 1 0 "ns"

end Span
end WorkflowEngine
