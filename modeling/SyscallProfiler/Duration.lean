import SyscallProfiler.Number.Shortest

/-!
# Spans of time
-/

namespace SyscallProfiler

/-- A span of time in nanoseconds. -/
structure Duration where
  nanos : Nat
deriving DecidableEq, Repr, Inhabited

namespace Duration

def ofMillis (n : Nat) : Duration := ⟨n * 1000000⟩

def ofSecs (n : Nat) : Duration := ⟨n * 1000000000⟩

def secs (d : Duration) : Nat := d.nanos / 1000000000

/-- The digits of a fraction with the given number of places, without the zeros at its end. -/
def fractionDigits (places fraction : Nat) : List Char :=
  let digits := Decimal.digits fraction
  let padded := List.replicate (places - digits.length) '0' ++ digits
  (padded.reverse.dropWhile (· == '0')).reverse

/-- `nanos` in a unit of `10^places` nanoseconds, with as many decimal places as it needs. -/
def inUnit (nanos places : Nat) (unit : String) : String :=
  let unitNanos := Nat.pow 10 places
  let whole := String.ofList (Decimal.digits (nanos / unitNanos))
  match fractionDigits places (nanos % unitNanos) with
  | [] => whole ++ unit
  | digits => whole ++ "." ++ String.ofList digits ++ unit

/-- The text of a span: in the largest unit that it fills, down to nanoseconds. -/
def text (d : Duration) : String :=
  if d.nanos ≥ Nat.pow 10 9 then inUnit d.nanos 9 "s"
  else if d.nanos ≥ Nat.pow 10 6 then inUnit d.nanos 6 "ms"
  else if d.nanos ≥ Nat.pow 10 3 then inUnit d.nanos 3 "µs"
  else inUnit d.nanos 0 "ns"

end Duration

end SyscallProfiler
