import SyscallProfiler.Number.Binary64

/-!
# The shortest decimal that reads back

A finite positive number is the nearest one to every real in an interval around it. Of the
decimals in that interval the shortest is chosen, and of the shortest the nearest. For each count
of digits only the two neighbours of the value on the decimal grid have to be looked at: if any
point of the grid lies in the interval, so does one of them.
-/

namespace SyscallProfiler.Decimal

/-- The decimal digits of a natural number, leading digit first; zero has the digit `0`. -/
def digits (n : Nat) : List Char :=
  if n < 10 then [Char.ofNat (48 + n)] else digits (n / 10) ++ [Char.ofNat (48 + n % 10)]

/-- How many decimal digits a natural number has; zero has none here. -/
def length (n : Nat) : Nat :=
  if n == 0 then 0 else (digits n).length

/-- The `k` with `10^(k-1) ≤ num / den < 10^k`, for a positive quotient. -/
def magnitude (num den : Nat) : Int :=
  if num ≥ den then (length (num / den) : Int)
  else 1 - (length ((den + num - 1) / num - 1) : Int)

/-- An interval of reals around a value; all three are numerators over one denominator. -/
structure Interval where
  low : Nat
  value : Nat
  high : Nat
  denominator : Nat
  /-- Whether the two ends belong to the interval. -/
  closed : Bool

/-- The reals that round to `significand · 2^exponent`. Below a power of two the neighbour is at
half the distance. -/
def Interval.around (significand : Nat) (exponent : Int) : Interval :=
  let unit := Nat.pow 2 (exponent - 2).toNat
  let narrow := significand == Nat.pow 2 52 && exponent > Binary64.minExponent
  { low := (4 * significand - (if narrow then 1 else 2)) * unit
    value := 4 * significand * unit
    high := (4 * significand + 2) * unit
    denominator := Nat.pow 2 (2 - exponent).toNat
    closed := significand % 2 == 0 }

/-- Whether `c · 10^p` lies in the interval. -/
def Interval.holds (i : Interval) (c : Nat) (p : Int) : Bool :=
  let x := c * Nat.pow 10 p.toNat * i.denominator
  let scale := Nat.pow 10 (-p).toNat
  if i.closed then i.low * scale ≤ x && x ≤ i.high * scale
  else i.low * scale < x && x < i.high * scale

/-- The decimal `c · 10^p` of the interval that is nearest to its value among those on the grid
with spacing `10^p`, if there is one. A value half-way between two takes the even one. -/
def Interval.nearest? (i : Interval) (p : Int) : Option Nat :=
  let num := i.value * Nat.pow 10 (-p).toNat
  let den := i.denominator * Nat.pow 10 p.toNat
  let c := num / den
  let twice := 2 * (num % den)
  let upper := twice > den || (twice == den && c % 2 == 1)
  match i.holds c p, i.holds (c + 1) p with
  | true, true => some (if upper then c + 1 else c)
  | true, false => some c
  | false, true => some (c + 1)
  | false, false => none

/-- The first grid with a decimal of the interval, going from `count` digits to `count + fuel`. -/
def Interval.search (i : Interval) (k : Int) : (fuel count : Nat) → Nat × Int
  | 0, count =>
    let p := k - count
    ((i.value * Nat.pow 10 (-p).toNat) / (i.denominator * Nat.pow 10 p.toNat), p)
  | fuel + 1, count =>
    match i.nearest? (k - count) with
    | some c => (c, k - count)
    | none => i.search k fuel (count + 1)

/-- The digits without the zeros at their end, and the exponent that makes up for them. -/
def strip : (fuel : Nat) → Nat × Int → Nat × Int
  | 0, d => d
  | fuel + 1, (c, p) => if c % 10 == 0 then strip fuel (c / 10, p + 1) else (c, p)

/-- The shortest decimal `c · 10^p` that reads back as `significand · 2^exponent`, for a positive
significand. Seventeen digits always suffice. -/
def shortest (significand : Nat) (exponent : Int) : Nat × Int :=
  let i := Interval.around significand exponent
  strip 20 (i.search (magnitude i.value i.denominator) 17 1)

end SyscallProfiler.Decimal
