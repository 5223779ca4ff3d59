/-!
# Binary floating-point numbers of 64 bits

A finite number is a sign, a significand below 2^53 and a binary exponent. Every operation is the
exact rational result rounded to the nearest such number, a half going to the even significand, so
that all arithmetic here is arithmetic on natural numbers.
-/

namespace SyscallProfiler

/-- A binary floating-point number of 64 bits. `finite negative m e` is `m · 2^e` with its sign;
`m` is below `2^53`, `e` at least `-1074`, and `m` is at least `2^52` unless `e` is `-1074`. -/
inductive Binary64 where
  | finite (negative : Bool) (significand : Nat) (exponent : Int)
  | infinite (negative : Bool)
  | nan
deriving DecidableEq, Repr, Inhabited

namespace Binary64

def minExponent : Int := -1074

def maxExponent : Int := 971

def zero (negative : Bool) : Binary64 := .finite negative 0 minExponent

/-- `numerator · 2^(-exponent) / denominator`, as a quotient of natural numbers. -/
def scaled (numerator denominator : Nat) (exponent : Int) : Nat × Nat :=
  (numerator * Nat.pow 2 (-exponent).toNat, denominator * Nat.pow 2 exponent.toNat)

/-- The exponent at which `numerator / denominator` has a significand of 53 bits, or the least
exponent where that is greater. -/
def exponentOf (numerator denominator : Nat) : Int :=
  let guess := max minExponent ((numerator.log2 : Int) - (denominator.log2 : Int) - 52)
  let (n, d) := scaled numerator denominator guess
  if guess > minExponent && n / d < Nat.pow 2 52 then guess - 1 else guess

/-- The quotient rounded to a natural number, a half going to the even neighbour. -/
def roundHalfEven (n d : Nat) : Nat :=
  let q := n / d
  let twice := 2 * (n % d)
  if twice > d || (twice == d && q % 2 == 1) then q + 1 else q

/-- The number nearest to `numerator / denominator`, with the given sign. -/
def ofRatio (negative : Bool) (numerator denominator : Nat) : Binary64 :=
  if numerator == 0 then zero negative
  else
    let e := exponentOf numerator denominator
    let (n, d) := scaled numerator denominator e
    let m := roundHalfEven n d
    let (m, e) := if m == Nat.pow 2 53 then (Nat.pow 2 52, e + 1) else (m, e)
    if e > maxExponent then .infinite negative else .finite negative m e

/-- The number nearest to `digits · 10^exponent`, with the given sign. -/
def ofDecimal (negative : Bool) (digits : Nat) (exponent : Int) : Binary64 :=
  let magnitude := (digits.log2 : Int) + 4 * exponent
  if digits == 0 then zero negative
  else if exponent > 400 then .infinite negative
  else if magnitude < -6000 && exponent < -400 && exponent + (digits.log2 : Int) < -400 then
    zero negative
  else ofRatio negative (digits * Nat.pow 10 exponent.toNat) (Nat.pow 10 (-exponent).toNat)

/-- The number nearest to a natural number. -/
def ofNat (n : Nat) : Binary64 := ofRatio false n 1

/-- The magnitude of a finite number as a quotient of natural numbers. -/
def ratio (significand : Nat) (exponent : Int) : Nat × Nat :=
  (significand * Nat.pow 2 exponent.toNat, Nat.pow 2 (-exponent).toNat)

/-- The product of two numbers that are not negative. -/
def mul : Binary64 → Binary64 → Binary64
  | .finite _ m e, .finite _ m' e' =>
    let (n, d) := ratio m e
    let (n', d') := ratio m' e'
    ofRatio false (n * n') (d * d')
  | _, _ => .infinite false

/-- The quotient of two numbers that are not negative, the second of them not zero. -/
def div : Binary64 → Binary64 → Binary64
  | .finite _ m e, .finite _ m' e' =>
    let (n, d) := ratio m e
    let (n', d') := ratio m' e'
    ofRatio false (n * d') (d * n')
  | _, _ => .infinite false

def neg : Binary64 → Binary64
  | .finite s m e => .finite (!s) m e
  | .infinite s => .infinite (!s)
  | .nan => .nan

end Binary64

end SyscallProfiler
