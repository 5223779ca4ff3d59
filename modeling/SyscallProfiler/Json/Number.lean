import SyscallProfiler.Json.Basic
import SyscallProfiler.Number.Shortest

/-!
# Numbers in JSON texts

Writing: an integer is its decimal digits; a floating-point number is the shortest decimal that
reads back, always with a point or an exponent so that it stays apart from an integer.

Reading: digits without point and exponent are an integer as long as they fit 64 bits. Anything
else is a floating-point number, read with one rounding of the leading digits and one of the
product with a power of ten. The result can differ from the nearest number in the last place.
-/

namespace SyscallProfiler.Json

/-- How floating-point numbers are laid out. -/
structure FloatLayout where
  /-- The least decimal exponent that is written with a point. -/
  leastPositional : Int
  /-- The greatest decimal exponent that is written with a point. -/
  greatestPositional : Int

/-- From `0.00001` up to sixteen digits before the point, a number is written with a point. -/
def floatLayout : FloatLayout := ⟨-5, 15⟩

/-- The decimal digits of an integer, after a minus sign if it is negative. -/
def intText (n : Int) : List Char :=
  if n < 0 then '-' :: Decimal.digits n.natAbs else Decimal.digits n.natAbs

/-- A decimal exponent with its sign, which is always written. -/
def exponentText (e : Int) : List Char :=
  if e < 0 then '-' :: Decimal.digits e.natAbs else '+' :: Decimal.digits e.natAbs

/-- The text of the decimal `c · 10^p`. -/
def decimalText (layout : FloatLayout) (c : Nat) (p : Int) : List Char :=
  let digits := Decimal.digits c
  -- the exponent of the leading digit
  let lead := p + digits.length - 1
  if layout.leastPositional ≤ lead && lead ≤ layout.greatestPositional then
    if 0 ≤ p then digits ++ List.replicate p.toNat '0' ++ ['.', '0']
    else if 0 ≤ lead then
      digits.take (lead.toNat + 1) ++ '.' :: digits.drop (lead.toNat + 1)
    else '0' :: '.' :: List.replicate (-lead - 1).toNat '0' ++ digits
  else
    match digits with
    | [d] => d :: 'e' :: exponentText lead
    | d :: more => d :: '.' :: more ++ 'e' :: exponentText lead
    | [] => []

/-- The text of a floating-point number. JSON has no infinities and no not-a-number. -/
def floatText : Binary64 → List Char
  | .finite negative m e =>
    let magnitude :=
      if m == 0 then ['0', '.', '0']
      else
        let (c, p) := Decimal.shortest m e
        decimalText floatLayout c p
    if negative then '-' :: magnitude else magnitude
  | _ => ['n', 'u', 'l', 'l']

def isDigit (c : Char) : Bool := '0' ≤ c && c ≤ '9'

def digitValue (c : Char) : Nat := c.toNat - 48

def hexValue? (c : Char) : Option Nat :=
  if isDigit c then some (digitValue c)
  else if 'a' ≤ c && c ≤ 'f' then some (c.toNat - 87)
  else if 'A' ≤ c && c ≤ 'F' then some (c.toNat - 55)
  else none

def ofDigits (ds : List Char) : Nat := ds.foldl (fun n c => 10 * n + digitValue c) 0

/-- The greatest value of 64 bits without a sign. -/
def maxUnsigned : Nat := Nat.pow 2 64 - 1

/-- Numbers of 64 bits with a sign begin this far below zero, and end before it. -/
def signedBound : Nat := Nat.pow 2 63

/-- Whether a number fits 64 bits with a sign. -/
def isSigned (n : Int) : Bool := -Int.ofNat signedBound ≤ n && n < Int.ofNat signedBound

/-- Extends a significand by digits while it fits 64 bits, and counts the digits it took. -/
def extend (significand : Nat) : (ds : List Char) → (taken : Nat) → Nat × Nat
  | [], taken => (significand, taken)
  | c :: ds, taken =>
    let next := 10 * significand + digitValue c
    if next > maxUnsigned then (significand, taken) else extend next ds (taken + 1)

/-- The power of ten with the given exponent, rounded. -/
def powerOfTen (n : Nat) : Binary64 := Binary64.ofNat (Nat.pow 10 n)

/-- `x · 10^exponent` with one rounding per factor; `none` if it is beyond all numbers. Exponents
below -308 take several factors, and the value is zero after at most three of them. -/
def scale (x : Binary64) : (fuel : Nat) → (exponent : Int) → Option Binary64
  | 0, _ => some (Binary64.zero false)
  | fuel + 1, exponent =>
    if x == Binary64.zero false then some x
    else if exponent > 308 then none
    else if 0 ≤ exponent then
      match x.mul (powerOfTen exponent.toNat) with
      | .infinite _ => none
      | y => some y
    else if -308 ≤ exponent then some (x.div (powerOfTen (-exponent).toNat))
    else scale (x.div (powerOfTen 308)) fuel (exponent + 308)

/-- The parts of a number as it stands in a text. -/
structure NumberText where
  negative : Bool
  whole : List Char
  /-- The digits after the point, if there is one. -/
  fraction : Option (List Char)
  /-- The decimal exponent, if one is written. -/
  exponent : Option Int

/-- The floating-point number that a text spells; `none` if it is beyond all numbers. -/
def NumberText.float? (t : NumberText) : Option Binary64 :=
  let (lead, takenWhole) := extend 0 t.whole 0
  let fraction := t.fraction.getD []
  let (significand, takenFraction) := extend lead fraction 0
  let exponent : Int :=
    (t.exponent.getD 0) + (t.whole.length - takenWhole : Nat) - takenFraction
  (scale (Binary64.ofNat significand) 4 exponent).map fun x => if t.negative then x.neg else x

/-- The value that a text spells; `none` if it is a number beyond all numbers. An integer that
does not fit 64 bits is a floating-point number, and so is minus zero. -/
def NumberText.value? (t : NumberText) : Option Json :=
  match t.fraction, t.exponent with
  | none, none =>
    let n := ofDigits t.whole
    if !t.negative && n ≤ maxUnsigned then some (.int n)
    else if t.negative && 0 < n && n ≤ signedBound then some (.int (-n))
    else t.float?.map .float
  | _, _ => t.float?.map .float

end SyscallProfiler.Json
