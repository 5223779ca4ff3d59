import SyscallProfiler.Number.Binary64
import SyscallProfiler.Number.Shortest

/-!
# Numbers with a given number of places

A finite number is rounded exactly, a half going to the even neighbour, either to places after the
point or to significant digits.
-/

namespace SyscallProfiler.Decimal

/-- Digits filled up to a length with zeros in front. -/
def filled (length n : Nat) : List Char :=
  let text := digits n
  List.replicate (length - text.length) '0' ++ text

/-- `numerator / denominator` with so many places after the point. -/
def fixedText (places numerator denominator : Nat) : List Char :=
  let scaled := Binary64.roundHalfEven (numerator * Nat.pow 10 places) denominator
  let whole := digits (scaled / Nat.pow 10 places)
  if places = 0 then whole else whole ++ '.' :: filled places (scaled % Nat.pow 10 places)

/-- The exponent of the leading digit of `numerator / denominator`, which is not zero. -/
def leadOf (numerator denominator : Nat) : Int :=
  let guess : Int :=
    ((digits numerator).length : Int) - ((digits denominator).length : Int)
  let isBelow (e : Int) : Bool :=
    numerator * Nat.pow 10 (-e).toNat < denominator * Nat.pow 10 e.toNat
  if isBelow guess then guess - 1 else guess

/-- The significant digits of `numerator / denominator`, `more` after the leading one, and the
exponent of the leading one after rounding. -/
def significant (more numerator denominator : Nat) : Nat × Int :=
  if numerator = 0 then (0, 0)
  else
    let lead := leadOf numerator denominator
    let shift : Int := more - lead
    let c := Binary64.roundHalfEven (numerator * Nat.pow 10 shift.toNat)
      (denominator * Nat.pow 10 (-shift).toNat)
    if c = Nat.pow 10 (more + 1) then (Nat.pow 10 more, lead + 1) else (c, lead)

/-- An exponent with its sign and at least two digits. -/
def exponentPart (e : Int) : List Char :=
  'e' :: (if e < 0 then '-' else '+') :: filled 2 e.natAbs

/-- `numerator / denominator` with an exponent, and so many places after the leading digit. -/
def exponentialText (places numerator denominator : Nat) : List Char :=
  let (c, lead) := significant places numerator denominator
  let ds := filled (places + 1) c
  (match ds with
    | d :: rest => if rest.isEmpty then [d] else d :: '.' :: rest
    | [] => []) ++ exponentPart lead

/-- A text without the zeros at the end of its places, and without a point that nothing follows. -/
def withoutZeros (text : List Char) : List Char :=
  if text.contains '.' then
    let kept := (text.reverse.dropWhile (· = '0')).reverse
    if kept.getLast? = some '.' then kept.dropLast else kept
  else text

/-- `numerator / denominator` with so many significant digits at most, with an exponent only where
the number is very large or very small. Zeros at the end are left away unless all digits are
wanted. -/
def generalText (all : Bool) (count numerator denominator : Nat) : List Char :=
  let count := max count 1
  let shorten (text : List Char) : List Char := if all then text else withoutZeros text
  let (_, lead) := significant (count - 1) numerator denominator
  if lead < -4 || (count : Int) ≤ lead then
    let text := exponentialText (count - 1) numerator denominator
    let mantissa := text.takeWhile (· != 'e')
    shorten mantissa ++ text.drop mantissa.length
  else shorten (fixedText ((count : Int) - 1 - lead).toNat numerator denominator)

end SyscallProfiler.Decimal
