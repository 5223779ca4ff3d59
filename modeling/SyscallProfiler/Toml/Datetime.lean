import SyscallProfiler.Toml.Scalar

/-!
# Dates and times of TOML

A date, a time, or both with an optional offset. They are kept as their text, with a `T` between
date and time, under a key of their own.
-/

namespace SyscallProfiler.Toml

/-- Reads decimal digits, exactly as many as asked for. -/
def readPlaces : (count value : Nat) → List Char → Option (Nat × List Char)
  | 0, value, text => some (value, text)
  | count + 1, value, c :: rest =>
    if Json.isDigit c then readPlaces count (10 * value + Json.digitValue c) rest else none
  | _ + 1, _, [] => none

/-- Reads two digits whose value lies in a range. -/
def readTwo (low high : Nat) (text : List Char) : Option (Nat × List Char) := do
  let (n, rest) ← readPlaces 2 0 text
  if low ≤ n && n ≤ high then some (n, rest) else none

def daysIn (year month : Nat) : Nat :=
  let leap := year % 4 == 0 && (year % 100 != 0 || year % 400 == 0)
  if month == 2 then (if leap then 29 else 28)
  else if month == 4 || month == 6 || month == 9 || month == 11 then 30
  else 31

def padded (width n : Nat) : String :=
  let ds := Decimal.digits n
  String.ofList (List.replicate (width - ds.length) '0' ++ ds)

def readDate (text : List Char) : Option (String × List Char) := do
  let (year, rest) ← readPlaces 4 0 text
  let '-' :: rest := rest | none
  let (month, rest) ← readTwo 1 12 rest
  let '-' :: rest := rest | none
  let (day, rest) ← readTwo 1 31 rest
  if day ≤ daysIn year month then
    some (s!"{padded 4 year}-{padded 2 month}-{padded 2 day}", rest)
  else none

/-- Reads a fraction of a second if one comes next. It has at most nine places. -/
def readFraction : List Char → Option (String × List Char)
  | '.' :: rest =>
    let ds := rest.takeWhile Json.isDigit
    if ds.isEmpty then none
    else
      let kept := ((ds.take 9).reverse.dropWhile (· == '0')).reverse
      some (if kept.isEmpty then "" else "." ++ String.ofList kept, rest.drop ds.length)
  | text => some ("", text)

def readTime (text : List Char) : Option (String × List Char) := do
  let (hour, rest) ← readTwo 0 23 text
  let ':' :: rest := rest | none
  let (minute, rest) ← readTwo 0 59 rest
  let ':' :: rest := rest | none
  let (second, rest) ← readTwo 0 60 rest
  let (fraction, rest) ← readFraction rest
  some (s!"{padded 2 hour}:{padded 2 minute}:{padded 2 second}{fraction}", rest)

/-- Reads the offset of a time if one comes next. An offset of nothing has a plus sign. -/
def readOffset : List Char → Option (String × List Char)
  | c :: rest =>
    if c = 'Z' || c = 'z' then some ("Z", rest)
    else if c = '+' || c = '-' then do
      let (hour, rest) ← readTwo 0 23 rest
      let ':' :: rest := rest | none
      let (minute, rest) ← readTwo 0 59 rest
      let sign := if c = '-' && hour + minute != 0 then "-" else "+"
      some (s!"{sign}{padded 2 hour}:{padded 2 minute}", rest)
    else some ("", c :: rest)
  | [] => some ("", [])

/-- Whether a text begins with a date, as far as its first five characters show. -/
def startsDate (text : List Char) : Bool :=
  match text with
  | a :: b :: c :: d :: '-' :: _ => [a, b, c, d].all Json.isDigit
  | _ => false

/-- Whether a text begins with a time, as far as its first three characters show. -/
def startsTime (text : List Char) : Bool :=
  match text with
  | a :: b :: ':' :: _ => Json.isDigit a && Json.isDigit b
  | _ => false

/-- Reads a date with or without a time. -/
def readDatetime (text : List Char) : Option (String × List Char) := do
  let (date, rest) ← readDate text
  match rest with
  | c :: later =>
    if c = 'T' || c = 't' || (c = ' ' && startsTime later) then do
      let (time, later) ← readTime later
      let (offset, later) ← readOffset later
      return (date ++ "T" ++ time ++ offset, later)
    else return (date, rest)
  | [] => return (date, [])

end SyscallProfiler.Toml
