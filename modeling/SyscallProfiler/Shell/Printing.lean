import SyscallProfiler.Number.Places
import SyscallProfiler.Shell.Arithmetic
import SyscallProfiler.Text.Octets

/-!
# What `echo` and `printf` write

Escapes may stand for single octets, so what is written is octets and need not be text. A format
is gone through again for as long as arguments are left.
-/

namespace SyscallProfiler.Shell.Printing

def octalValue (digits : List Char) : Nat := digits.foldl (fun n c => 8 * n + Json.digitValue c) 0

def isOctal (c : Char) : Bool := '0' ≤ c && c ≤ '7'

def octetOf (c : Char) : UInt8 := UInt8.ofNat c.toNat

def letterEscape? (c : Char) : Option UInt8 :=
  if c = 'n' then some 10
  else if c = 't' then some 9
  else if c = 'r' then some 13
  else if c = 'a' then some 7
  else if c = 'b' then some 8
  else if c = 'e' then some 27
  else if c = 'f' then some 12
  else if c = 'v' then some 11
  else if c = '\\' then some 92
  else none

/-- Escapes of up to `most` octal digits at the beginning of a text: the octet, and what
follows. -/
def octalEscape (most : Nat) (text : List Char) : UInt8 × List Char :=
  let digits := (text.take most).takeWhile isOctal
  (UInt8.ofNat (octalValue digits % 256), text.drop digits.length)

/-- What follows a backslash: the octets that it stands for with the backslash, and what comes
after it. -/
def escape (text : List Char) : List UInt8 × List Char :=
  match text with
  | [] => ([92], [])
  | c :: rest =>
    if isOctal c then
      let (octet, later) := octalEscape 3 text
      ([octet], later)
    else
      match letterEscape? c with
      | some octet => ([octet], rest)
      | none => ([92], text)

/-- The octets of a text with escapes, and whether an escape ends all output. Octal escapes may
begin with a zero that does not count. -/
def escaped : (fuel : Nat) → List Char → List UInt8 × Bool
  | 0, _ => ([], false)
  | fuel + 1, text =>
    match text with
    | [] => ([], false)
    | '\\' :: 'c' :: _ => ([], true)
    | '\\' :: rest =>
      let start :=
        match rest with
        | '0' :: d :: later => if isOctal d then d :: later else rest
        | _ => rest
      let (here, later) := escape start
      let (octets, stop) := escaped fuel later
      (here ++ octets, stop)
    | c :: rest =>
      let (octets, stop) := escaped fuel rest
      (octetOf c :: octets, stop)

/-- What `echo` writes. -/
def echo (args : List String) : List UInt8 :=
  let (quiet, words) :=
    match args with
    | "-n" :: rest => (true, rest)
    | words => (false, words)
  let text := (" ".intercalate words).toList
  let (octets, stop) := escaped (text.length + 1) text
  if quiet || stop then octets else octets ++ [10]

/-! ## Directives -/

/-- A directive of a format: flags, width, precision and the letter. -/
structure Directive where
  flags : List Char
  width : Nat
  precision : Option Nat
  letter : Char
deriving Repr, Inhabited

namespace Directive

def has (d : Directive) (flag : Char) : Bool := d.flags.contains flag

/-- Octets filled up to the width with blanks. -/
def fill (d : Directive) (octets : List UInt8) : List UInt8 :=
  let missing := List.replicate (d.width - octets.length) (32 : UInt8)
  if d.has '-' then octets ++ missing else missing ++ octets

/-- A number filled up to the width: a sign or a mark of the base, and the digits. Zeros stand
between the two if they are asked for. -/
def fillNumber (d : Directive) (zeros : Bool) (sign digits : List Char) : List UInt8 :=
  let missing := d.width - (sign.length + digits.length)
  let text :=
    if zeros && d.has '0' && !d.has '-' then sign ++ List.replicate missing '0' ++ digits
    else sign ++ digits
  d.fill (text.map octetOf)

/-- A text cut to the precision. -/
def cut (d : Directive) (octets : List UInt8) : List UInt8 :=
  match d.precision with
  | some n => octets.take n
  | none => octets

def signOf (d : Directive) (negative : Bool) : List Char :=
  if negative then ['-'] else if d.has '+' then ['+'] else if d.has ' ' then [' '] else []

/-- Digits with at least as many places as the precision says; none at all for zero if it says
so. -/
def withPrecision (d : Directive) (digits : List Char) : List Char :=
  match d.precision with
  | none => digits
  | some n =>
    if n = 0 && digits = ['0'] then []
    else List.replicate (n - digits.length) '0' ++ digits

def signed (d : Directive) (n : Int) : List UInt8 :=
  d.fillNumber d.precision.isNone (d.signOf (n < 0)) (d.withPrecision (Decimal.digits n.natAbs))

/-- An integer without a sign, in the base of the letter. -/
def unsigned (d : Directive) (n : Nat) : List UInt8 :=
  let base := if d.letter = 'o' then 8 else if d.letter = 'u' then 10 else 16
  let plain := Nat.toDigits base n
  let digits := d.withPrecision (if d.letter = 'X' then plain.map Char.toUpper else plain)
  let mark : List Char :=
    if !d.has '#' || n = 0 then []
    else if d.letter = 'x' then ['0', 'x']
    else if d.letter = 'X' then ['0', 'X']
    else if d.letter = 'o' then ['0']
    else []
  d.fillNumber d.precision.isNone mark digits

def float (d : Directive) (x : Binary64) : List UInt8 :=
  let upper := d.letter.isUpper
  let shape (text : List Char) : List Char := if upper then text.map Char.toUpper else text
  match x with
  | .nan => d.fillNumber false [] (shape ['n', 'a', 'n'])
  | .infinite negative => d.fillNumber false (d.signOf negative) (shape ['i', 'n', 'f'])
  | .finite negative m e =>
    let (n, k) := Binary64.ratio m e
    let places := d.precision.getD 6
    let kind := d.letter.toLower
    let text :=
      if kind = 'f' then Decimal.fixedText places n k
      else if kind = 'e' then Decimal.exponentialText places n k
      else Decimal.generalText (d.has '#') places n k
    d.fillNumber true (d.signOf negative) (shape text)

end Directive

/-! ## Numbers in arguments -/

/-- A number that was read from an argument, and what is wrong with the argument. -/
structure Read (α : Type) where
  value : α
  complaint : Option String
deriving Repr, Inhabited

/-- The complaint about what is left of an argument after its number. -/
def complaintFor (arg : String) (text rest : List Char) (tooLarge : Bool) : Option String :=
  if !rest.isEmpty then
    if rest.length = text.length then some s!"{arg}: expected numeric value"
    else some s!"{arg}: not completely converted"
  else if tooLarge then some s!"{arg}: Numerical result out of range"
  else none

/-- Whether a character is a blank before a number. -/
def isSpace (c : Char) : Bool := c = ' ' || ('\t' ≤ c && c ≤ '\r')

def signAhead : List Char → Bool × List Char
  | '-' :: rest => (true, rest)
  | '+' :: rest => (false, rest)
  | text => (false, text)

/-- The integer at the beginning of an argument, with a sign. -/
def integerOf (arg : String) : Read (Bool × Nat) × List Char :=
  let text := arg.toList
  let (negative, digits) := signAhead (text.dropWhile isSpace)
  match digits with
  | c :: _ =>
    if Json.isDigit c then
      let (n, rest) := Arithmetic.numeral digits
      (⟨(negative, n), none⟩, rest)
    else (⟨(false, 0), none⟩, text)
  | [] => (⟨(false, 0), none⟩, text)

/-- The code of the character after a quotation mark, if an argument begins with one. -/
def quotedCode? (arg : String) : Option Nat :=
  match arg.toList with
  | c :: rest =>
    if c = '\x27' || c = '"' then some ((rest.head?.map Char.toNat).getD 0) else none
  | [] => none

def signedOf (arg : String) : Read Int :=
  match quotedCode? arg with
  | some n => ⟨n, none⟩
  | none =>
    let (r, rest) := integerOf arg
    let (negative, n) := r.value
    let tooLarge := n > Arithmetic.largest + (if negative then 1 else 0)
    let value : Int :=
      if negative then -Int.ofNat (min n Json.signedBound) else Int.ofNat (min n Arithmetic.largest)
    ⟨value, complaintFor arg arg.toList rest tooLarge⟩

/-- An argument as an integer without a sign; negative ones count from the end. -/
def unsignedOf (arg : String) : Read Nat :=
  match quotedCode? arg with
  | some n => ⟨n, none⟩
  | none =>
    let (r, rest) := integerOf arg
    let (negative, n) := r.value
    let tooLarge := n > Json.maxUnsigned
    let value :=
      if tooLarge then Json.maxUnsigned
      else if negative && n > 0 then Json.maxUnsigned + 1 - n
      else n
    ⟨value, complaintFor arg arg.toList rest tooLarge⟩

def exponentAhead (text : List Char) : Int × List Char :=
  match text with
  | e :: rest =>
    if e = 'e' || e = 'E' then
      let (negative, digits) := signAhead rest
      let ds := digits.takeWhile Json.isDigit
      if ds.isEmpty then (0, text)
      else
        let n : Int := Json.ofDigits ds
        (if negative then -n else n, digits.drop ds.length)
    else (0, text)
  | [] => (0, [])

/-- The floating-point number at the beginning of a text that has no sign, and what follows it. -/
def floatAhead (negative : Bool) (text : List Char) : Option (Binary64 × List Char) :=
  let lower := text.map Char.toLower
  if "infinity".toList.isPrefixOf lower then some (.infinite negative, text.drop 8)
  else if "inf".toList.isPrefixOf lower then some (.infinite negative, text.drop 3)
  else if "nan".toList.isPrefixOf lower then some (.nan, text.drop 3)
  else
    let whole := text.takeWhile Json.isDigit
    let rest := text.drop whole.length
    let (fraction, rest) :=
      match rest with
      | '.' :: later =>
        let ds := later.takeWhile Json.isDigit
        if whole.isEmpty && ds.isEmpty then ([], rest) else (ds, later.drop ds.length)
      | _ => ([], rest)
    if whole.isEmpty && fraction.isEmpty then none
    else
      let (e, rest) := exponentAhead rest
      some (.ofDecimal negative (Json.ofDigits (whole ++ fraction)) (e - fraction.length), rest)

def floatOf (arg : String) : Read Binary64 :=
  match quotedCode? arg with
  | some n => ⟨.ofNat n, none⟩
  | none =>
    let text := arg.toList
    let (negative, later) := signAhead (text.dropWhile isSpace)
    match floatAhead negative later with
    | some (x, rest) => ⟨x, complaintFor arg text rest false⟩
    | none => ⟨.zero false, complaintFor arg text text false⟩

/-! ## Formats -/

/-- What going through a format has done so far. -/
structure Progress where
  output : List UInt8
  args : List String
  complaints : List String
  /-- Whether nothing more is written. -/
  stopped : Bool
  /-- What is wrong with the format. -/
  fault : Option String
deriving Repr, Inhabited

namespace Progress

def write (p : Progress) (octets : List UInt8) : Progress := { p with output := p.output ++ octets }

def take (p : Progress) : Option String × Progress := (p.args.head?, { p with args := p.args.tail })

def note (p : Progress) (complaint : Option String) : Progress :=
  { p with complaints := p.complaints ++ complaint.toList }

/-- Takes the next argument as an integer, for a width or a precision. -/
def takeNumber (p : Progress) : Int × Progress :=
  let (arg, p) := p.take
  let r := signedOf (arg.getD "")
  (r.value, p.note r.complaint)

/-- Applies a directive to the next argument. -/
def apply (p : Progress) (d : Directive) : Progress :=
  let (arg, p) := p.take
  let text := arg.getD ""
  let c := d.letter
  if c = 's' then p.write (d.fill (d.cut (Text.Octets.bytes text)))
  else if c = 'c' then
    p.write (d.fill ((Text.Octets.bytes text).take 1 ++ if text = "" then [0] else []))
  else if c = 'b' then
    let (octets, stop) := escaped (text.length + 1) text.toList
    { p.write (d.fill (d.cut octets)) with stopped := stop }
  else if c = 'd' || c = 'i' then
    let r := signedOf text
    (p.note r.complaint).write (d.signed r.value)
  else if c = 'o' || c = 'u' || c = 'x' || c = 'X' then
    let r := unsignedOf text
    (p.note r.complaint).write (d.unsigned r.value)
  else
    let r := floatOf text
    (p.note r.complaint).write (d.float r.value)

end Progress

def letters : List Char :=
  ['s', 'c', 'b', 'd', 'i', 'o', 'u', 'x', 'X', 'e', 'E', 'f', 'F', 'g', 'G']

/-- A number in a directive: digits, or a star that takes an argument. -/
def numberIn (p : Progress) (text : List Char) : Option Int × Progress × List Char :=
  match text with
  | '*' :: rest =>
    let (n, p) := p.takeNumber
    (some n, p, rest)
  | _ =>
    let digits := text.takeWhile Json.isDigit
    (if digits.isEmpty then none else some (Json.ofDigits digits : Nat), p,
      text.drop digits.length)

/-- Carries out the directive after a percent sign: what has been done, and what follows it. -/
def directive (p : Progress) (text : List Char) : Progress × List Char :=
  let flags := text.takeWhile fun c => c = '-' || c = '0' || c = '+' || c = ' ' || c = '#'
  let (width, p, rest) := numberIn p (text.drop flags.length)
  let (precision, p, rest) : Option Int × Progress × List Char :=
    match rest with
    | '.' :: later =>
      let (n, p, rest) := numberIn p later
      (some (n.getD 0), p, rest)
    | rest => (none, p, rest)
  match rest with
  | [] => ({ p with stopped := true, fault := some "missing format character" }, [])
  | letter :: later =>
    if letters.contains letter then
      let w := width.getD 0
      let flags := if w < 0 then '-' :: flags else flags
      let d : Directive :=
        ⟨flags, w.natAbs, precision.bind fun n => if n < 0 then none else some n.toNat, letter⟩
      (p.apply d, later)
    else
      let shown := String.ofList ('%' :: text.take (text.length - later.length))
      ({ p with stopped := true, fault := some s!"{shown}: invalid directive" }, later)

def pass : (fuel : Nat) → Progress → List Char → Progress
  | 0, p, _ => p
  | fuel + 1, p, text =>
    if p.stopped then p
    else
      match text with
      | [] => p
      | '\\' :: rest =>
        let (octets, later) := escape rest
        pass fuel (p.write octets) later
      | '%' :: '%' :: rest => pass fuel (p.write [37]) rest
      | '%' :: rest =>
        let (p, later) := directive p rest
        pass fuel p later
      | c :: rest =>
        let plain := rest.takeWhile fun c => c != '\\' && c != '%'
        pass fuel (p.write (octetOf c :: plain.map octetOf)) (rest.drop plain.length)

/-- Goes through a format until no arguments are left. -/
def repeated (format : List Char) : (fuel : Nat) → Progress → Progress
  | 0, p => p
  | fuel + 1, p =>
    let next := pass (format.length + 1) p format
    if next.stopped || next.args.isEmpty || next.args.length = p.args.length then next
    else repeated format fuel next

/-- What `printf` does with a format and arguments. -/
def printf (format : String) (args : List String) : Progress :=
  repeated format.toList (args.length + 1) ⟨[], args, [], false, none⟩

end SyscallProfiler.Shell.Printing
