import SyscallProfiler.Json.Reader

/-!
# Keys and plain values of TOML

Every reader takes the front of a text and gives what it read and the rest, or nothing where the
text does not follow the grammar of TOML 1.0. Why it does not is of no interest: a configuration
file that is not TOML is refused as a whole.
-/

namespace SyscallProfiler.Toml

def skipBlanks : List Char → List Char
  | [] => []
  | c :: rest => if c = ' ' || c = '\t' then skipBlanks rest else c :: rest

/-- Whether a character may stand in a comment or, but for quotation marks and escapes, in a
string: everything but the control characters other than the tab. -/
def isTextChar (c : Char) : Bool := c = '\t' || (32 ≤ c.toNat && c.toNat != 127)

def skipComment : List Char → List Char
  | '#' :: rest => rest.dropWhile isTextChar
  | text => text

/-- The text after a line feed, which may follow a carriage return. -/
def newline? : List Char → Option (List Char)
  | '\n' :: rest => some rest
  | '\r' :: '\n' :: rest => some rest
  | _ => none

/-- The text after the end of a line: blanks, a comment, and a line feed or the end of the text. -/
def lineEnd? (text : List Char) : Option (List Char) :=
  match skipComment (skipBlanks text) with
  | [] => some []
  | rest => newline? rest

/-- The text after blanks, comments and line feeds. `fuel` bounds their number. -/
def skipLines : (fuel : Nat) → List Char → List Char
  | 0, text => text
  | fuel + 1, text =>
    match skipComment (skipBlanks text) with
    | [] => []
    | rest =>
      match newline? rest with
      | some later => skipLines fuel later
      | none => rest

/-! ## Strings -/

/-- The character with a number that an escape gives. -/
def scalar? (n : Nat) : Option Char :=
  if n < 0xD800 || (0xE000 ≤ n && n ≤ 0x10FFFF) then some (Char.ofNat n) else none

/-- Reads hexadecimal digits, exactly as many as asked for. -/
def readHex : (count value : Nat) → List Char → Option (Nat × List Char)
  | 0, value, text => some (value, text)
  | count + 1, value, c :: rest =>
    match Json.hexValue? c with
    | some d => readHex count (16 * value + d) rest
    | none => none
  | _ + 1, _, [] => none

def readEscape : List Char → Option (Char × List Char)
  | 'b' :: rest => some (Char.ofNat 8, rest)
  | 't' :: rest => some ('\t', rest)
  | 'n' :: rest => some ('\n', rest)
  | 'f' :: rest => some (Char.ofNat 12, rest)
  | 'r' :: rest => some ('\r', rest)
  | '"' :: rest => some ('"', rest)
  | '\\' :: rest => some ('\\', rest)
  | 'u' :: rest => do
    let (n, later) ← readHex 4 0 rest
    return (← scalar? n, later)
  | 'U' :: rest => do
    let (n, later) ← readHex 8 0 rest
    return (← scalar? n, later)
  | _ => none

/-- Reads a string on one line with escapes, after its opening quotation mark. -/
def readBasic : (fuel : Nat) → (done : List Char) → List Char → Option (String × List Char)
  | 0, _, _ => none
  | _ + 1, _, [] => none
  | fuel + 1, done, c :: rest =>
    if c = '"' then some (String.ofList done.reverse, rest)
    else if c = '\\' then do
      let (d, later) ← readEscape rest
      readBasic fuel (d :: done) later
    else if isTextChar c then readBasic fuel (c :: done) rest
    else none

/-- The quotation mark of strings without escapes. -/
def apostrophe : Char := '\x27'

/-- Reads a string on one line without escapes, after its opening quotation mark. -/
def readLiteral : (done : List Char) → List Char → Option (String × List Char)
  | _, [] => none
  | done, c :: rest =>
    if c = apostrophe then some (String.ofList done.reverse, rest)
    else if isTextChar c then readLiteral (c :: done) rest
    else none

/-- How many times `mark` stands at the beginning of a text, up to five times. -/
def countMarks (mark : Char) (text : List Char) : Nat :=
  ((text.take 5).takeWhile (· == mark)).length

/-- The text after a backslash at the end of a line: the line feed and all blanks and line feeds
after it. -/
def skipContinuation? (text : List Char) : Option (List Char) :=
  (newline? (skipBlanks text)).map
    (List.dropWhile fun c => c = ' ' || c = '\t' || c = '\n' || c = '\r')

/-- Whether every carriage return in the front of a text that a continuation skipped stands before
a line feed. -/
def plainReturns : List Char → Bool
  | [] => true
  | '\r' :: '\n' :: rest => plainReturns rest
  | '\r' :: _ => false
  | _ :: rest => plainReturns rest

/-- Reads a string over several lines, after its opening marks. Three marks end it, and one or two
more before them belong to it. -/
def readLong (mark : Char) (escapes : Bool) :
    (fuel : Nat) → (done : List Char) → List Char → Option (String × List Char)
  | 0, _, _ => none
  | _ + 1, _, [] => none
  | fuel + 1, done, c :: rest =>
    if c = mark then
      let count := countMarks mark (c :: rest)
      if count ≥ 3 then
        some (String.ofList (List.replicate (count - 3) mark ++ done).reverse,
          (c :: rest).drop count)
      else readLong mark escapes fuel (c :: done) rest
    else if escapes && c = '\\' then
      match skipContinuation? rest with
      | some later =>
        if plainReturns (rest.take (rest.length - later.length)) then
          readLong mark escapes fuel done later
        else none
      | none => do
        let (d, later) ← readEscape rest
        readLong mark escapes fuel (d :: done) later
    else
      match newline? (c :: rest) with
      | some later => readLong mark escapes fuel ('\n' :: done) later
      | none => if isTextChar c then readLong mark escapes fuel (c :: done) rest else none

/-- Reads a string over several lines, from after its opening marks. A line feed right there does
not belong to it. -/
def readLongFrom (mark : Char) (escapes : Bool) (text : List Char) : Option (String × List Char) :=
  let text := (newline? text).getD text
  readLong mark escapes (text.length + 1) [] text

/-- Reads a string that begins with a quotation mark. -/
def readString : List Char → Option (String × List Char)
  | '"' :: '"' :: '"' :: rest => readLongFrom '"' true rest
  | '"' :: rest => readBasic (rest.length + 1) [] rest
  | a :: b :: c :: rest =>
    if a = apostrophe then
      if b = apostrophe && c = apostrophe then readLongFrom apostrophe false rest
      else readLiteral [] (b :: c :: rest)
    else none
  | a :: rest => if a = apostrophe then readLiteral [] rest else none
  | [] => none

/-! ## Keys -/

/-- Whether a character may stand in a key without quotation marks. -/
def isBare (c : Char) : Bool :=
  ('a' ≤ c && c ≤ 'z') || ('A' ≤ c && c ≤ 'Z') || ('0' ≤ c && c ≤ '9') || c = '_' || c = '-'

def readKeyPart : List Char → Option (String × List Char)
  | [] => none
  | c :: rest =>
    if c = '"' then readBasic (rest.length + 1) [] rest
    else if c = apostrophe then readLiteral [] rest
    else if isBare c then
      some (String.ofList ((c :: rest).takeWhile isBare), (c :: rest).dropWhile isBare)
    else none

/-- Reads the parts of a key. `fuel` bounds their number, of which there may be at most 79. -/
def readKeyParts : (fuel : Nat) → List Char → Option (List String × List Char)
  | 0, _ => none
  | fuel + 1, text => do
    let (part, rest) ← readKeyPart (skipBlanks text)
    match skipBlanks rest with
    | '.' :: later => do
      let (parts, final) ← readKeyParts fuel later
      return (part :: parts, final)
    | _ => return ([part], rest)

/-- Reads a key, whose parts are separated by dots. -/
def readKey (text : List Char) : Option (List String × List Char) := readKeyParts 79 text

/-! ## Numbers -/

/-- Reads digits of a kind, one underscore being allowed between two of them. -/
def readDigits (isDigit : Char → Bool) : List Char → Option (List Char × List Char)
  | [] => none
  | c :: rest =>
    if isDigit c then
      match rest with
      | '_' :: later => do
        let (ds, final) ← readDigits isDigit later
        return (c :: ds, final)
      | later =>
        match readDigits isDigit later with
        | some (ds, final) => some (c :: ds, final)
        | none =>
          match later with
          | d :: _ => if isDigit d then none else some ([c], later)
          | [] => some ([c], [])
    else none

/-- Reads the digits before a point: a zero alone, or digits that begin with another one. -/
def readWhole : List Char → Option (List Char × List Char)
  | '0' :: rest => some (['0'], rest)
  | text => readDigits Json.isDigit text

def ofDigits (base : Nat) (ds : List Char) : Nat :=
  ds.foldl (fun n c => base * n + (Json.hexValue? c).getD 0) 0

/-- An integer, if it fits 64 bits. -/
def integer? (n : Int) : Option Json :=
  if Json.isSigned n then some (.int n) else none

/-- Reads the digits of an integer in a base other than ten. -/
def readBased (base : Nat) (isDigit : Char → Bool) (text : List Char) :
    Option (Json × List Char) := do
  let (ds, rest) ← readDigits isDigit text
  return (← integer? (ofDigits base ds), rest)

def readExponent : List Char → Option (Int × List Char)
  | '-' :: rest => do
    let (ds, later) ← readDigits Json.isDigit rest
    return (-(ofDigits 10 ds : Int), later)
  | '+' :: rest => do
    let (ds, later) ← readDigits Json.isDigit rest
    return ((ofDigits 10 ds : Int), later)
  | text => do
    let (ds, later) ← readDigits Json.isDigit text
    return ((ofDigits 10 ds : Int), later)

/-- The floating-point number with the given decimal digits. One above all numbers is refused, one
below all numbers is negative infinity. -/
def float? (negative : Bool) (whole fraction : List Char) (exponent : Int) : Option Json :=
  match Binary64.ofDecimal negative (ofDigits 10 (whole ++ fraction))
      (exponent - fraction.length) with
  | .infinite false => none
  | x => some (.float x)

def readOptionalExponent : List Char → Option (Int × List Char)
  | 'e' :: rest => readExponent rest
  | 'E' :: rest => readExponent rest
  | text => some (0, text)

/-- Reads a decimal number whose sign has been read. -/
def readDecimal (negative : Bool) (text : List Char) : Option (Json × List Char) := do
  let (whole, rest) ← readWhole text
  match rest with
  | '.' :: later => do
    let (fraction, later) ← readDigits Json.isDigit later
    let (exponent, later) ← readOptionalExponent later
    return (← float? negative whole fraction exponent, later)
  | 'e' :: later | 'E' :: later => do
    let (exponent, later) ← readExponent later
    return (← float? negative whole [] exponent, later)
  | later =>
    let n : Int := ofDigits 10 whole
    return (← integer? (if negative then -n else n), later)

/-- Reads a number whose sign, if it has one, has been read. -/
def readUnsigned (negative : Bool) : List Char → Option (Json × List Char)
  | 'i' :: 'n' :: 'f' :: rest => some (.float (.infinite negative), rest)
  | 'n' :: 'a' :: 'n' :: rest => some (.float .nan, rest)
  | text => readDecimal negative text

def readNumber : List Char → Option (Json × List Char)
  | '+' :: rest => readUnsigned false rest
  | '-' :: rest => readUnsigned true rest
  | '0' :: 'x' :: rest => readBased 16 (fun c => (Json.hexValue? c).isSome) rest
  | '0' :: 'o' :: rest => readBased 8 (fun c => '0' ≤ c && c ≤ '7') rest
  | '0' :: 'b' :: rest => readBased 2 (fun c => c = '0' || c = '1') rest
  | text => readUnsigned false text

end SyscallProfiler.Toml
