import SyscallProfiler.Json.Number

/-!
# Reading JSON

The reader goes through a text once from the left and names the first thing that is wrong with
it. Values may be nested 127 deep. In an object the last binding of a key wins.

`read` is the reader. The steps it is made of are public because invocation scripts are read field
by field. `skip` passes over a value that nobody needs: it checks the grammar only, and so neither
limits the nesting nor minds a number that is too large or half of a surrogate pair.
-/

namespace SyscallProfiler.Json

/-- What can be wrong with a text that should be JSON. -/
inductive SyntaxError where
  | endOfValue
  | endOfList
  | endOfObject
  | endOfString
  | expectedValue
  | expectedIdent
  | expectedColon
  | expectedListEnd
  | expectedObjectEnd
  | keyNotString
  | trailingComma
  | trailingCharacters
  | invalidNumber
  | numberOutOfRange
  | invalidEscape
  | endOfHexEscape
  | loneSurrogate
  | controlCharacter
  | tooDeep
deriving DecidableEq, Repr, Inhabited

def SyntaxError.message : SyntaxError → String
  | .endOfValue => "EOF while parsing a value"
  | .endOfList => "EOF while parsing a list"
  | .endOfObject => "EOF while parsing an object"
  | .endOfString => "EOF while parsing a string"
  | .expectedValue => "expected value"
  | .expectedIdent => "expected ident"
  | .expectedColon => "expected `:`"
  | .expectedListEnd => "expected `,` or `]`"
  | .expectedObjectEnd => "expected `,` or `\x7d`"
  | .keyNotString => "key must be a string"
  | .trailingComma => "trailing comma"
  | .trailingCharacters => "trailing characters"
  | .invalidNumber => "invalid number"
  | .numberOutOfRange => "number out of range"
  | .invalidEscape => "invalid escape"
  | .endOfHexEscape => "unexpected end of hex escape"
  | .loneSurrogate => "lone leading surrogate in hex escape"
  | .controlCharacter => "control character (\\u0000-\\u001F) found while parsing a string"
  | .tooDeep => "recursion limit exceeded"

/-- The outcome of reading the front of a text: what was read and the characters after it. -/
abbrev Reading (α : Type) := Except SyntaxError (α × List Char)

/-- How deep values may be nested. -/
def maxDepth : Nat := 127

def isSpace (c : Char) : Bool := c = ' ' || c = '\n' || c = '\t' || c = '\r'

/-- The text without the blanks at its beginning. -/
def skipSpace : List Char → List Char
  | [] => []
  | c :: rest => if isSpace c then skipSpace rest else c :: rest

/-- Reads the given characters of `null`, `true` or `false`. -/
def readIdent : (expected text : List Char) → Except SyntaxError (List Char)
  | [], text => .ok text
  | _ :: _, [] => .error .endOfValue
  | c :: expected, d :: text =>
    if c = d then readIdent expected text else .error .expectedIdent

/-- The digits at the beginning of a text, and what follows them. -/
def spanDigits : List Char → List Char × List Char
  | [] => ([], [])
  | c :: rest =>
    if isDigit c then
      let (ds, later) := spanDigits rest
      (c :: ds, later)
    else ([], c :: rest)

/-- Reads digits, at least one. A text that ends too early counts as `early`. -/
def readDigits (early : SyntaxError) (text : List Char) : Reading (List Char) :=
  match spanDigits text with
  | ([], []) => .error early
  | ([], _ :: _) => .error .invalidNumber
  | (ds, rest) => .ok (ds, rest)

/-- Reads the digits before the point: a zero alone, or digits that begin with another one. -/
def readWhole (early : SyntaxError) : List Char → Reading (List Char)
  | [] => .error early
  | '0' :: c :: rest => if isDigit c then .error .invalidNumber else .ok (['0'], c :: rest)
  | c :: rest => readDigits early (c :: rest)

/-- Reads a point and the digits after it, if a point comes next. -/
def readFraction (early : SyntaxError) : List Char → Reading (Option (List Char))
  | '.' :: rest =>
    match readDigits early rest with
    | .ok (ds, later) => .ok (some ds, later)
    | .error e => .error e
  | text => .ok (none, text)

/-- Reads the sign and the digits of an exponent. -/
def readSignedDigits (early : SyntaxError) : List Char → Reading Int
  | '-' :: rest =>
    match readDigits early rest with
    | .ok (ds, later) => .ok (-(ofDigits ds : Int), later)
    | .error e => .error e
  | '+' :: rest =>
    match readDigits early rest with
    | .ok (ds, later) => .ok (ofDigits ds, later)
    | .error e => .error e
  | text =>
    match readDigits early text with
    | .ok (ds, later) => .ok (ofDigits ds, later)
    | .error e => .error e

def readExponent (early : SyntaxError) : List Char → Reading (Option Int)
  | c :: rest =>
    if c = 'e' || c = 'E' then
      match readSignedDigits early rest with
      | .ok (n, later) => .ok (some n, later)
      | .error e => .error e
    else .ok (none, c :: rest)
  | [] => .ok (none, [])

/-- Reads the parts of a number whose sign has been read. -/
def readNumberText (early : SyntaxError) (negative : Bool) (text : List Char) :
    Reading NumberText :=
  match readWhole early text with
  | .error e => .error e
  | .ok (whole, rest) =>
    match readFraction early rest with
    | .error e => .error e
    | .ok (fraction, rest) =>
      match readExponent early rest with
      | .error e => .error e
      | .ok (exponent, rest) => .ok (⟨negative, whole, fraction, exponent⟩, rest)

/-- Reads a number whose sign has been read. -/
def readNumber (negative : Bool) (text : List Char) : Reading Json :=
  match readNumberText .endOfValue negative text with
  | .error e => .error e
  | .ok (number, rest) =>
    match number.value? with
    | some v => .ok (v, rest)
    | none => .error .numberOutOfRange

def hexQuad? (a b c d : Char) : Option Nat :=
  match hexValue? a, hexValue? b, hexValue? c, hexValue? d with
  | some a, some b, some c, some d => some (((a * 16 + b) * 16 + c) * 16 + d)
  | _, _, _, _ => none

/-- How many octets of UTF-8 the characters take. -/
def octets (text : List Char) : Nat := (text.map (·.utf8Size)).foldl (· + ·) 0

/-- Reads four hexadecimal digits. A text with fewer than four octets left ends too early. -/
def readHexQuad : (text : List Char) →
    Except SyntaxError (Nat × { rest : List Char // rest.length ≤ text.length })
  | a :: b :: c :: d :: rest =>
    match hexQuad? a b c d with
    | some n => .ok (n, ⟨rest, by simp; omega⟩)
    | none => .error .invalidEscape
  | text => if octets text < 4 then .error .endOfString else .error .invalidEscape

/-- Whether a value of 16 bits is the first half of a surrogate pair. -/
def isHighSurrogate (n : Nat) : Bool := 0xD800 ≤ n && n ≤ 0xDBFF

/-- Whether a value of 16 bits is the second half of a surrogate pair. -/
def isLowSurrogate (n : Nat) : Bool := 0xDC00 ≤ n && n ≤ 0xDFFF

/-- Reads what follows `\u`: one escape, or the two of a surrogate pair. -/
def readUnicode (text : List Char) :
    Except SyntaxError (Char × { rest : List Char // rest.length ≤ text.length }) :=
  match readHexQuad text with
  | .error e => .error e
  | .ok (n, ⟨rest, hrest⟩) =>
    if isLowSurrogate n then .error .loneSurrogate
    else if !isHighSurrogate n then .ok (Char.ofNat n, ⟨rest, hrest⟩)
    else
      match rest, hrest with
      | [], _ => .error .endOfString
      | '\\' :: [], _ => .error .endOfString
      | '\\' :: 'u' :: later, hlater =>
        match readHexQuad later with
        | .error e => .error e
        | .ok (m, ⟨final, hfinal⟩) =>
          if isLowSurrogate m then
            .ok (Char.ofNat (0x10000 + (n - 0xD800) * 0x400 + (m - 0xDC00)),
              ⟨final, by simp only [List.length_cons] at hlater; omega⟩)
          else .error .loneSurrogate
      | _, _ => .error .endOfHexEscape

def simpleEscape? (c : Char) : Option Char :=
  if c = '"' then some '"'
  else if c = '\\' then some '\\'
  else if c = '/' then some '/'
  else if c = 'b' then some (Char.ofNat 8)
  else if c = 'f' then some (Char.ofNat 12)
  else if c = 'n' then some '\n'
  else if c = 'r' then some '\r'
  else if c = 't' then some '\t'
  else none

def readEscape : (text : List Char) →
    Except SyntaxError (Char × { rest : List Char // rest.length ≤ text.length })
  | [] => .error .endOfString
  | c :: rest =>
    match simpleEscape? c with
    | some d => .ok (d, ⟨rest, by simp⟩)
    | none =>
      if c = 'u' then
        match readUnicode rest with
        | .error e => .error e
        | .ok (d, ⟨later, h⟩) => .ok (d, ⟨later, by simp only [List.length_cons]; omega⟩)
      else .error .invalidEscape

/-- Reads the characters of a string whose opening quotation mark has been read. -/
def readChars : List Char → Reading (List Char)
  | [] => .error .endOfString
  | c :: rest =>
    if c = '"' then .ok ([], rest)
    else if c = '\\' then
      match readEscape rest with
      | .error e => .error e
      | .ok (d, ⟨later, _⟩) =>
        match readChars later with
        | .error e => .error e
        | .ok (cs, final) => .ok (d :: cs, final)
    else if c.toNat < 32 then .error .controlCharacter
    else
      match readChars rest with
      | .error e => .error e
      | .ok (cs, final) => .ok (c :: cs, final)
termination_by text => text.length
decreasing_by
  · simp only [List.length_cons]; omega
  · simp only [List.length_cons]; omega

/-- Reads a string whose opening quotation mark has been read. -/
def readString (text : List Char) : Reading String :=
  match readChars text with
  | .error e => .error e
  | .ok (cs, rest) => .ok (String.ofList cs, rest)

/-- Reads `null`, a truth value, a number or a string, whose first character is `c`. -/
def readScalar (c : Char) (rest : List Char) : Reading Json :=
  if c = 'n' then (readIdent ['u', 'l', 'l'] rest).map (.null, ·)
  else if c = 't' then (readIdent ['r', 'u', 'e'] rest).map (.bool true, ·)
  else if c = 'f' then (readIdent ['a', 'l', 's', 'e'] rest).map (.bool false, ·)
  else if c = '-' then readNumber true rest
  else if isDigit c then readNumber false (c :: rest)
  else if c = '"' then
    match readString rest with
    | .error e => .error e
    | .ok (s, later) => .ok (.str s, later)
  else .error .expectedValue

/-- Reads the rest of a list after one of its items. `fuel` bounds the number of items. -/
def readMoreItems (readItem : List Char → Reading Json) : (fuel : Nat) → List Char →
    Reading (List Json)
  | 0, _ => .error .endOfList
  | fuel + 1, text =>
    match skipSpace text with
    | [] => .error .endOfList
    | ']' :: rest => .ok ([], rest)
    | ',' :: rest =>
      match skipSpace rest with
      | [] => .error .endOfValue
      | ']' :: _ => .error .trailingComma
      | later =>
        match readItem later with
        | .error e => .error e
        | .ok (v, after) =>
          match readMoreItems readItem fuel after with
          | .error e => .error e
          | .ok (vs, final) => .ok (v :: vs, final)
    | _ => .error .expectedListEnd

/-- Reads the items of a list whose opening bracket has been read. -/
def readItems (readItem : List Char → Reading Json) (text : List Char) : Reading (List Json) :=
  match skipSpace text with
  | [] => .error .endOfList
  | ']' :: rest => .ok ([], rest)
  | later =>
    match readItem later with
    | .error e => .error e
    | .ok (v, after) =>
      match readMoreItems readItem (after.length + 1) after with
      | .error e => .error e
      | .ok (vs, final) => .ok (v :: vs, final)

def readColon (text : List Char) : Except SyntaxError (List Char) :=
  match skipSpace text with
  | [] => .error .endOfObject
  | ':' :: rest => .ok rest
  | _ => .error .expectedColon

/-- Reads a field whose opening quotation mark has been read. -/
def readField (readItem : List Char → Reading Json) (text : List Char) :
    Reading (String × Json) :=
  match readString text with
  | .error e => .error e
  | .ok (key, rest) =>
    match readColon rest with
    | .error e => .error e
    | .ok rest =>
      match readItem rest with
      | .error e => .error e
      | .ok (v, rest) => .ok ((key, v), rest)

/-- Goes to the next key of an object after one of its fields: the text after the opening
quotation mark of the key, or the text after the closing brace. -/
def nextKey (text : List Char) : Except SyntaxError (List Char ⊕ List Char) :=
  match skipSpace text with
  | [] => .error .endOfObject
  | '}' :: rest => .ok (.inr rest)
  | ',' :: rest =>
    match skipSpace rest with
    | [] => .error .endOfValue
    | '"' :: later => .ok (.inl later)
    | '}' :: _ => .error .trailingComma
    | _ => .error .keyNotString
  | _ => .error .expectedObjectEnd

/-- Goes to the first key of an object whose opening brace has been read. -/
def firstKey (text : List Char) : Except SyntaxError (List Char ⊕ List Char) :=
  match skipSpace text with
  | [] => .error .endOfObject
  | '}' :: rest => .ok (.inr rest)
  | '"' :: rest => .ok (.inl rest)
  | _ => .error .keyNotString

/-- Reads the rest of an object after one of its fields. `fuel` bounds the number of fields. -/
def readMoreFields (readItem : List Char → Reading Json) : (fuel : Nat) → List Char →
    Reading Fields
  | 0, _ => .error .endOfObject
  | fuel + 1, text =>
    match nextKey text with
    | .error e => .error e
    | .ok (.inr rest) => .ok ([], rest)
    | .ok (.inl rest) =>
      match readField readItem rest with
      | .error e => .error e
      | .ok (f, after) =>
        match readMoreFields readItem fuel after with
        | .error e => .error e
        | .ok (fs, final) => .ok (f :: fs, final)

/-- Reads the fields of an object whose opening brace has been read. -/
def readFields (readItem : List Char → Reading Json) (text : List Char) : Reading Fields :=
  match firstKey text with
  | .error e => .error e
  | .ok (.inr rest) => .ok ([], rest)
  | .ok (.inl rest) =>
    match readField readItem rest with
    | .error e => .error e
    | .ok (f, after) =>
      match readMoreFields readItem (after.length + 1) after with
      | .error e => .error e
      | .ok (fs, final) => .ok (f :: fs, final)

/-- Reads a value that may open `depth` levels of lists and objects. -/
def readValue : (depth : Nat) → List Char → Reading Json
  | 0, text =>
    match skipSpace text with
    | [] => .error .endOfValue
    | c :: rest => if c = '[' || c = '{' then .error .tooDeep else readScalar c rest
  | depth + 1, text =>
    match skipSpace text with
    | [] => .error .endOfValue
    | c :: rest =>
      if c = '[' then
        match readItems (readValue depth) rest with
        | .error e => .error e
        | .ok (vs, later) => .ok (.arr vs, later)
      else if c = '{' then
        match readFields (readValue depth) rest with
        | .error e => .error e
        | .ok (fs, later) => .ok (object fs, later)
      else readScalar c rest

/-- Accepts what was read if only blanks follow it. -/
def atEnd {α : Type} : Reading α → Except SyntaxError α
  | .error e => .error e
  | .ok (a, rest) => if (skipSpace rest).isEmpty then .ok a else .error .trailingCharacters

/-- Reads a text that is one value. -/
def read (text : List Char) : Except SyntaxError Json :=
  atEnd (readValue maxDepth text)

/-- Reads a string that is one value. -/
def ofText (s : String) : Except SyntaxError Json := read s.toList

/-! ## Passing over values -/

/-- Passes over a string whose opening quotation mark has been read. -/
def skipString : List Char → Except SyntaxError (List Char)
  | [] => .error .endOfString
  | c :: rest =>
    if c = '"' then .ok rest
    else if c = '\\' then
      match rest with
      | [] => .error .endOfString
      | d :: later =>
        if (simpleEscape? d).isSome then skipString later
        else if d = 'u' then
          match readHexQuad later with
          | .error e => .error e
          | .ok (_, ⟨final, _⟩) => skipString final
        else .error .invalidEscape
    else if c.toNat < 32 then .error .controlCharacter
    else skipString rest
termination_by text => text.length
decreasing_by
  all_goals simp only [List.length_cons]
  all_goals omega

/-- Passes over `null`, a truth value, a number or a string, whose first character is `c`. -/
def skipScalar (c : Char) (rest : List Char) : Except SyntaxError (List Char) :=
  if c = 'n' then readIdent ['u', 'l', 'l'] rest
  else if c = 't' then readIdent ['r', 'u', 'e'] rest
  else if c = 'f' then readIdent ['a', 'l', 's', 'e'] rest
  else if c = '-' then (readNumberText .invalidNumber true rest).map (·.2)
  else if isDigit c then (readNumberText .invalidNumber false (c :: rest)).map (·.2)
  else if c = '"' then skipString rest
  else .error .expectedValue

/-- A container that is being passed over. -/
inductive Frame where
  | list
  | object
deriving DecidableEq, Repr

/-- What a text that ends inside a container lacks. -/
def Frame.early : Frame → SyntaxError
  | .list => .endOfList
  | .object => .endOfObject

/-- What should have come instead of another character after an item of a container. -/
def Frame.unclosed : Frame → SyntaxError
  | .list => .expectedListEnd
  | .object => .expectedObjectEnd

def Frame.closing : Frame → Char
  | .list => ']'
  | .object => '}'

/-- Passes over a key and its colon. -/
def skipKey (text : List Char) : Except SyntaxError (List Char) :=
  match skipSpace text with
  | [] => .error .endOfObject
  | c :: rest =>
    if c = '"' then
      match skipString rest with
      | .error e => .error e
      | .ok later => readColon later
    else .error .keyNotString

mutual

/-- Passes over a value inside the containers `open_`, innermost first, and on to their ends.
`fuel` bounds the number of values and closings. -/
def skipValue : (fuel : Nat) → (open_ : List Frame) → List Char →
    Except SyntaxError (List Char)
  | 0, _, _ => .error .endOfValue
  | fuel + 1, open_, text =>
    match skipSpace text with
    | [] => .error .endOfValue
    | c :: rest =>
      if c = '[' then skipInside fuel false .list open_ rest
      else if c = '{' then skipInside fuel false .object open_ rest
      else
        match skipScalar c rest with
        | .error e => .error e
        | .ok later =>
          match open_ with
          | [] => .ok later
          | frame :: outer => skipInside fuel true frame outer later

/-- Passes over the rest of a container; `afterItem` says whether an item was just passed. -/
def skipInside : (fuel : Nat) → (afterItem : Bool) → Frame → (outer : List Frame) → List Char →
    Except SyntaxError (List Char)
  | 0, _, frame, _, _ => .error frame.early
  | fuel + 1, afterItem, frame, outer, text =>
    match skipSpace text with
    | [] => .error frame.early
    | c :: rest =>
      if c = frame.closing then
        match outer with
        | [] => .ok rest
        | next :: further => skipInside fuel true next further rest
      else if c = ',' && afterItem then skipNext fuel frame outer rest
      else if afterItem then .error frame.unclosed
      else skipNext fuel frame outer (c :: rest)

/-- Passes over the next item of a container. -/
def skipNext : (fuel : Nat) → Frame → (outer : List Frame) → List Char →
    Except SyntaxError (List Char)
  | 0, frame, _, _ => .error frame.early
  | fuel + 1, .list, outer, text => skipValue fuel (.list :: outer) text
  | fuel + 1, .object, outer, text =>
    match skipKey text with
    | .error e => .error e
    | .ok later => skipValue fuel (.object :: outer) later

end

def skip (text : List Char) : Except SyntaxError (List Char) :=
  skipValue (4 * text.length + 4) [] text

end SyscallProfiler.Json
