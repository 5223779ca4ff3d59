/-!
# Blank characters, trimming and lines

Texts are read as lists of characters. A character is blank when Unicode gives it the property
`White_Space`; this is a larger set than the ASCII blanks and a smaller one than "invisible":
the zero-width space and the byte-order mark are not in it.
-/

namespace SyscallProfiler.Text

/-- Whether a character has the Unicode property `White_Space`. -/
def isBlank (c : Char) : Bool :=
  let n := c.toNat
  (9 ≤ n && n ≤ 13) || n == 0x20 || n == 0x85 || n == 0xA0 || n == 0x1680 ||
    (0x2000 ≤ n && n ≤ 0x200A) || n == 0x2028 || n == 0x2029 || n == 0x202F || n == 0x205F ||
    n == 0x3000

def trimStart (text : List Char) : List Char :=
  text.dropWhile isBlank

def trimEnd (text : List Char) : List Char :=
  (text.reverse.dropWhile isBlank).reverse

/-- The text without the blanks at either end. -/
def trim (text : List Char) : List Char :=
  trimEnd (trimStart text)

/-- Whether a text holds blanks only. The empty text does. -/
def allBlank (text : List Char) : Bool :=
  text.all isBlank

/-- The lines of a text. A line ends at a line feed, which is dropped together with one carriage
return right before it; what follows the last line feed is a line as it stands. -/
def lines : List Char → List (List Char)
  | [] => []
  | '\n' :: rest => [] :: lines rest
  | '\r' :: '\n' :: rest => [] :: lines rest
  | c :: rest =>
    match lines rest with
    | [] => [[c]]
    | line :: later => (c :: line) :: later

/-- What follows `start` in `text`, when `text` begins with `start`. -/
def after? : (start text : List Char) → Option (List Char)
  | [], text => some text
  | _ :: _, [] => none
  | c :: start, d :: text => if c = d then after? start text else none

/-- Whether `part` occurs in `text` as consecutive characters. -/
def contains (part : List Char) : List Char → Bool
  | [] => part.isEmpty
  | c :: rest => part.isPrefixOf (c :: rest) || contains part rest

def trimmed (s : String) : String :=
  String.ofList (trim s.toList)

end SyscallProfiler.Text
