import SyscallProfiler.Json.Number

/-!
# Writing JSON

`compact` writes a value without any blank; `pretty` puts each item of a list and each field of an
object on a line of its own, two blanks further in than its container. Control characters, the
quotation mark and the backslash are escaped; every other character stands for itself.
-/

namespace SyscallProfiler.Json

def hexDigit (n : Nat) : Char :=
  if n < 10 then Char.ofNat (48 + n) else Char.ofNat (87 + n)

/-- A character as it stands inside a written string. -/
def escape (c : Char) : List Char :=
  if c = '"' then ['\\', '"']
  else if c = '\\' then ['\\', '\\']
  else if c = '\n' then ['\\', 'n']
  else if c = '\r' then ['\\', 'r']
  else if c = '\t' then ['\\', 't']
  else if c.toNat = 8 then ['\\', 'b']
  else if c.toNat = 12 then ['\\', 'f']
  else if c.toNat < 32 then
    ['\\', 'u', '0', '0', hexDigit (c.toNat / 16), hexDigit (c.toNat % 16)]
  else [c]

/-- The characters of a written string up to and including its closing quotation mark. -/
def quotedTail : List Char → List Char
  | [] => ['"']
  | c :: rest => escape c ++ quotedTail rest

def quoted (s : String) : List Char := '"' :: quotedTail s.toList

mutual

/-- A value without any blank. -/
def compact : Json → List Char
  | .null => ['n', 'u', 'l', 'l']
  | .bool true => ['t', 'r', 'u', 'e']
  | .bool false => ['f', 'a', 'l', 's', 'e']
  | .int n => intText n
  | .float x => floatText x
  | .str s => quoted s
  | .arr items => '[' :: compactItems items
  | .obj fields => '{' :: compactFields fields

/-- The items of a list and its closing bracket. -/
def compactItems : List Json → List Char
  | [] => [']']
  | [v] => compact v ++ [']']
  | v :: w :: rest => compact v ++ ',' :: compactItems (w :: rest)

/-- The fields of an object and its closing brace. -/
def compactFields : Fields → List Char
  | [] => ['}']
  | [(k, v)] => quoted k ++ ':' :: compact v ++ ['}']
  | (k, v) :: f :: rest => quoted k ++ ':' :: compact v ++ ',' :: compactFields (f :: rest)

end

/-- A line feed and the blanks that begin a line at the given depth. -/
def newline (depth : Nat) : List Char := '\n' :: List.replicate (2 * depth) ' '

mutual

/-- A value over several lines, its first line continuing a line at the given depth. -/
def pretty (depth : Nat) : Json → List Char
  | .arr [] => ['[', ']']
  | .arr (v :: rest) => '[' :: prettyItems (depth + 1) (v :: rest) ++ newline depth ++ [']']
  | .obj [] => ['{', '}']
  | .obj (f :: rest) => '{' :: prettyFields (depth + 1) (f :: rest) ++ newline depth ++ ['}']
  | v => compact v

/-- The items of a list, each on a line of its own. -/
def prettyItems (depth : Nat) : List Json → List Char
  | [] => []
  | [v] => newline depth ++ pretty depth v
  | v :: w :: rest => newline depth ++ pretty depth v ++ ',' :: prettyItems depth (w :: rest)

/-- The fields of an object, each on a line of its own. -/
def prettyFields (depth : Nat) : Fields → List Char
  | [] => []
  | [(k, v)] => newline depth ++ quoted k ++ ':' :: ' ' :: pretty depth v
  | (k, v) :: f :: rest =>
    newline depth ++ quoted k ++ ':' :: ' ' :: pretty depth v ++ ',' ::
      prettyFields depth (f :: rest)

end

/-- The compact text of a value. -/
def text (v : Json) : String := String.ofList (compact v)

/-- The text of a value over several lines. -/
def prettyText (v : Json) : String := String.ofList (pretty 0 v)

end SyscallProfiler.Json
