import SyscallProfiler.Json.Number

/-!
# Quoting as a shell reads it

Tools show the names of files so that a shell would read the same name again: between apostrophes,
with octets that cannot be printed as escapes. A name may also stand without quoting where nothing
in it has a meaning for a shell.
-/

namespace SyscallProfiler.Text.Quoting

/-- The letter after the backslash for an octet that has one. -/
def escapeLetter? (c : Char) : Option Char :=
  if c = '\n' then some 'n'
  else if c = '\t' then some 't'
  else if c = '\r' then some 'r'
  else if c = '\x07' then some 'a'
  else if c = '\x08' then some 'b'
  else if c = '\x0b' then some 'v'
  else if c = '\x0c' then some 'f'
  else none

def isPrintable (c : Char) : Bool := ' ' ≤ c && c ≤ '~'

def octalDigit (n : Nat) : Char := Char.ofNat (48 + n % 8)

def escape (c : Char) : List Char :=
  match escapeLetter? c with
  | some letter => ['\\', letter]
  | none => ['\\', octalDigit (c.toNat / 64), octalDigit (c.toNat / 8), octalDigit c.toNat]

/-- The inside of quoted text. `escaping` says that an escape has just been written. -/
def inside (escaping : Bool) : List Char → List Char
  | [] => []
  | c :: rest =>
    if isPrintable c then
      let shown := if c = '\x27' then ['\x27', '\\', '\x27', '\x27'] else [c]
      (if escaping then ['\x27', '\x27'] else []) ++ shown ++ inside false rest
    else
      (if escaping then [] else ['\x27', '$', '\x27']) ++ escape c ++ inside true rest

/-- The characters that mean something else between quotation marks or outside of them. -/
def meaningful : List Char :=
  ['!', '"', '$', '&', '(', ')', '*', ';', '<', '=', '>', '[', '^', '\x60', '|', '\\', '?']

/-- Whether a character means the same between quotation marks. `first` says that it comes first
and `only` that nothing else comes. -/
def isCompatible (first only : Bool) (c : Char) : Bool :=
  if c = '#' || c = '~' then first
  else if c = '\x7b' || c = '\x7d' then only
  else isPrintable c && !meaningful.contains c

/-- A text between apostrophes, or between quotation marks if that is shorter. -/
def always (text : String) : String :=
  let cs := text.toList
  let only := cs.length = 1
  if cs.contains '\x27' && cs.zipIdx.all fun (c, i) => isCompatible (i = 0) only c then
    String.ofList ('"' :: cs ++ ['"'])
  else String.ofList ('\x27' :: inside false cs ++ ['\x27'])

/-- Whether a character has a meaning for a shell where it stands. -/
def isSpecial (first only : Bool) (c : Char) : Bool :=
  if c = '#' || c = '~' then first
  else if c = '\x7b' || c = '\x7d' then only
  else c = ' ' || c = ':' || c = '\x27' || !isCompatible first only c

/-- A text with quoting if it needs any. -/
def ifNeeded (text : String) : String :=
  let cs := text.toList
  let only := cs.length = 1
  if cs.isEmpty || cs.zipIdx.any fun (c, i) => isSpecial (i = 0) only c then always text else text

/-- A text between plain apostrophes, with escapes inside. -/
def plainly (text : String) : String :=
  String.ofList ('\x27' ::
    (text.toList.flatMap fun c =>
      if c = '\x27' || c = '\\' then ['\\', c] else if isPrintable c then [c] else escape c) ++
    ['\x27'])

end SyscallProfiler.Text.Quoting
