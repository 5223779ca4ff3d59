import SyscallProfiler.Text.Joining

/-!
# Strings as messages show them

A message that names a string puts it between quotation marks and escapes what would not be seen:
control and format characters, blanks other than the space, marks that join the character before
them, and code points that are no character.
-/

namespace SyscallProfiler.Text

def isPrintable (c : Char) : Bool :=
  c = ' ' || !(isInvisible c || isJoining c)

/-- A character as it stands between quotation marks in a message. -/
def escapeShown (c : Char) : List Char :=
  if c = '"' then ['\\', '"']
  else if c = '\\' then ['\\', '\\']
  else if c = '\n' then ['\\', 'n']
  else if c = '\r' then ['\\', 'r']
  else if c = '\t' then ['\\', 't']
  else if c.toNat = 0 then ['\\', '0']
  else if isPrintable c then [c]
  else '\\' :: 'u' :: '\x7b' :: Nat.toDigits 16 c.toNat ++ ['\x7d']

/-- A string between quotation marks, as messages show it. -/
def shown (s : String) : String :=
  String.ofList ('"' :: s.toList.flatMap escapeShown ++ ['"'])

end SyscallProfiler.Text
