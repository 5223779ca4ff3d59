import SyscallProfiler.Text.Utf8

/-!
# Texts of octets

What processes pass to each other is octets and need not be text. Where such octets are worked on
like a text, each octet stands as the character with its number, so that a length is a number of
octets and nothing is lost on the way.
-/

namespace SyscallProfiler.Text.Octets

/-- The octets that stand in a text of octets. -/
def bytes (s : String) : List UInt8 := s.toList.map fun c => UInt8.ofNat c.toNat

def ofBytes (content : List UInt8) : String :=
  String.ofList (content.map fun b => Char.ofNat b.toNat)

def ofText (s : String) : String := ofBytes (Utf8.encode s)

/-- The text that octets spell. -/
def toText (s : String) : String := Utf8.decode (bytes s)

end SyscallProfiler.Text.Octets
