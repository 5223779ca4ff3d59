/-!
# Reading octets as text

Output of other programs is octets. `decode` reads them as UTF-8 and never fails: each longest
run of octets that begins a character but cannot be completed becomes one replacement character.
-/

namespace SyscallProfiler.Text.Utf8

/-- The replacement character, which stands for octets that are no character. -/
def replacement : Char := Char.ofNat 0xFFFD

/-- An octet that continues a character. -/
def isTail (b : UInt8) : Bool := 0x80 ≤ b && b ≤ 0xBF

/-- Whether `second` may follow the leading octet `lead` of a character of three or four octets.
The excluded pairs would spell surrogates, overlong forms, or values beyond U+10FFFF. -/
def mayFollow (lead second : UInt8) : Bool :=
  if lead == 0xE0 then 0xA0 ≤ second && second ≤ 0xBF
  else if lead == 0xED then 0x80 ≤ second && second ≤ 0x9F
  else if lead == 0xF0 then 0x90 ≤ second && second ≤ 0xBF
  else if lead == 0xF4 then 0x80 ≤ second && second ≤ 0x8F
  else isTail second

/-- The character with the payload bits of the given octets, leading octet first. -/
def assemble (lead : Nat) (tails : List UInt8) : Char :=
  Char.ofNat (tails.foldl (fun n b => n * 64 + (b.toNat - 0x80)) lead)

/-- The first character that the octets spell, or the replacement character, and the octets after
it. The rest is shorter than the whole. -/
def takeChar (b : UInt8) (rest : List UInt8) :
    Char × { later : List UInt8 // later.length ≤ rest.length } :=
  if b < 0x80 then (Char.ofNat b.toNat, ⟨rest, by omega⟩)
  else if 0xC2 ≤ b && b ≤ 0xDF then
    match rest with
    | [] => (replacement, ⟨[], by simp⟩)
    | c :: later =>
      if isTail c then (assemble (b.toNat - 0xC0) [c], ⟨later, by simp⟩)
      else (replacement, ⟨c :: later, by simp⟩)
  else if 0xE0 ≤ b && b ≤ 0xEF then
    match rest with
    | [] => (replacement, ⟨[], by simp⟩)
    | [c] => if mayFollow b c then (replacement, ⟨[], by simp⟩) else (replacement, ⟨[c], by simp⟩)
    | c :: d :: later =>
      if !mayFollow b c then (replacement, ⟨c :: d :: later, by simp⟩)
      else if isTail d then (assemble (b.toNat - 0xE0) [c, d], ⟨later, by simp; omega⟩)
      else (replacement, ⟨d :: later, by simp⟩)
  else if 0xF0 ≤ b && b ≤ 0xF4 then
    match rest with
    | [] => (replacement, ⟨[], by simp⟩)
    | [c] => if mayFollow b c then (replacement, ⟨[], by simp⟩) else (replacement, ⟨[c], by simp⟩)
    | [c, d] =>
      if !mayFollow b c then (replacement, ⟨[c, d], by simp⟩)
      else if isTail d then (replacement, ⟨[], by simp⟩)
      else (replacement, ⟨[d], by simp⟩)
    | c :: d :: e :: later =>
      if !mayFollow b c then (replacement, ⟨c :: d :: e :: later, by simp⟩)
      else if !isTail d then (replacement, ⟨d :: e :: later, by simp⟩)
      else if isTail e then (assemble (b.toNat - 0xF0) [c, d, e], ⟨later, by simp; omega⟩)
      else (replacement, ⟨e :: later, by simp⟩)
  else (replacement, ⟨rest, by omega⟩)

/-- The characters that the octets spell, after those in `done`, which are in reverse order. -/
def decodeAfter (done : List Char) : List UInt8 → List Char
  | [] => done.reverse
  | b :: rest =>
    let (c, later) := takeChar b rest
    decodeAfter (c :: done) later.val
termination_by octets => octets.length
decreasing_by
  have := later.property
  simp only [List.length_cons]
  omega

/-- The text that the octets spell, with a replacement character for each part that spells none. -/
def decode (octets : List UInt8) : String :=
  String.ofList (decodeAfter [] octets)

/-- The text that the octets spell, if they are UTF-8 throughout. -/
def decode? (octets : List UInt8) : Option String :=
  String.fromUTF8? ⟨octets.toArray⟩

def encode (s : String) : List UInt8 :=
  s.toUTF8.toList

end SyscallProfiler.Text.Utf8
