import SyscallProfiler.Machine.Filters.Lines

/-!
# Filters that count and show octets

Lines, words and octets are counted, and octets are shown as numbers or letters.
-/

namespace SyscallProfiler.Machine

namespace Filter

/-! ## Counting -/

def separatesWords (c : Char) : Bool := c = ' ' || ('\t' ≤ c && c ≤ '\r')

def wordCount (text : List Char) : Nat :=
  ((text.splitBy fun a b => separatesWords a == separatesWords b).filter fun part =>
    !(part.head?.map separatesWords).getD true && part.any Text.Quoting.isPrintable).length

def longestLine (text : List Char) : Nat :=
  ((linesOf text '\n').map fun line => (line.filter Text.Quoting.isPrintable).length).foldl max 0

/-- What has been counted: lines, words, characters, octets, and the longest line. -/
structure Counted where
  lines : Nat
  words : Nat
  octets : Nat
  longest : Nat

def Counted.of (content : List UInt8) : Counted :=
  let text := charsOf content
  ⟨text.count '\n', wordCount text, text.length, longestLine text⟩

def Counted.add (a b : Counted) : Counted :=
  ⟨a.lines + b.lines, a.words + b.words, a.octets + b.octets, max a.longest b.longest⟩

def wcWork (called : String) (args : List String) : Plan := do
  let d ← demand called
    ⟨"clmwL", "",
      [("bytes", 'c'), ("chars", 'm'), ("lines", 'l'), ("words", 'w'), ("max-line-length", 'L')],
      false⟩ 1 args
  let all := d.options.isEmpty
  let numbers (c : Counted) : List Nat :=
    (if all || d.has 'l' then [c.lines] else []) ++ (if all || d.has 'w' then [c.words] else []) ++
      (if d.has 'm' then [c.octets] else []) ++ (if all || d.has 'c' then [c.octets] else []) ++
      if d.has 'L' then [c.longest] else []
  return whole (sourcesOf d.operands) fun found =>
    let single := d.operands.length ≤ 1 && (numbers ⟨0, 0, 0, 0⟩).length = 1
    let total := ((found.filter (·.plain)).map (·.content.length)).foldl (· + ·) 0
    let width :=
      if single || found.isEmpty then 1
      else
        max (toString total).length (if found.any fun g => !g.plain then 7 else 1)
    let line (c : Counted) (name : String) : String :=
      " ".intercalate ((numbers c).map fun n => padLeft width (toString n)) ++ name ++ "\n"
    let counted := found.map fun g => (g.name, Counted.of g.content)
    let each := counted.map fun (name, c) =>
      line c (if d.operands.isEmpty then "" else " " ++ name)
    let sum := (counted.map (·.2)).foldl Counted.add ⟨0, 0, 0, 0⟩
    octets (String.join each ++ if d.operands.length > 1 then line sum " total" else "")

/-! ## Octets as numbers -/

def inBase (base places : Nat) (filled : Char) (n : Nat) : String :=
  let digits := Nat.toDigits base n
  String.ofList (List.replicate (places - digits.length) filled ++ digits)

/-- The names of the octets that cannot be seen. -/
def octetNames : List String :=
  ["nul", "soh", "stx", "etx", "eot", "enq", "ack", "bel", "bs", "ht", "nl", "vt", "ff", "cr",
    "so", "si", "dle", "dc1", "dc2", "dc3", "dc4", "nak", "syn", "etb", "can", "em", "sub", "esc",
    "fs", "gs", "rs", "us", "sp"]

/-- An octet as a character or an escape. -/
def octetLetter (b : UInt8) : String :=
  if b = 0 then "\\0"
  else
    let c := Char.ofNat b.toNat
    match Text.Quoting.escapeLetter? c with
    | some letter => String.ofList ['\\', letter]
    | none =>
      if Text.Quoting.isPrintable c then String.ofList [c] else inBase 8 3 '0' b.toNat

/-- How octets are shown: as how many of them at once, and how wide each item is. -/
structure DumpStyle where
  kind : Char
  size : Nat

def DumpStyle.width (s : DumpStyle) : Nat :=
  match s.kind, s.size with
  | 'a', _ | 'c', _ => 3
  | 'o', 1 => 3
  | 'o', 2 => 6
  | 'o', 4 => 11
  | 'o', _ => 22
  | 'x', n => 2 * n
  | 'u', 1 => 3
  | 'u', 2 => 5
  | 'u', 4 => 10
  | 'd', 1 => 4
  | 'd', 2 => 6
  | 'd', 4 => 11
  | _, _ => 20

/-- The number that octets are, the lowest first. -/
def littleEndian (bs : List UInt8) : Nat := bs.foldr (fun b n => n * 256 + b.toNat) 0

def DumpStyle.show (s : DumpStyle) (bs : List UInt8) : String :=
  let n := littleEndian bs
  match s.kind with
  | 'a' =>
    let b := n % 128
    if b = 127 then "del" else (octetNames[b]?).getD (String.ofList [Char.ofNat b])
  | 'c' => octetLetter (UInt8.ofNat n)
  | 'o' => inBase 8 s.width '0' n
  | 'x' => inBase 16 s.width '0' n
  | 'd' =>
    let limit := Nat.pow 256 s.size
    if 2 * n ≥ limit then "-" ++ toString (limit - n) else toString n
  | _ => toString n

def groupsOf {α : Type} (n : Nat) : (fuel : Nat) → List α → List (List α)
  | 0, _ => []
  | _, [] => []
  | fuel + 1, items => items.take n :: groupsOf n fuel (items.drop n)

def dumpStyle? (text : String) : Option DumpStyle :=
  match text.toList with
  | kind :: rest =>
    let size : Option Nat :=
      match rest with
      | [] | ['I'] => some (if kind = 'a' || kind = 'c' then 1 else 4)
      | ['C'] => some 1
      | ['S'] => some 2
      | ['L'] => some 8
      | digits => (String.ofList digits).toNat?
    size.bind fun n =>
      if ['a', 'c', 'o', 'x', 'u', 'd'].contains kind && [1, 2, 4, 8].contains n then
        some ⟨kind, n⟩
      else none
  | [] => none

def dumpAddress (radix : Char) (place : Nat) : String :=
  match radix with
  | 'd' => inBase 10 7 '0' place
  | 'x' => inBase 16 6 '0' place
  | 'n' => ""
  | _ => inBase 8 7 '0' place

/-- The lines that show octets, from a place on. Equal lines are left out. -/
def dumpLines (styles : List DumpStyle) (radix : Char) (every : Bool) :
    (previous : Option (List UInt8)) → (starred : Bool) → (place : Nat) → List (List UInt8) →
    List String
  | _, _, _, [] => []
  | previous, starred, place, row :: rest =>
    if !every && previous = some row && row.length = 16 && !rest.isEmpty then
      (if starred then [] else ["*"]) ++
        dumpLines styles radix every previous true (place + row.length) rest
    else
      let address := dumpAddress radix place
      let widest := (styles.map fun s => (s.width + 1) * (16 / s.size)).foldl max 0
      let shown := styles.zipIdx.map fun (s, i) =>
        let each := widest / (16 / s.size)
        let items := (groupsOf s.size 17 row).map fun bs => padLeft each (s.show bs)
        (if i = 0 then address else String.ofList (List.replicate address.length ' ')) ++
          String.join items
      shown ++ dumpLines styles radix every (some row) false (place + row.length) rest

def odWork (called : String) (args : List String) : Plan := do
  let d ← demand called
    ⟨"abcdosxv", "ANjtw",
      [("address-radix", 'A'), ("format", 't'), ("read-bytes", 'N'), ("skip-bytes", 'j'),
        ("output-duplicates", 'v')], false⟩ 1 args
  let named : List (Char × String) :=
    [('a', "a"), ('b', "o1"), ('c', "c"), ('d', "u2"), ('o', "o2"), ('s', "d2"), ('x', "x2")]
  let asked := d.options.filterMap fun (c, value) =>
    if c == 't' then some value else (named.find? fun (k, _) => k == c).map (·.2)
  let styles := (if asked.isEmpty then ["o2"] else asked).filterMap dumpStyle?
  let number (c : Char) : Option Nat := (d.value? c).bind fun text => count? text.toList
  let radix := ((d.value? 'A').bind fun text => text.toList.head?).getD 'o'
  let skipped := (number 'j').getD 0
  let wanted := (number 'N').map (skipped + ·)
  let work := whole (sourcesOf d.operands) fun all =>
    let content := (everything all).drop skipped
    let content := ((number 'N').map content.take).getD content
    let rows := groupsOf 16 (content.length + 1) content
    let last := skipped + content.length
    let address := dumpAddress radix last ++ if radix = 'n' then "" else "\n"
    octets (String.join ((dumpLines styles radix (d.has 'v') none false skipped rows).map
      (· ++ "\n")) ++ address)
  return { work with enough := wanted.map fun n content => decide (content.length ≥ n) }

/-! ## Octets as letters -/

def sixBitLetters : List Char :=
  "ABCDEFGHIJKLMNOPQRSTUVWXYZabcdefghijklmnopqrstuvwxyz0123456789+/".toList

/-- The letters for up to three octets. -/
def encodeThree (bs : List UInt8) : List Char :=
  let n := (bs ++ List.replicate (3 - bs.length) (0 : UInt8)).foldl (fun n b => n * 256 + b.toNat) 0
  let letter (k : Nat) : Char := sixBitLetters.getD (n / Nat.pow 64 k % 64) 'A'
  ([3, 2, 1, 0].map letter).take (bs.length + 1) ++ List.replicate (3 - bs.length) '='

/-- The octets for up to four letters. -/
def decodeFour (cs : List Char) : List UInt8 :=
  let values := cs.filterMap sixBitLetters.idxOf?
  let n := (values ++ List.replicate (4 - values.length) 0).foldl (fun n v => n * 64 + v) 0
  ([2, 1, 0].map fun k => UInt8.ofNat (n / Nat.pow 256 k % 256)).take (values.length - 1)

def base64Work (called : String) (args : List String) : Plan := do
  let d ← demand called
    ⟨"di", "w", [("decode", 'd'), ("wrap", 'w'), ("ignore-garbage", 'i')], false⟩ 1 args
  let width := ((d.value? 'w').bind fun text => count? text.toList).getD 76
  let isLetter (c : Char) : Bool := sixBitLetters.contains c
  let isWrong (text : List Char) : Bool :=
    let text := text.filter (· != '\n')
    let letters := text.takeWhile isLetter
    let rest := text.drop letters.length
    !d.has 'i' && (rest.any (· != '=') || (letters.length + rest.length) % 4 != 0)
  let finish (all : List Gathered) : Result :=
    let content := everything all
    if d.has 'd' then
      let text := charsOf content
      let letters := text.filter isLetter
      let output := (groupsOf 4 (letters.length + 1) letters).flatMap decodeFour
      if isWrong text then ⟨output, s!"{called}: invalid input\n", 1, []⟩ else ⟨output, "", 0, []⟩
    else
      let letters := (groupsOf 3 (content.length + 1) content).flatMap encodeThree
      let output :=
        if width = 0 then octetsOf letters
        else ofLines (groupsOf width (letters.length + 1) letters)
      ⟨output, "", 0, []⟩
  return { whole (sourcesOf d.operands) (fun _ => []) with finish }

end Filter

end SyscallProfiler.Machine
