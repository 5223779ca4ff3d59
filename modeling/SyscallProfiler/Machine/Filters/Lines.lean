import SyscallProfiler.Machine.Filters.Basic

/-!
# Filters that pass on lines

Parts of files, files one after the other, and lines with something put before or after them.
-/

namespace SyscallProfiler.Machine

namespace Filter

/-! ## Beginnings and ends -/

/-- How much of a source is passed on. -/
structure Amount where
  count : Nat
  /-- Whether octets are counted and not lines. -/
  inOctets : Bool
  /-- Whether the amount counts from the other side. -/
  opposite : Bool
deriving DecidableEq, Repr

def beginning (a : Amount) (content : List UInt8) : List UInt8 :=
  if a.inOctets then content.take (if a.opposite then content.length - a.count else a.count)
  else
    let all := pieces content
    (all.take (if a.opposite then all.length - a.count else a.count)).flatten

def ending (a : Amount) (content : List UInt8) : List UInt8 :=
  if a.inOctets then
    content.drop (if a.opposite then a.count - 1 else content.length - a.count)
  else
    let all := pieces content
    (all.drop (if a.opposite then a.count - 1 else all.length - a.count)).flatten

/-- Whether octets hold as much of a beginning as is wanted. -/
def holdsBeginning (a : Amount) (content : List UInt8) : Bool :=
  if a.opposite then false
  else if a.inOctets then content.length ≥ a.count
  else content.count 10 ≥ a.count

/-- An old way to say how much is wanted, in the way that is read now. -/
def modernise (isEnd : Bool) : List String → List String
  | [] => []
  | arg :: rest =>
    match arg.toList with
    | '-' :: c :: more =>
      if Json.isDigit c then
        let digits := (c :: more).takeWhile Json.isDigit
        match (c :: more).drop digits.length with
        | [] => "-n" :: String.ofList digits :: rest
        | ['c'] => "-c" :: String.ofList digits :: rest
        | _ => arg :: rest
      else arg :: rest
    | '+' :: c :: more =>
      if isEnd && (c :: more).all Json.isDigit then "-n" :: arg :: rest else arg :: rest
    | _ => arg :: rest

def amountKnowledge : Knowledge :=
  ⟨"qvzfF", "nc",
    [("lines", 'n'), ("bytes", 'c'), ("quiet", 'q'), ("silent", 'q'), ("verbose", 'v'),
      ("zero-terminated", 'z'), ("follow", 'f')], false⟩

/-- The amount that options ask for. `opposite` is the sign that turns it round. -/
def amountOf (called : String) (opposite : Char) (d : Demand) :
    Except (String × Nat) Amount := do
  match d.options.reverse.find? fun (c, _) => c == 'n' || c == 'c' with
  | none => return ⟨10, false, false⟩
  | some (letter, value) =>
    let (sign, digits) :=
      match value.toList with
      | '-' :: rest => ('-', rest)
      | '+' :: rest => ('+', rest)
      | rest => (' ', rest)
    let what := if letter = 'c' then "bytes" else "lines"
    match count? digits with
    | some n => return ⟨n, letter = 'c', sign = opposite⟩
    | none => throw (s!"{called}: invalid number of {what}: " ++ Text.Quoting.always value, 1)

/-- Sources one after the other, each under its name if there are several. -/
def withHeads (d : Demand) (count : Nat) (make : List UInt8 → List UInt8)
    (all : List Gathered) : List UInt8 :=
  let shown := if d.has 'q' then false else d.has 'v' || count > 1
  (all.zipIdx.flatMap fun (g, i) =>
    let name := if g.name = "-" then "standard input" else g.name
    let head := s!"==> {name} <==\n"
    (if shown then octets ((if i = 0 then "" else "\n") ++ head) else []) ++ make g.content)

def headWork (called : String) (args : List String) : Plan := do
  let d ← demand called amountKnowledge 1 (modernise false args)
  let a ← amountOf called '-' d
  let sources := sourcesOf d.operands
  return {
    sources
    piece := none
    enough := some (holdsBeginning a)
    spare := fun content => content.length - (beginning a content).length
    settled := .nothing
    bySource := true
    finish := fun all => ⟨withHeads d sources.length (beginning a) all, "", 0, []⟩ }

def tailWork (called : String) (args : List String) : Plan := do
  let d ← demand called amountKnowledge 1 (modernise true args)
  let a ← amountOf called '+' d
  let sources := sourcesOf d.operands
  return { whole sources (withHeads d sources.length (ending a)) with bySource := true }

/-! ## Files one after the other -/

def showOctet (b : UInt8) : List Char :=
  let low (n : Nat) : List Char :=
    if n < 32 then ['^', Char.ofNat (n + 64)]
    else if n = 127 then ['^', '?']
    else [Char.ofNat n]
  let n := b.toNat
  if n < 128 then low n else 'M' :: '-' :: low (n - 128)

/-- How lines are passed on. -/
structure LineStyle where
  numbers : Bool
  /-- Whether empty lines have no number. -/
  sparing : Bool
  squeezes : Bool
  showsEnds : Bool
  showsTabs : Bool
  showsOthers : Bool

def LineStyle.show (style : LineStyle) (b : UInt8) : List UInt8 :=
  if b = 9 then if style.showsTabs then octets "^I" else [b]
  else if b = 10 then if style.showsEnds then [36, 10] else [b]
  else if style.showsOthers then octetsOf (showOctet b)
  else [b]

/-- Lines as they are shown, from a number on. `blanks` counts the empty lines right before. -/
def LineStyle.apply (style : LineStyle) : (number blanks : Nat) → List (List UInt8) → List UInt8
  | _, _, [] => []
  | number, blanks, line :: rest =>
    let isBlank := line = [10]
    if isBlank && style.squeezes && blanks ≥ 1 then style.apply number (blanks + 1) rest
    else
      let counts := style.numbers && !(style.sparing && isBlank)
      let head := if counts then octets (padLeft 6 (toString number) ++ "\t") else []
      head ++ line.flatMap style.show ++
        style.apply (if counts then number + 1 else number) (if isBlank then blanks + 1 else 0)
          rest

def catWork (called : String) (args : List String) : Plan := do
  let d ← demand called
    ⟨"nbsETAveut", "",
      [("number", 'n'), ("number-nonblank", 'b'), ("squeeze-blank", 's'), ("show-ends", 'E'),
        ("show-tabs", 'T'), ("show-all", 'A'), ("show-nonprinting", 'v')], false⟩ 1 args
  let style : LineStyle :=
    ⟨d.hasAny "nb", d.has 'b', d.has 's', d.hasAny "EAe", d.hasAny "TAt", d.hasAny "Avet"⟩
  let sources := sourcesOf d.operands
  if d.options.all fun (c, _) => c == 'u' then return piecewise sources id
  else return linewise sources fun all => style.apply 1 0 (pieces (everything all))

def tacWork (called : String) (args : List String) : Plan := do
  let d ← demand called ⟨"", "", [], false⟩ 1 args
  return { whole (sourcesOf d.operands) fun all =>
    all.flatMap fun g => (pieces g.content).reverse.flatten with bySource := true }

def revWork (args : List String) : Plan :=
  .ok (linewise (sourcesOf args) fun all =>
    all.flatMap fun g => (pieces g.content).flatMap fun line =>
      if line.getLast? = some 10 then line.dropLast.reverse ++ [10] else line.reverse)

/-- Puts numbers before lines that are not empty. -/
def numberLines : (number : Nat) → (every : Bool) → List (List UInt8) → List UInt8
  | _, _, [] => []
  | number, every, line :: rest =>
    if line = [10] && !every then octets "       \n" ++ numberLines number every rest
    else octets (padLeft 6 (toString number) ++ "\t") ++ line ++ numberLines (number + 1) every rest

def nlWork (called : String) (args : List String) : Plan := do
  let d ← demand called ⟨"p", "bhfnswviwd", [("body-numbering", 'b')], false⟩ 1 args
  let every := d.value? 'b' == some "a"
  return linewise (sourcesOf d.operands) fun all =>
    let content := everything all
    let isWhole := content.isEmpty || content.getLast? = some 10
    numberLines 1 every (pieces (if isWhole then content else content ++ [10]))

/-! ## Joining -/

def pasteLines (delimiters : List Char) : (fuel : Nat) → List (List (List Char)) →
    List (List Char)
  | 0, _ => []
  | fuel + 1, columns =>
    if columns.all (·.isEmpty) then []
    else
      let heads := columns.map fun c => c.head?.getD []
      joinWith delimiters delimiters heads :: pasteLines delimiters fuel (columns.map List.tail)
where
  /-- Joins parts with the delimiters in turn. -/
  joinWith (all : List Char) : List Char → List (List Char) → List Char
    | _, [] => []
    | _, [part] => part
    | [], part :: rest =>
      match all with
      | [] => part ++ joinWith all [] rest
      | d :: more => part ++ d :: joinWith all more rest
    | d :: more, part :: rest => part ++ d :: joinWith all more rest

def delimitersOf : List Char → List Char
  | '\\' :: 'n' :: rest => '\n' :: delimitersOf rest
  | '\\' :: 't' :: rest => '\t' :: delimitersOf rest
  | '\\' :: '0' :: rest => delimitersOf rest
  | '\\' :: c :: rest => c :: delimitersOf rest
  | c :: rest => c :: delimitersOf rest
  | [] => []

def pasteWork (called : String) (args : List String) : Plan := do
  let d ← demand called ⟨"s", "d", [("serial", 's'), ("delimiters", 'd')], false⟩ 1 args
  let delimiters := delimitersOf ((d.value? 'd').getD "\t").toList
  return whole (sourcesOf d.operands) fun all =>
    if d.has 's' then
      ofLines (all.map fun g =>
        (pasteLines delimiters 2 ((lines g.content).map fun line => [line])).head?.getD [])
    else
      let columns := all.map fun g => lines g.content
      ofLines (pasteLines delimiters ((columns.map List.length).foldl max 0 + 1) columns)

/-! ## A line without end -/

/-- A line again and again, about as long as a piece. -/
def repeatLine (args : List String) (length : Nat) : List UInt8 :=
  let line := octets ((if args.isEmpty then "y" else " ".intercalate args) ++ "\n")
  (List.replicate (length / line.length + 1) line).flatten

def yesWork (args : List String) : Plan :=
  let words := if args.head? = some "--" then args.tail else args
  .ok (piecewise ["/dev/zero"] fun content => repeatLine words content.length)

end Filter

end SyscallProfiler.Machine
