import SyscallProfiler.Machine.Filters.Lines
import SyscallProfiler.Shell.Pattern

/-!
# Filters that work on characters

Characters are exchanged for others, and lines are cut to some of their characters or fields.
-/

namespace SyscallProfiler.Machine

namespace Filter

/-! ## Sets of characters -/

/-- A part of a set. -/
inductive SetPart where
  | chars (cs : List Char)
  /-- A character as often as it takes to make the set as long as the other one. -/
  | filling (c : Char)

/-- The characters between two, both of them included. -/
def span (low high : Char) : List Char :=
  (List.range (high.toNat + 1 - low.toNat)).map fun i => Char.ofNat (low.toNat + i)

/-- The character at the beginning of a set, which may be an escape. -/
def setChar : List Char → Option (Char × List Char)
  | [] => none
  | '\\' :: c :: rest =>
    if Shell.Printing.isOctal c then
      let (octet, later) := Shell.Printing.octalEscape 3 (c :: rest)
      some (Char.ofNat octet.toNat, later)
    else
      match (if c = 'e' then none else Shell.Printing.letterEscape? c) with
      | some octet => some (Char.ofNat octet.toNat, rest)
      | none => some (c, rest)
  | c :: rest => some (c, rest)

/-- What stands between a bracket and its end. -/
def bracketed? (text : List Char) : Option (Except String SetPart × List Char) :=
  match text with
  | ':' :: rest =>
    let name := rest.takeWhile (· != ':')
    match rest.drop name.length with
    | ':' :: ']' :: later =>
      let name := String.ofList name
      match Shell.Pattern.classes.find? fun (n, _) => n == name with
      | some (_, ranges) =>
        some (.ok (.chars (ranges.flatMap fun (low, high) => span low high)), later)
      | none => some (.error s!"invalid character class \x27{name}\x27", later)
    | _ => none
  | '=' :: c :: '=' :: ']' :: later => some (.ok (.chars [c]), later)
  | text =>
    match setChar text with
    | some (c, '*' :: rest) =>
      let digits := rest.takeWhile Json.isDigit
      match rest.drop digits.length with
      | ']' :: later =>
        let n :=
          if digits.head? = some '0' then Shell.Printing.octalValue digits else Json.ofDigits digits
        if n = 0 then some (.ok (.filling c), later)
        else some (.ok (.chars (List.replicate n c)), later)
      | _ => none
    | _ => none

def setParts : (fuel : Nat) → List Char → Except String (List SetPart)
  | 0, _ => .ok []
  | fuel + 1, text =>
    match text with
    | [] => .ok []
    | text =>
      match (if text.head? = some '[' then bracketed? text.tail else none) with
      | some (part, later) => do
        let part ← part
        return part :: (← setParts fuel later)
      | none =>
        match setChar text with
        | none => .ok []
        | some (low, '-' :: rest) =>
          match setChar rest with
          | none => return [.chars [low, '-']]
          | some (high, later) => do
            if high < low then
              let shown := String.ofList (text.take (text.length - later.length))
              .error (s!"range-endpoints of \x27{shown}\x27 are in reverse collating " ++
                "sequence order")
            else return .chars (span low high) :: (← setParts fuel later)
        | some (c, later) => do return .chars [c] :: (← setParts fuel later)

/-- The characters of parts, filled up to a length. -/
def flattenParts (parts : List SetPart) (length : Nat) : List Char :=
  let known := (parts.map fun
    | .chars cs => cs.length
    | .filling _ => 0).foldl (· + ·) 0
  parts.flatMap fun
    | .chars cs => cs
    | .filling c => List.replicate (length - known) c

def complement (cs : List Char) : List Char :=
  (span '\x00' '\xff').filter fun c => !cs.contains c

def exchanged (source target : List Char) (c : Char) : Char :=
  match source.idxOf? c with
  | none => c
  | some i => (target[i]?).getD (target.getLast?.getD c)

/-- Leaves one of several equal characters of a set that follow each other. -/
def squeeze (set : List Char) : List Char → List Char
  | a :: b :: rest =>
    if a = b && set.contains a then squeeze set (b :: rest) else a :: squeeze set (b :: rest)
  | text => text

def trWork (called : String) (args : List String) : Plan := do
  let d ← demand called
    ⟨"cCdst", "",
      [("complement", 'c'), ("delete", 'd'), ("squeeze-repeats", 's'), ("truncate-set1", 't')],
      true⟩ 1 args
  let complain {α : Type} (text : String) : Except (String × Nat) α :=
    throw (usage called text 1)
  let quoted (text : String) : String := Text.Quoting.always text
  let deletes := d.has 'd'
  let squeezes := d.has 's'
  let twoWanted := deletes == squeezes
  let (one, two) ←
    match d.operands with
    | [] => complain "missing operand"
    | [one] =>
      if twoWanted then
        let why :=
          if deletes then "Two strings must be given when both deleting and squeezing repeats."
          else "Two strings must be given when translating."
        complain s!"missing operand after {quoted one}\n{why}"
      else pure (one, none)
    | [one, two] =>
      if deletes && !squeezes then
        complain (s!"extra operand {quoted two}\n" ++
          "Only one string may be given when deleting without squeezing repeats.")
      else pure (one, some two)
    | _ :: _ :: extra :: _ => complain s!"extra operand {quoted extra}"
  let partsOf (text : String) : Except (String × Nat) (List SetPart) :=
    (setParts (text.length + 1) text.toList).mapError fun e => (s!"{called}: {e}", 1)
  let source := flattenParts (← partsOf one) 0
  let source := if d.hasAny "cC" then complement source else source
  let target ← two.mapM fun text => do
    return flattenParts (← partsOf text) source.length
  let drop (content : List UInt8) : List UInt8 :=
    content.filter fun b => !source.contains (Char.ofNat b.toNat)
  match target with
  | none =>
    if deletes then return octetwise ["-"] fun all => drop (everything all)
    else
      return octetwise ["-"] fun all => octetsOf (squeeze source (charsOf (everything all)))
  | some target =>
    if deletes then
      return octetwise ["-"] fun all => octetsOf (squeeze target (charsOf (drop (everything all))))
    else if target.isEmpty && !d.has 't' then
      throw (s!"{called}: when not truncating set1, string2 must be non-empty", 1)
    else
      let source := if d.has 't' then source.take target.length else source
      let exchange (b : UInt8) : UInt8 :=
        UInt8.ofNat (exchanged source target (Char.ofNat b.toNat)).toNat
      if squeezes then
        return octetwise ["-"] fun all =>
          octetsOf (squeeze target (charsOf ((everything all).map exchange)))
      else return octetwise ["-"] fun all => (everything all).map exchange

/-! ## Cutting lines -/

/-- Places in a line, counted from one; an open end reaches to the end of the line. -/
abbrev Places := List (Nat × Option Nat)

/-- Why a list of places cannot be read. -/
def placesFault (fields : Bool) (part : List Char) : String :=
  if part.any fun c => !Json.isDigit c && c != '-' then
    let what := if fields then "field value" else "byte/character position"
    s!"invalid {what} " ++ Text.Quoting.always (String.ofList (part.dropWhile Json.isDigit))
  else if part = ['-'] then "invalid range with no endpoint: -"
  else if fields then "fields are numbered from 1"
  else "byte/character positions are numbered from 1"

def placesOf (fields : Bool) (text : String) : Except String Places :=
  (text.toList.splitOn ',').mapM fun part =>
    let number (ds : List Char) : Except String Nat :=
      if !ds.isEmpty && ds.all Json.isDigit && Json.ofDigits ds > 0 then .ok (Json.ofDigits ds)
      else .error (placesFault fields part)
    match part.splitOn '-' with
    | [n] => do
      let n ← number n
      return (n, some n)
    | [[], n] => do return (1, some (← number n))
    | [n, []] => do return (← number n, none)
    | [n, k] => do
      let n ← number n
      let k ← number k
      if k < n then .error "invalid decreasing range" else return (n, some k)
    | _ => .error (placesFault fields part)

/-- The items at the chosen places, or all others. -/
def choose {α : Type} (places : Places) (others : Bool) (items : List α) : List α :=
  (items.zipIdx.filter fun (_, i) =>
    (places.any fun (low, high) => low ≤ i + 1 && i + 1 ≤ high.getD (i + 1)) != others).map (·.1)

def cutWork (called : String) (args : List String) : Plan := do
  let d ← demand called
    ⟨"nsCz", "bcfdo",
      [("bytes", 'b'), ("characters", 'c'), ("fields", 'f'), ("delimiter", 'd'),
        ("only-delimited", 's'), ("complement", 'C'), ("output-delimiter", 'o')], false⟩ 1 args
  let complain {α : Type} (text : String) : Except (String × Nat) α :=
    throw (usage called text 1)
  let lists := d.options.filter fun (c, _) => c == 'b' || c == 'c' || c == 'f'
  match lists with
  | [] => complain "you must specify a list of bytes, characters, or fields"
  | _ :: _ :: _ => complain "only one list may be specified"
  | [(letter, list)] =>
    let fields := letter = 'f'
    let delimiter ←
      match (d.value? 'd').map String.toList with
      | none => pure '\t'
      | some [c] => pure c
      | some [] => pure '\x00'
      | some _ => complain "the delimiter must be a single character"
    let places ← (placesOf fields list).mapError fun e => usage called e 1
    if !fields && (d.value? 'd').isSome then
      complain "an input delimiter may be specified only when operating on fields"
    let joint := ((d.value? 'o').map String.toList).getD [delimiter]
    let cutLine (line : List Char) : Option (List Char) :=
      if fields then
        match line.splitOn delimiter with
        | [_] => if d.has 's' then none else some line
        | parts => some (joint.intercalate (choose places (d.has 'C') parts))
      else some (choose places (d.has 'C') line)
    return linewise (sourcesOf d.operands) fun all =>
      all.flatMap fun g => ofLines ((lines g.content).filterMap cutLine)

/-! ## Folding -/

/-- A line in parts of a length. With `words`, it is divided after blanks where that can be
done. -/
def foldLine (width : Nat) (words : Bool) : (fuel : Nat) → List Char → List (List Char)
  | 0, line => [line]
  | fuel + 1, line =>
    if line.length ≤ width then [line]
    else
      let part := line.take width
      let atBlank := part.reverse.dropWhile (· != ' ')
      let part := if words && !atBlank.isEmpty then atBlank.reverse else part
      part :: foldLine width words fuel (line.drop part.length)

def foldWork (called : String) (args : List String) : Plan := do
  let d ← demand called ⟨"sb", "w", [("width", 'w'), ("spaces", 's'), ("bytes", 'b')], false⟩ 1 args
  let width := (d.value? 'w').getD "80"
  match (count? width.toList).filter (· > 0) with
  | none => throw (s!"{called}: invalid number of columns: {Text.Quoting.always width}", 1)
  | some width =>
    return linewise (sourcesOf d.operands) fun all =>
      all.flatMap fun g => (pieces g.content).flatMap fun line =>
        let text := charsOf line
        let ended := text.getLast? = some '\n'
        let body := if ended then text.dropLast else text
        octetsOf ((['\n'].intercalate (foldLine width (d.has 's') (body.length + 1) body)) ++
          if ended then ['\n'] else [])

end Filter

end SyscallProfiler.Machine
