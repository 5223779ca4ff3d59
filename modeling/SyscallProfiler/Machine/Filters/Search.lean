import SyscallProfiler.Machine.Filters.Lines
import SyscallProfiler.Machine.Matching

/-!
# Searching lines

Lines that match one of several expressions are written, counted, or told by the names of their
files.
-/

namespace SyscallProfiler.Machine

namespace Filter

/-- What is searched for and how it is shown. -/
structure Search where
  patterns : List Regex
  inverted : Bool
  wholeLines : Bool
  wholeWords : Bool
  counts : Bool
  /-- Shows names of files with matches, or of those without. -/
  names : Option Bool
  quiet : Bool
  numbers : Bool
  offsets : Bool
  parts : Bool
  heads : Bool
  most : Option Nat
  before : Nat
  after : Nat

/-- Whether a place in a text is at the edge of something that is no word. -/
def isFree (text : Array Char) (i j : Nat) : Bool :=
  !(i > 0 && Regex.inWord text (i - 1)) && !Regex.inWord text j

/-- The first match from a place on that may count. A match has to be at the edges of words if
whole words are wanted. -/
def Search.matchFrom? (s : Search) (text : Array Char) :
    (fuel : Nat) → Nat → Option (Nat × Nat)
  | 0, _ => none
  | fuel + 1, start =>
    let found := s.patterns.filterMap fun r => r.find? text start
    let best := found.foldl (fun (best : Option (Nat × Nat)) (i, j) =>
      match best with
      | none => some (i, j)
      | some (a, b) => if i < a || (i = a && j > b) then some (i, j) else some (a, b)) none
    match best with
    | none => none
    | some (i, j) =>
      if !s.wholeWords || isFree text i j then some (i, j)
      else
        -- a shorter match from the same place may do
        let shorter := (List.range (j - i)).reverse.find? fun n =>
          n > 0 && isFree text i (i + n) &&
            s.patterns.any fun r => (r.ends text [i]).contains (i + n)
        match shorter with
        | some n => some (i, i + n)
        | none => s.matchFrom? text fuel (i + 1)

def Search.selects (s : Search) (line : List Char) : Bool :=
  let text := line.toArray
  let matched :=
    if s.wholeLines then
      s.patterns.any fun r =>
        if r.refersBack then r.find? text 0 == some (0, text.size)
        else (r.ends text [0]).contains text.size
    else (s.matchFrom? text (text.size + 2) 0).isSome
  matched != s.inverted

def Search.partsOf (s : Search) (text : Array Char) : (fuel : Nat) → Nat → List (Nat × List Char)
  | 0, _ => []
  | fuel + 1, start =>
    match s.matchFrom? text (text.size + 2) start with
    | none => []
    | some (i, j) =>
      if j = i then if i < text.size then s.partsOf text fuel (i + 1) else []
      else (i, (text.extract i j).toList) :: s.partsOf text fuel j

/-- A line with its number and where it begins. -/
structure Numbered where
  number : Nat
  offset : Nat
  text : List Char

def numbered : (number offset : Nat) → List (List Char) → List Numbered
  | _, _, [] => []
  | number, offset, line :: rest =>
    ⟨number, offset, line⟩ :: numbered (number + 1) (offset + line.length + 1) rest

def Search.lineHead (s : Search) (name : String) (mark : Char) (number offset : Nat) :
    List Char :=
  (if s.heads then name.toList ++ [mark] else []) ++
    (if s.numbers then (toString number).toList ++ [mark] else []) ++
    if s.offsets then (toString offset).toList ++ [mark] else []

def Search.shown (s : Search) (all : List Numbered) : List (Bool × Numbered) :=
  let selected := all.filter fun l => s.selects l.text
  let selected := (s.most.map selected.take).getD selected
  let numbers := selected.map (·.number)
  if s.before = 0 && s.after = 0 then selected.map fun l => (true, l)
  else
    all.filterMap fun l =>
      if numbers.contains l.number then some (true, l)
      else if numbers.any fun n =>
          (n < l.number && l.number ≤ n + s.after) || (l.number < n && n ≤ l.number + s.before) then
        some (false, l)
      else none

/-- The lines that are shown as they are written. Where some are left out, hyphens stand between
them. -/
def Search.render (s : Search) (name : String) : (previous : Option Nat) →
    List (Bool × Numbered) → List (List Char)
  | _, [] => []
  | previous, (isSelected, l) :: rest =>
    let gap :=
      match previous with
      | some n => (s.before > 0 || s.after > 0) && n + 1 < l.number
      | none => false
    let mark := if isSelected then ':' else '-'
    let here :=
      if s.parts then
        if isSelected && !s.inverted then
          (s.partsOf l.text.toArray (l.text.length + 2) 0).map fun (i, text) =>
            s.lineHead name mark l.number (l.offset + i) ++ text
        else []
      else [s.lineHead name mark l.number l.offset ++ l.text]
    (if gap then [['-', '-']] else []) ++ here ++ s.render name (some l.number) rest

/-- What one source comes to: what is written, and whether anything was selected. -/
def Search.source (s : Search) (called : String) (g : Gathered) : List UInt8 × Bool :=
  let name := if g.name = "-" then "(standard input)" else g.name
  let all := numbered 1 0 (lines g.content)
  let shown := s.shown all
  let selected := shown.filter (·.1)
  let found := !selected.isEmpty
  let line (text : String) : List UInt8 := octets (text ++ "\n")
  let out :=
    if s.quiet then []
    else
      match s.names with
      | some wanted => if found == wanted then line name else []
      | none =>
        if s.counts then line ((if s.heads then name ++ ":" else "") ++ toString selected.length)
        else if g.content.contains 0 && found then line s!"{called}: {name}: binary file matches"
        else ofLines (s.render name none shown)
  (out, found)

def searchKnowledge : Knowledge :=
  ⟨"EFGPVabcHhiILlnoqRrsTUvwxyz", "ABCDdefm",
    [("extended-regexp", 'E'), ("fixed-strings", 'F'), ("basic-regexp", 'G'), ("regexp", 'e'),
      ("ignore-case", 'i'), ("invert-match", 'v'), ("word-regexp", 'w'), ("line-regexp", 'x'),
      ("count", 'c'), ("files-without-match", 'L'), ("files-with-matches", 'l'),
      ("max-count", 'm'), ("only-matching", 'o'), ("quiet", 'q'), ("silent", 'q'),
      ("no-messages", 's'), ("line-number", 'n'), ("with-filename", 'H'), ("no-filename", 'h'),
      ("after-context", 'A'), ("before-context", 'B'), ("context", 'C'), ("recursive", 'r'),
      ("byte-offset", 'b'), ("text", 'a')], false⟩

/-- Searches lines. `style` is how expressions are written where nothing else is said; `several`
says that names of files are shown. -/
def grepWork (called : String) (standard : Char) (several : Bool) (args : List String) : Plan := do
  let short := s!"Usage: grep [OPTION]... PATTERNS [FILE]...\n{helpLine called}"
  let d ← (Demand.ofArgs searchKnowledge args).mapError fun fault =>
    (s!"{called}: {fault.message}\n{short}", 2)
  let fail {α : Type} (text : String) : Except (String × Nat) α := throw (s!"{called}: {text}", 2)
  let (given, operands) :=
    match d.values 'e', d.operands with
    | [], pattern :: rest => ([pattern], rest)
    | patterns, operands => (patterns, operands)
  if given.isEmpty then throw (short, 2)
  let kind := (d.lastOf "EFG").getD standard
  let style : Regex.Style := ⟨kind = 'E', d.hasAny "iy"⟩
  let texts := given.flatMap fun text => text.toList.splitOn '\n'
  let patterns ← texts.mapM fun text =>
    if kind = 'F' then pure (Regex.literally style text)
    else (Regex.read style text).mapError fun e => (s!"{called}: {e}", 2)
  let context (c : Char) : Except (String × Nat) Nat :=
    match (d.value? c).or (d.value? 'C') with
    | none => pure 0
    | some text =>
      match text.toNat? with
      | some n => pure n
      | none => fail s!"{text}: invalid context length argument"
  let most ←
    match d.value? 'm' with
    | none => pure none
    | some text =>
      match text.toNat? with
      | some n => pure (some n)
      | none => fail "invalid max count"
  let before ← context 'B'
  let after ← context 'A'
  let s : Search :=
    { patterns
      inverted := d.has 'v'
      wholeLines := d.has 'x'
      wholeWords := d.has 'w'
      counts := d.has 'c'
      names := (d.lastOf "lL").map (· == 'l')
      quiet := d.has 'q'
      numbers := d.has 'n'
      offsets := d.has 'b'
      parts := d.has 'o'
      heads :=
        match d.lastOf "Hh" with
        | some c => c == 'H'
        | none => several || operands.length > 1
      most, before, after }
  let finish (all : List Gathered) : Result :=
    let found := all.map (s.source called)
    let any := found.any fun (_, found) => if s.names = some false then !found else found
    ⟨found.flatMap (·.1), "", if any then 0 else 1, []⟩
  return {
    sources := sourcesOf operands
    piece := none
    enough :=
      if s.quiet || s.names = some true then
        some fun content =>
          content.contains 10 && (lines content).dropLast.any s.selects
      else none
    spare := fun _ => 0
    settled := if s.counts || s.names.isSome || s.quiet then .nothing else .lines
    bySource := true
    finish }

end Filter

end SyscallProfiler.Machine
