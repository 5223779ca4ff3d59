import SyscallProfiler.Machine.Filters.Lines
import SyscallProfiler.Machine.Matching

/-!
# Editing lines

A script of editing commands is carried out on each line in turn. Commands may be for some lines
only, keep text aside, and go on elsewhere in the script.
-/

namespace SyscallProfiler.Machine

namespace Edit

/-! ## Scripts -/

/-- A line that a command is for. -/
inductive Address where
  | line (n : Nat)
  | last
  /-- Every so many lines from one on. -/
  | step (first by_ : Nat)
  /-- A line that matches; nothing stands for the expression that was used last. -/
  | matching (r : Option Regex)
deriving Repr, Inhabited

/-- Where lines end that a command is for. -/
inductive Limit where
  | at_ (a : Address)
  /-- So many lines later. -/
  | later (n : Nat)
  /-- At the next line whose number is a multiple. -/
  | multiple (n : Nat)
deriving Repr, Inhabited

/-- The lines that a command is for. -/
structure Scope where
  first : Option Address
  limit : Option Limit
  negated : Bool
deriving Repr, Inhabited

/-- A part of a replacement. -/
inductive Piece where
  | text (cs : List Char)
  | group (n : Nat)
  /-- A change of case, by its letter. -/
  | shape (letter : Char)
deriving Repr, Inhabited

structure Substitution where
  pattern : Option Regex
  pieces : List Piece
  everywhere : Bool
  prints : Bool
  /-- The match that is the first to be replaced. -/
  number : Nat
  file : Option String
deriving Repr, Inhabited

/-- When a command goes on elsewhere. -/
inductive Jump where
  | always
  | ifChanged
  | unlessChanged
deriving DecidableEq, Repr, Inhabited

/-- What a command does. -/
inductive Command where
  /-- Begins commands that are for some lines only; they end at an index. -/
  | open_ (close : Nat)
  | nothing
  | substitute (s : Substitution)
  | exchange (source target : List Char)
  | jump (kind : Jump) (label : String)
  | append (text : List Char)
  | insert (text : List Char)
  | change (text : List Char)
  | readFile (path : String)
  | writeFile (path : String)
  | quit (code : Nat) (silent : Bool)
  /-- A command that is only a letter. -/
  | plain (letter : Char)
deriving Repr, Inhabited

/-- A command with the lines that it is for. -/
structure Instruction where
  scope : Scope
  command : Command
  /-- The label that stands here, if the command is one. -/
  label : Option String
deriving Repr, Inhabited

/-! ## Reading scripts -/

/-- What is left of a script, and how many characters have been read. -/
structure Place where
  text : List Char
  count : Nat

namespace Place

def skip (p : Place) (n : Nat) : Place := ⟨p.text.drop n, p.count + min n p.text.length⟩

def fail {α : Type} (p : Place) (text : String) : Except String α :=
  .error s!"-e expression #1, char {p.count}: {text}"

def skipBlanks (p : Place) : Place := p.skip (p.text.takeWhile fun c => c = ' ' || c = '\t').length

def skipEnds (p : Place) : Place :=
  p.skip (p.text.takeWhile fun c => c = ' ' || c = '\t' || c = '\n' || c = ';').length

def number (p : Place) : Option (Nat × Place) :=
  let digits := p.text.takeWhile Json.isDigit
  if digits.isEmpty then none else some (Json.ofDigits digits, p.skip digits.length)

end Place

/-- The characters up to a delimiter that no backslash stands before; sets count as one if `sets`
says so. In the result a delimiter has no backslash before it. -/
def upTo (delimiter : Char) (sets : Bool) : (inSet : Nat) → List Char →
    Option (List Char × Nat)
  | _, [] => none
  | inSet, '\\' :: c :: rest =>
    if inSet > 0 then
      (upTo delimiter sets (inSet + 1) (c :: rest)).map fun (cs, n) => ('\\' :: cs, n + 1)
    else if c = delimiter then
      (upTo delimiter sets 0 rest).map fun (cs, n) => (c :: cs, n + 2)
    else if c = 'n' && sets then
      (upTo delimiter sets 0 rest).map fun (cs, n) => ('\n' :: cs, n + 2)
    else (upTo delimiter sets 0 rest).map fun (cs, n) => ('\\' :: c :: cs, n + 2)
  | inSet, c :: rest =>
    let next : Nat :=
      if !sets then 0
      else if inSet = 0 then if c = '[' then 1 else 0
      else if c = ']' && inSet > 1 then 0
      else if c = '^' && inSet = 1 then 1
      else inSet + 1
    if c = delimiter && inSet = 0 then some ([], 1)
    else (upTo delimiter sets next rest).map fun (cs, n) => (c :: cs, n + 1)

/-- A pattern in which line ends in sets stand for themselves. -/
def plainSets : (inSet : Nat) → List Char → List Char
  | _, [] => []
  | 0, '\\' :: c :: rest => '\\' :: c :: plainSets 0 rest
  | inSet, '\\' :: 'n' :: rest => '\n' :: plainSets (inSet + 1) rest
  | inSet, '\\' :: 't' :: rest => '\t' :: plainSets (inSet + 1) rest
  | inSet, c :: rest =>
    let next :=
      if inSet = 0 then if c = '[' then 1 else 0
      else if c = ']' && inSet > 1 then 0
      else if c = '^' && inSet = 1 then 1
      else inSet + 1
    c :: plainSets next rest

/-- Reads an expression; an empty one stands for the one that was used last. -/
def readPattern (extended ignoresCase : Bool) (p : Place) (text : List Char) :
    Except String (Option Regex) :=
  if text.isEmpty then .ok none
  else
    match Regex.read ⟨extended, ignoresCase⟩ (plainSets 0 text) with
    | .ok r => .ok (some r)
    | .error e => p.fail e

def readAddress (extended : Bool) (p : Place) : Except String (Option (Address × Place)) := do
  match p.number with
  | some (n, p) =>
    match p.text with
    | '~' :: _ =>
      match (p.skip 1).number with
      | some (k, p) => return some (.step n k, p)
      | none => return some (.step n 0, p.skip 1)
    | _ => return some (.line n, p)
  | none =>
    let pattern (delimiter : Char) (p : Place) : Except String (Option (Address × Place)) := do
      match upTo delimiter true 0 p.text with
      | none => p.skip p.text.length |>.fail "unterminated address regex"
      | some (text, n) =>
        let p := p.skip n
        let ignoresCase := p.text.head? = some 'I'
        let p := if ignoresCase then p.skip 1 else p
        return some (.matching (← readPattern extended ignoresCase p text), p)
    match p.text with
    | '$' :: _ => return some (.last, p.skip 1)
    | '/' :: _ => pattern '/' (p.skip 1)
    | '\\' :: c :: _ => pattern c (p.skip 2)
    | _ => return none

def readScope (extended : Bool) (p : Place) : Except String (Scope × Place) := do
  let (first, p) ←
    match ← readAddress extended p with
    | none => pure (none, p)
    | some (a, p) => pure (some a, p.skipBlanks)
  let (limit, p) ←
    match first, p.text with
    | some _, ',' :: _ => do
      let p := (p.skip 1).skipBlanks
      match p.text with
      | '+' :: _ =>
        match (p.skip 1).number with
        | some (n, p) => pure (some (Limit.later n), p)
        | none => (p.skip 2).fail "unexpected \x60,\x27"
      | '~' :: _ =>
        match (p.skip 1).number with
        | some (n, p) => pure (some (Limit.multiple n), p)
        | none => (p.skip 2).fail "unexpected \x60,\x27"
      | _ =>
        match ← readAddress extended p with
        | some (a, p) => pure (some (Limit.at_ a), p)
        | none => (p.skip 1).fail "unexpected \x60,\x27"
    | _, _ => pure (none, p)
  let p := p.skipBlanks
  match p.text with
  | '!' :: _ =>
    let marks := (p.text.takeWhile fun c => c = '!' || c = ' ').length
    return (⟨first, limit, true⟩, p.skip marks)
  | _ => return (⟨first, limit, false⟩, p)

def piecesOf : List Char → List Piece
  | [] => []
  | '&' :: rest => .group 0 :: piecesOf rest
  | '\\' :: c :: rest =>
    (if Json.isDigit c then Piece.group (Json.digitValue c)
    else if ['U', 'L', 'u', 'l', 'E'].contains c then .shape c
    else if c = 'n' then .text ['\n']
    else if c = 't' then .text ['\t']
    else .text [c]) :: piecesOf rest
  | c :: rest => .text [c] :: piecesOf rest

/-- The greatest number of a group in a replacement. -/
def greatestGroup (pieces : List Piece) : Nat :=
  pieces.foldl (fun n piece =>
    match piece with
    | .group k => max n k
    | _ => n) 0

def groupCount : Regex → Nat
  | .group _ r => groupCount r + 1
  | .both a b => groupCount a + groupCount b
  | .either a b => groupCount a + groupCount b
  | .repeated r _ _ => groupCount r
  | _ => 0

def restOfLine (p : Place) : String × Place :=
  let text := p.text.takeWhile (· != '\n')
  (String.ofList text, p.skip text.length)

/-- Reads what stands after `s`. -/
def readSubstitution (extended : Bool) (p : Place) : Except String (Command × Place) := do
  let unterminated {α : Type} : Except String α :=
    (p.skip p.text.length).fail "unterminated \x60s\x27 command"
  match p.text with
  | [] => unterminated
  | delimiter :: _ =>
    let p := p.skip 1
    match upTo delimiter true 0 p.text with
    | none => unterminated
    | some (pattern, n) =>
      let p := p.skip n
      match upTo delimiter false 0 p.text with
      | none => unterminated
      | some (replacement, n) =>
        let p := p.skip n
        let flags := p.text.takeWhile fun c => ['g', 'p', 'i', 'I', 'm', 'M', 'e'].contains c ||
          Json.isDigit c
        let p := p.skip flags.length
        let digits := flags.filter Json.isDigit
        let (file, p) :=
          match p.text with
          | 'w' :: _ =>
            let (path, p) := restOfLine (p.skip 1).skipBlanks
            (some path, p)
          | _ => (none, p)
        match p.skipBlanks.text with
        | c :: _ =>
          if c != ';' && c != '\n' && c != '}' && c != '#' then
            (p.skipBlanks.skip 1).fail "unknown option to \x60s\x27"
        | [] => pure ()
        let r ← readPattern extended (flags.contains 'i' || flags.contains 'I') p pattern
        let pieces := piecesOf replacement
        let greatest := greatestGroup pieces
        if r.any fun r => decide (greatest > groupCount r) then
          p.fail s!"invalid reference \\{greatest} on \x60s\x27 command\x27s RHS"
        return (.substitute ⟨r, pieces, flags.contains 'g', flags.contains 'p',
          if digits.isEmpty then 1 else max 1 (Json.ofDigits digits), file⟩, p)

/-- The text of a command that puts lines in, up to a line end that no backslash stands before. -/
def readText : List Char → List Char × Nat
  | [] => ([], 0)
  | '\\' :: c :: rest =>
    let (text, n) := readText rest
    (c :: text, n + 2)
  | c :: rest =>
    if c = '\n' then ([], 1)
    else
      let (text, n) := readText rest
      (c :: text, n + 1)

def readLines (p : Place) : Except String (List Char × Place) :=
  let p := p.skipBlanks
  let p :=
    match p.text with
    | '\\' :: '\n' :: _ => p.skip 2
    | '\\' :: _ =>
      let q := (p.skip 1).skipBlanks
      match q.text with
      | '\n' :: _ => q.skip 1
      | _ => p.skip 1
    | _ => p
  if p.text.isEmpty then p.fail "expected \\ after \x60a\x27, \x60c\x27 or \x60i\x27"
  else
    let (text, n) := readText p.text
    .ok (text ++ ['\n'], p.skip n)

def exchangeChars : List Char → List Char
  | '\\' :: '\\' :: rest => '\\' :: exchangeChars rest
  | '\\' :: 'n' :: rest => '\n' :: exchangeChars rest
  | c :: rest => c :: exchangeChars rest
  | [] => []

/-- Reads what stands after `y`. -/
def readExchange (p : Place) : Except String (Command × Place) := do
  let unterminated {α : Type} : Except String α :=
    (p.skip p.text.length).fail "unterminated \x60y\x27 command"
  match p.text with
  | [] => unterminated
  | delimiter :: _ =>
    let p := p.skip 1
    match upTo delimiter false 0 p.text with
    | none => unterminated
    | some (source, n) =>
      let p := p.skip n
      match upTo delimiter false 0 p.text with
      | none => unterminated
      | some (target, n) =>
        let p := p.skip n
        let source := exchangeChars source
        let target := exchangeChars target
        if source.length != target.length then
          p.fail "strings for \x60y\x27 command are different lengths"
        else return (.exchange source target, p)

def readLabel (p : Place) : String × Place :=
  let p := p.skipBlanks
  let name := p.text.takeWhile fun c => c != '\n' && c != ';' && c != '}'
  let trimmed := (name.reverse.dropWhile (· = ' ')).reverse
  (String.ofList trimmed, p.skip name.length)

/-- Refuses what stands after a command on the same line. -/
def endCommand (p : Place) : Except String Place :=
  let p := p.skipBlanks
  match p.text with
  | [] => .ok p
  | c :: _ =>
    if c = ';' || c = '\n' then .ok (p.skip 1)
    else if c = '}' || c = '#' then .ok p
    else (p.skip 1).fail "extra characters after command"

/-- The commands that are only a letter. -/
def plainLetters : List Char :=
  ['p', 'P', 'd', 'D', 'n', 'N', 'h', 'H', 'g', 'G', 'x', '=', 'l', 'z', 'F']

/-- Reads the instructions of a script. Blocks that are open stand in `opened`, the innermost
first. -/
def readScript (extended : Bool) : (fuel : Nat) → (opened : List Nat) →
    (done : Array Instruction) → Place → Except String (Array Instruction)
  | 0, _, done, _ => .ok done
  | fuel + 1, opened, done, p => do
    let p := p.skipEnds
    let (scope, p) ← readScope extended p
    let add (command : Command) (p : Place) : Except String (Array Instruction) := do
      readScript extended fuel opened (done.push ⟨scope, command, none⟩) (← endCommand p)
    match p.text with
    | [] =>
      if scope.first.isSome then p.fail "missing command"
      else if !opened.isEmpty then
        .error "-e expression #1, char 0: unmatched \x60\x7b\x27"
      else return done
    | c :: _ =>
      let p := p.skip 1
      if c = '#' then
        readScript extended fuel opened done (p.skip (p.text.takeWhile (· != '\n')).length)
      else if c = '\x7b' then
        readScript extended fuel (done.size :: opened) (done.push ⟨scope, .open_ 0, none⟩) p
      else if c = '\x7d' then
        match opened with
        | [] => p.fail "unexpected \x60\x7d\x27"
        | start :: rest =>
          let close := done.size
          let done := done.modify start fun i => { i with command := .open_ close }
          readScript extended fuel rest (done.push ⟨⟨none, none, false⟩, .nothing, none⟩)
            (← endCommand p)
      else if c = ':' then
        let (name, p) := readLabel p
        if name = "" then p.fail "\":\" lacks a label"
        else
          readScript extended fuel opened (done.push ⟨⟨none, none, false⟩, .nothing, some name⟩) p
      else if c = 's' then
        let (command, p) ← readSubstitution extended p
        add command p
      else if c = 'y' then
        let (command, p) ← readExchange p
        add command p
      else if c = 'a' || c = 'i' || c = 'c' then
        let (text, p) ← readLines p
        let command : Command :=
          if c = 'a' then .append text else if c = 'i' then .insert text else .change text
        readScript extended fuel opened (done.push ⟨scope, command, none⟩) p
      else if c = 'b' || c = 't' || c = 'T' then
        let (name, p) := readLabel p
        let kind := if c = 'b' then Jump.always else if c = 't' then .ifChanged else .unlessChanged
        add (.jump kind name) p
      else if c = 'q' || c = 'Q' then
        let p := p.skipBlanks
        match p.number with
        | some (n, p) => add (.quit n (c = 'Q')) p
        | none => add (.quit 0 (c = 'Q')) p
      else if c = 'r' || c = 'w' then
        let (path, p) := restOfLine p.skipBlanks
        if path = "" then p.fail "missing filename in r/R/w/W commands"
        else add (if c = 'r' then .readFile path else .writeFile path) p
      else if plainLetters.contains c then add (.plain c) p
      else p.fail s!"unknown command: \x60{c}\x27"

def scriptOf (extended : Bool) (text : List Char) : Except String (Array Instruction) := do
  let script ← readScript extended (2 * text.length + 4) [] #[] ⟨text, 0⟩
  let labels := script.toList.filterMap (·.label)
  for i in script do
    match i.command with
    | .jump _ name =>
      if name != "" && !labels.contains name then
        throw s!"can\x27t find label for jump to \x60{name}\x27"
    | _ => pure ()
  return script

/-! ## Carrying out -/

/-- A line that is to come. -/
structure Line where
  text : List Char
  /-- Whether a line feed follows it. -/
  ended : Bool
  file : String

/-- The state of an editor. -/
structure State where
  /-- The line that is worked on. -/
  space : List Char
  ended : Bool
  hold : List Char
  number : Nat
  file : String
  input : List Line
  /-- Pieces of output, the latest first. -/
  output : List (List Char)
  /-- Whether the output lacks a line feed at its end. -/
  unfinished : Bool
  /-- What is written once the line is done. -/
  queue : List (List Char)
  changed : Bool
  recent : Option Regex
  /-- The scopes that have begun and where they end at the latest. -/
  active : List (Nat × Nat)
  /-- What is written to files, the latest first. -/
  written : List (String × List Char)
  quit : Option Nat

namespace State

/-- Writes text, after a line feed that is still missing. -/
def write (s : State) (text : List Char) : State :=
  { s with
    output := text :: if s.unfinished then ['\n'] :: s.output else s.output
    unfinished := false }

/-- Writes a line, without a line feed if there was none in the input. -/
def writeLine (s : State) (text : List Char) : State :=
  if s.ended then s.write (text ++ ['\n']) else { s.write text with unfinished := true }

/-- Writes what is to be written once the line is done. -/
def flush (s : State) : State :=
  let s := s.queue.reverse.foldl write s
  { s with queue := [] }

def isLast (s : State) : Bool := s.input.isEmpty

/-- Takes the next line; `join` puts it after the one that is there. -/
def take (s : State) (join : Bool) : State :=
  match s.input with
  | [] => s
  | line :: rest =>
    { s with
      space := if join then s.space ++ '\n' :: line.text else line.text
      ended := line.ended
      file := line.file
      number := s.number + 1
      input := rest }

def writeTo (s : State) (path : String) (text : List Char) : State :=
  if path = "/dev/stdout" then s.write (text ++ ['\n'])
  else { s with written := (path, text ++ ['\n']) :: s.written }

def isAt (s : State) : Address → Bool × State
  | .line n => (s.number == n, s)
  | .last => (s.isLast, s)
  | .step first by_ =>
    (if by_ = 0 then s.number == first
      else s.number ≥ first && (s.number - first) % by_ == 0, s)
  | .matching r =>
    match r.or s.recent with
    | none => (false, s)
    | some r => (r.isIn s.space, { s with recent := some r })

/-- A line that no text has. -/
def noLine : Nat := Nat.pow 2 63

/-- Whether a scope that begins here goes on: up to which line at the latest. -/
def beginScope (s : State) : Limit → Option Nat
  | .later n => if n = 0 then none else some (s.number + n)
  | .multiple n =>
    if n = 0 || s.number % n == 0 then none else some ((s.number / n + 1) * n)
  | .at_ (.line n) => if n ≤ s.number then none else some n
  | .at_ .last => if s.isLast then none else some noLine
  | .at_ _ => some noLine

def selects (s : State) (index : Nat) (scope : Scope) : Bool × State :=
  let (found, s) : Bool × State :=
    match scope.first, scope.limit with
    | none, _ => (true, s)
    | some a, none => s.isAt a
    | some a, some limit =>
      let ending (s : State) : State :=
        { s with active := s.active.filter fun (i, _) => i != index }
      let isActive := s.active.find? fun (i, _) => i == index
      let fromStart :=
        match a, limit with
        | .line 0, .at_ (.matching _) => s.number == 1 && isActive.isNone
        | _, _ => false
      match (if fromStart then some (index, noLine) else isActive) with
      | some (_, n) =>
        let s := if fromStart then { s with active := (index, n) :: s.active } else s
        match limit with
        | .at_ (.matching r) =>
          let (ends, s) := s.isAt (.matching r)
          (true, if ends then ending s else s)
        | .at_ .last => (true, if s.isLast then ending s else s)
        | .at_ (.line n) =>
          if s.number > n then s.isAt a |> fun (b, s) => (b, ending s)
          else (true, if s.number = n then ending s else s)
        | _ => (true, if s.number ≥ n then ending s else s)
      | none =>
        let (begins, s) := s.isAt a
        if begins then
          match s.beginScope limit with
          | some n => (true, { s with active := (index, n) :: s.active })
          | none => (true, s)
        else (false, s)
  (found != scope.negated, s)

end State

/-- A text with its case changed as far as letters say: for the next character, and for all. -/
def shaped (once all : Option Char) (text : List Char) : List Char × Option Char :=
  let change (letter : Option Char) (c : Char) : Char :=
    match letter with
    | some 'U' | some 'u' => c.toUpper
    | some 'L' | some 'l' => c.toLower
    | _ => c
  match text with
  | [] => ([], once)
  | c :: rest => (change (once.or all) c :: rest.map (change all), none)

/-- A replacement with what groups have matched put in. -/
def replacement (text : Array Char) (i j : Nat) (groups : Regex.Groups) :
    (once all : Option Char) → List Piece → List Char
  | _, _, [] => []
  | once, all, piece :: rest =>
    let put (cs : List Char) : List Char :=
      let (shown, once) := shaped once all cs
      shown ++ replacement text i j groups once all rest
    match piece with
    | .text cs => put cs
    | .group 0 => put (text.extract i j).toList
    | .group n =>
      match groups.find? fun (k, _) => k == n with
      | some (_, low, high) => put (text.extract low high).toList
      | none => replacement text i j groups once all rest
    | .shape letter =>
      if letter = 'U' || letter = 'L' then replacement text i j groups once (some letter) rest
      else if letter = 'E' then replacement text i j groups none none rest
      else replacement text i j groups (some letter) all rest

/-- Replaces matches from a place on: the rest of the text, and whether anything was replaced.
`count` is the number of the next match, and `previous` the end of the match before. -/
def replaceFrom (r : Regex) (sub : Substitution) (text : Array Char) :
    (fuel : Nat) → (start count : Nat) → (previous : Option Nat) → List Char × Bool
  | 0, start, _, _ => ((text.extract start text.size).toList, false)
  | fuel + 1, start, count, previous =>
    match r.find? text start with
    | none => ((text.extract start text.size).toList, false)
    | some (i, j) =>
      let before := (text.extract start i).toList
      let goOn (here : List Char) (changed : Bool) (count : Nat) : List Char × Bool :=
        if i = j then
          if i ≥ text.size then (before ++ here, changed)
          else
            let (rest, more) := replaceFrom r sub text fuel (i + 1) count none
            (before ++ here ++ (text.extract i (i + 1)).toList ++ rest, changed || more)
        else
          let (rest, more) := replaceFrom r sub text fuel j count (some j)
          (before ++ here ++ rest, changed || more)
      if i = j && previous = some i then goOn [] false count
      else if count < sub.number then goOn (text.extract i j).toList false (count + 1)
      else
        let put := replacement text i j (r.groupsOf text i j) none none sub.pieces
        if sub.everywhere then goOn put true (count + 1)
        else (before ++ put ++ (text.extract j text.size).toList, true)

/-- A line as it is listed, with everything that cannot be seen as an escape. -/
def listed (text : List Char) : List Char :=
  let items := text.map fun c =>
    if c = '\\' then ['\\', '\\']
    else if Text.Quoting.isPrintable c then [c]
    else Text.Quoting.escape c
  go 0 items
where
  /-- Breaks the line where it becomes too long. -/
  go (width : Nat) : List (List Char) → List Char
    | [] => ['$', '\n']
    | item :: rest =>
      if width + item.length > 69 then '\\' :: '\n' :: item ++ go item.length rest
      else item ++ go (width + item.length) rest

/-- How an editor works. -/
structure Style where
  quiet : Bool
  script : Array Instruction
  lookup : String → Option (List UInt8)

/-- What follows an instruction. -/
inductive Next where
  | goTo (index : Nat)
  /-- The line is done, and is written unless the editor is quiet. -/
  | finish
  /-- The line is dropped. -/
  | drop
  /-- The line is done, and the script begins again with what is left of it. -/
  | again
  | stop

def Style.find (style : Style) (name : String) : Nat :=
  if name = "" then style.script.size
  else (style.script.findIdx? fun i => i.label == some name).getD style.script.size

/-- Ends an editor because there is no next line. -/
def endInput (style : Style) (s : State) : Next × State :=
  let s := if style.quiet then s else s.writeLine s.space
  (.stop, { s.flush with quit := s.quit.or (some 0) })

def plain (style : Style) (letter : Char) (index : Nat) (s : State) : Next × State :=
  let next := Next.goTo (index + 1)
  let firstLine := s.space.takeWhile (· != '\n')
  let restLines := s.space.drop (firstLine.length + 1)
  match letter with
  | 'p' => (next, s.writeLine s.space)
  | 'P' => (next, s.write (firstLine ++ ['\n']))
  | 'd' => (.drop, s)
  | 'D' => if s.space.contains '\n' then (.again, { s with space := restLines }) else (.drop, s)
  | 'n' =>
    if s.isLast then endInput style s
    else
      let s := if style.quiet then s else s.writeLine s.space
      (next, s.flush.take false)
  | 'N' => if s.isLast then endInput style s else (next, s.flush.take true)
  | 'h' => (next, { s with hold := s.space })
  | 'H' => (next, { s with hold := s.hold ++ '\n' :: s.space })
  | 'g' => (next, { s with space := s.hold })
  | 'G' => (next, { s with space := s.space ++ '\n' :: s.hold })
  | 'x' => (next, { s with space := s.hold, hold := s.space })
  | '=' => (next, s.write ((toString s.number).toList ++ ['\n']))
  | 'l' => (next, s.write (listed s.space))
  | 'z' => (next, { s with space := [] })
  | 'F' => (next, s.write (s.file.toList ++ ['\n']))
  | _ => (next, s)

def carryOut (style : Style) (index : Nat) (i : Instruction) (s : State) : Next × State :=
  let (selected, s) := s.selects index i.scope
  let next := Next.goTo (index + 1)
  match i.command with
  | .open_ close => (if selected then next else .goTo (close + 1), s)
  | command =>
    if !selected then (next, s)
    else
      match command with
      | .open_ _ | .nothing => (next, s)
      | .plain letter => plain style letter index s
      | .append text => (next, { s with queue := text :: s.queue })
      | .insert text => (next, s.write text)
      | .change text =>
        let goesOn := i.scope.limit.isSome && s.active.any fun (k, _) => k == index
        (.drop, if goesOn && !i.scope.negated then s else s.write text)
      | .readFile path =>
        match style.lookup path with
        | some content => (next, { s with queue := Filter.charsOf content :: s.queue })
        | none => (next, s)
      | .writeFile path => (next, s.writeTo path s.space)
      | .quit code silent =>
        if silent then (.stop, { s with quit := some code })
        else
          let s := if style.quiet then s else s.writeLine s.space
          (.stop, { s.flush with quit := some code })
      | .exchange source target =>
        let change (c : Char) : Char :=
          match source.idxOf? c with
          | some k => target.getD k c
          | none => c
        (next, { s with space := s.space.map change })
      | .jump kind label =>
        let goes :=
          match kind with
          | .always => true
          | .ifChanged => s.changed
          | .unlessChanged => !s.changed
        let s := if kind = .always then s else { s with changed := false }
        (if goes then .goTo (style.find label) else next, s)
      | .substitute sub =>
        match sub.pattern.or s.recent with
        | none => (next, s)
        | some r =>
          let s := { s with recent := some r }
          let text := s.space.toArray
          let (result, changed) := replaceFrom r sub text (2 * text.size + 4) 0 1 none
          if !changed then (next, s)
          else
            let s := { s with space := result, changed := true }
            let s := if sub.prints then s.writeLine result else s
            (next, (sub.file.map fun path => s.writeTo path result).getD s)

def work (style : Style) : (fuel : Nat) → (index : Nat) → State → State
  | 0, _, s => s
  | fuel + 1, index, s =>
    let nextLine (s : State) : State :=
      let s := s.flush
      if s.isLast then s else work style fuel 0 ({ s.take false with changed := false })
    match style.script[index]? with
    | none => nextLine (if style.quiet then s else s.writeLine s.space)
    | some i =>
      match carryOut style index i s with
      | (.goTo index, s) => work style fuel index s
      | (.finish, s) => nextLine (if style.quiet then s else s.writeLine s.space)
      | (.drop, s) => nextLine s
      | (.again, s) => work style fuel 0 s.flush
      | (.stop, s) => s

def inputOf (all : List Gathered) : List Line :=
  all.flatMap fun g =>
    (Filter.pieces g.content).map fun line =>
      let ended := line.getLast? = some 10
      ⟨Filter.charsOf (if ended then line.dropLast else line), ended, g.name⟩

def run (style : Style) (all : List Gathered) : State :=
  let input := inputOf all
  let start : State :=
    ⟨[], true, [], 0, "", input, [], false, [], false, none, [], [], none⟩
  if input.isEmpty then start
  else
    let size := (all.map (·.content.length)).foldl (· + ·) 0
    work style (200 * (size + 10) * (style.script.size + 1) + 100000) 0 (start.take false)

def outputOf (s : State) : List UInt8 := Filter.octetsOf s.output.reverse.flatten

def filesOf (s : State) : List (String × List UInt8) :=
  let names := (s.written.map (·.1)).eraseDups
  names.map fun name =>
    (name, Filter.octetsOf ((s.written.reverse.filter fun (n, _) => n == name).flatMap (·.2)))

end Edit

end SyscallProfiler.Machine
