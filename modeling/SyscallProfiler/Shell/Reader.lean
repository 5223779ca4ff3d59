import SyscallProfiler.Json.Number
import SyscallProfiler.Shell.Grammar

/-!
# Reading shell commands

A script is read one command line at a time, as it is run: a mistake further down does not keep
the commands before it from running. The functions are bounded by fuel that is larger than the
text is long.
-/

namespace SyscallProfiler.Shell

/-- What is left of a script, on which line it begins, and the words that stand for others. -/
structure Source where
  text : List Char
  line : Nat
  aliases : List (String × String)
deriving Repr, Inhabited

/-- Why a script cannot be read, and where. -/
structure ReadError where
  line : Nat
  message : String
deriving Repr, Inhabited

/-- How the commands that stand in words are passed over. -/
structure Nested where
  /-- Passes over commands and the parenthesis after them. -/
  closed : Source → Except ReadError Source
  /-- Passes over commands that are a whole text. -/
  whole : Source → Except ReadError Unit

/-- A computation that reads the front of a script. -/
abbrev Reading := ReaderT Nested (Except ReadError)

/-- A token of a script. -/
inductive Token where
  | word (w : Word)
  | operator (text : String)
  /-- Digits right before a redirection. -/
  | descriptor (n : Nat)
  | newline
  | finish
deriving Repr, Inhabited

namespace Source

/-- The source after characters, in which lines may end, have been passed over. -/
def pass (s : Source) (later passed : List Char) : Source :=
  { s with text := later, line := s.line + passed.count '\n' }

def fail {α : Type} (s : Source) (message : String) : Reading α := throw ⟨s.line, message⟩

end Source

/-- Whether a character ends a word that is not quoted. -/
def endsWord (c : Char) : Bool :=
  c = ' ' || c = '\t' || c = '\n' || c = ';' || c = '&' || c = '|' || c = '<' || c = '>' ||
    c = '(' || c = ')'

def startsName (c : Char) : Bool := c.isAlpha && c.toNat < 128 || c = '_'

def inName (c : Char) : Bool := startsName c || Json.isDigit c

/-- Whether a character by itself is the name of a parameter. -/
def isSpecialParam (c : Char) : Bool :=
  c = '@' || c = '*' || c = '#' || c = '?' || c = '-' || c = '$' || c = '!' || Json.isDigit c

def spanName : List Char → List Char × List Char
  | [] => ([], [])
  | c :: rest =>
    if inName c then
      let (name, later) := spanName rest
      (c :: name, later)
    else ([], c :: rest)

def isName (text : String) : Bool :=
  (text.toList.head?.map startsName).getD false && text.toList.all inName

def dropLine : List Char → List Char
  | [] => []
  | c :: rest => if c = '\n' then c :: rest else dropLine rest

/-- Passes over blanks, continued lines and comments. -/
def skipBlanks : (fuel : Nat) → Source → Source
  | 0, s => s
  | fuel + 1, s =>
    match s.text with
    | ' ' :: rest => skipBlanks fuel { s with text := rest }
    | '\t' :: rest => skipBlanks fuel { s with text := rest }
    | '\\' :: '\n' :: rest => skipBlanks fuel { s with text := rest, line := s.line + 1 }
    | '#' :: rest => skipBlanks fuel { s with text := dropLine rest }
    | _ => s

/-- The characters up to the closing apostrophe, and what follows it. -/
def spanQuoted : List Char → Option (List Char × List Char)
  | [] => none
  | c :: rest =>
    if c = '\x27' then some ([], rest)
    else (spanQuoted rest).map fun (cs, later) => (c :: cs, later)

/-- The characters up to the two parentheses that close arithmetic, and what follows them. Within
it, `depth` parentheses are open; one that closes none of them and is not followed by another stands
for itself. -/
def spanArithmetic : (depth : Nat) → List Char → Option (List Char × List Char)
  | _, [] => none
  | depth, '\\' :: c :: rest =>
    (spanArithmetic depth rest).map fun (cs, later) => ('\\' :: c :: cs, later)
  | 0, ')' :: ')' :: rest => some ([], rest)
  | depth, c :: rest =>
    let depth := if c = '(' then depth + 1 else if c = ')' then depth - 1 else depth
    (spanArithmetic depth rest).map fun (cs, later) => (c :: cs, later)

/-- The characters up to the closing backquote, without the backslashes that belong to the
backquotes, and what follows it. Between quotation marks, a backslash before one of these belongs to
the backquotes too. -/
def spanBackquoted (quoted : Bool) : List Char → Option (List Char × List Char)
  | [] => none
  | '\\' :: c :: rest =>
    if c = '\x60' || c = '\\' || c = '$' || (quoted && c = '"') then
      (spanBackquoted quoted rest).map fun (cs, later) => (c :: cs, later)
    else (spanBackquoted quoted rest).map fun (cs, later) => ('\\' :: c :: cs, later)
  | c :: rest =>
    if c = '\x60' then some ([], rest)
    else (spanBackquoted quoted rest).map fun (cs, later) => (c :: cs, later)

def lineFeeds (text : List Char) : Nat := text.count '\n'

/-- What a word is read in: what ends it, and how backslashes count. -/
inductive WordPlace where
  /-- Among the words of a command. -/
  | command
  /-- Between quotation marks. -/
  | quotes
  /-- Between braces; `quoted` says whether these stand between quotation marks. -/
  | braces (quoted : Bool)
  /-- Everything up to the end of the text, with backslashes as between quotation marks. -/
  | whole
  /-- The same, but a quotation mark stands for itself and so does a backslash before it. -/
  | document
deriving DecidableEq, Repr, Inhabited

namespace WordPlace

def quoted : WordPlace → Bool
  | .command => false
  | .quotes => true
  | .braces quoted => quoted
  | .whole => true
  | .document => true

def escapes (place : WordPlace) (c : Char) : Bool :=
  !place.quoted || c = '$' || c = '\x60' || c = '\\' || (c = '"' && place != .document) ||
    (c = '}' && place = .braces true)

end WordPlace

def consChar (c : Char) (quoted : Bool) : Word → Word
  | .literal text q :: rest =>
    if q = quoted then .literal (String.ofList (c :: text.toList)) quoted :: rest
    else .literal (String.ofList [c]) quoted :: .literal text q :: rest
  | other => .literal (String.ofList [c]) quoted :: other

/-- What stands between quotation marks. It is there even if nothing comes of it, but for all
arguments on their own. -/
def fenced (inner : Word) : Word :=
  match inner with
  | [.param "@" .plain _ _] => inner
  | _ => .literal "" true :: inner

def paramOp? : List Char → Option (ParamOp × List Char)
  | ':' :: '-' :: rest => some (.default true, rest)
  | ':' :: '=' :: rest => some (.assign true, rest)
  | ':' :: '+' :: rest => some (.alternative true, rest)
  | ':' :: '?' :: rest => some (.demand true, rest)
  | '-' :: rest => some (.default false, rest)
  | '=' :: rest => some (.assign false, rest)
  | '+' :: rest => some (.alternative false, rest)
  | '?' :: rest => some (.demand false, rest)
  | '%' :: '%' :: rest => some (.cutEnd true, rest)
  | '%' :: rest => some (.cutEnd false, rest)
  | '#' :: '#' :: rest => some (.cutStart true, rest)
  | '#' :: rest => some (.cutStart false, rest)
  | _ => none

def paramName? : List Char → Option (String × List Char)
  | [] => none
  | c :: rest =>
    if startsName c then
      let (name, later) := spanName (c :: rest)
      some (String.ofList name, later)
    else if Json.isDigit c then
      let digits := (c :: rest).takeWhile Json.isDigit
      some (String.ofList digits, (c :: rest).drop digits.length)
    else if isSpecialParam c then some (String.ofList [c], rest)
    else none

def unterminated : String := "Syntax error: Unterminated quoted string"

def missingBrace : String := "Syntax error: Missing '\x7d'"

mutual

/-- Reads the parts of a word up to what ends it at its place. The ending character is read, but
not the one that ends a word of a command. -/
def readParts : (fuel : Nat) → WordPlace → Source → Reading (Word × Source)
  | 0, _, s => s.fail "Syntax error: word too long"
  | fuel + 1, place, s =>
    match s.text with
    | [] =>
      match place with
      | .command | .whole | .document => return ([], s)
      | .quotes | .braces true => s.fail unterminated
      | .braces false => s.fail missingBrace
    | c :: rest => do
      if place = .command && endsWord c then return ([], s)
      else if place = .quotes && c = '"' then return ([], { s with text := rest })
      else if c = '}' && (place = .braces true || place = .braces false) then
        return ([], { s with text := rest })
      else if c = '\\' then
        match rest with
        | [] => addChar fuel place '\\' { s with text := [] }
        | '\n' :: later => readParts fuel place { s with text := later, line := s.line + 1 }
        | d :: later =>
          if place.escapes d then
            let (w, s) ← readParts fuel place { s with text := later }
            return (consChar d true w, s)
          else addChar fuel place '\\' { s with text := d :: later }
      else if c = '\x27' && !place.quoted then
        match spanQuoted rest with
        | none => s.fail unterminated
        | some (cs, later) =>
          let (w, s) ← readParts fuel place (s.pass later cs)
          return (.literal (String.ofList cs) true :: w, s)
      else if c = '"' && place != .whole && place != .document then
        let (inner, s) ← readParts fuel .quotes { s with text := rest }
        let (w, s) ← readParts fuel place s
        return (fenced inner ++ w, s)
      else if c = '\x60' then
        match spanBackquoted place.quoted rest with
        | none => s.fail "Syntax error: EOF in backquote substitution"
        | some (cs, later) =>
          (← read).whole ⟨cs, 1, []⟩
          let (w, s) ← readParts fuel place (s.pass later cs)
          return (.command (String.ofList cs) 1 place.quoted :: w, s)
      else if c = '$' then readDollar fuel place { s with text := rest }
      else if c = '\n' then addChar fuel place c { s with text := rest, line := s.line + 1 }
      else addChar fuel place c { s with text := rest }

/-- Puts a character that stands for itself before the parts that follow. -/
def addChar : (fuel : Nat) → WordPlace → Char → Source → Reading (Word × Source)
  | 0, _, _, s => s.fail "Syntax error: word too long"
  | fuel + 1, place, c, s => do
    let (w, s) ← readParts fuel place s
    return (consChar c place.quoted w, s)

/-- Reads what follows a dollar sign, and the parts after that. -/
def readDollar : (fuel : Nat) → WordPlace → Source → Reading (Word × Source)
  | 0, _, s => s.fail "Syntax error: word too long"
  | fuel + 1, place, s => do
    match s.text with
    | '(' :: '(' :: rest =>
      match spanArithmetic 0 rest with
      | none => s.fail "Syntax error: Missing '))'"
      | some (cs, later) =>
        let (inner, _) ← readParts fuel .whole { s with text := cs }
        let (w, s) ← readParts fuel place (s.pass later cs)
        return (.arithmetic inner place.quoted :: w, s)
    | '(' :: rest =>
      let after ← (← read).closed ⟨rest, s.line, []⟩
      let text := rest.take (rest.length - after.text.length - 1)
      let (w, later) ← readParts fuel place { after with aliases := s.aliases }
      return (.command (String.ofList text) s.line place.quoted :: w, later)
    | '{' :: '#' :: '}' :: rest => addParam fuel place "#" .plain [] { s with text := rest }
    | '{' :: '#' :: rest =>
      match paramName? rest with
      | some (name, '}' :: later) => addParam fuel place name .length [] { s with text := later }
      | _ => readOperand fuel place "#" .wrong { s with text := rest }
    | '{' :: rest =>
      match paramName? rest with
      | none => readOperand fuel place "" .wrong { s with text := rest }
      | some (name, '}' :: later) => addParam fuel place name .plain [] { s with text := later }
      | some (name, later) =>
        match paramOp? later with
        | none => readOperand fuel place name .wrong { s with text := later }
        | some (op, later) => readOperand fuel place name op { s with text := later }
    | text =>
      match paramName? text with
      | none => addChar fuel place '$' s
      | some (name, later) =>
        match text with
        | c :: rest =>
          if Json.isDigit c then
            addParam fuel place (String.ofList [c]) .plain [] { s with text := rest }
          else addParam fuel place name .plain [] { s with text := later }
        | [] => addParam fuel place name .plain [] { s with text := later }

/-- Reads the word that an operator between braces works with, and the parts after the braces. -/
def readOperand : (fuel : Nat) → WordPlace → String → ParamOp → Source → Reading (Word × Source)
  | 0, _, _, _, s => s.fail "Syntax error: word too long"
  | fuel + 1, place, name, op, s => do
    -- quoting means what it always does in the pattern that is cut off
    let quoted :=
      match op with
      | .cutStart _ | .cutEnd _ => false
      | _ => place.quoted
    let (inner, s) ← readParts fuel (.braces quoted) s
    addParam fuel place name op inner s

def addParam : (fuel : Nat) → WordPlace → String → ParamOp → Word → Source →
    Reading (Word × Source)
  | 0, _, _, _, _, s => s.fail "Syntax error: word too long"
  | fuel + 1, place, name, op, inner, s => do
    let (w, s) ← readParts fuel place s
    return (.param name op inner place.quoted :: w, s)

end

/-- Fuel that suffices for reading a text. -/
def Source.fuel (s : Source) : Nat := 4 * s.text.length + 16

/-- The operators, longer ones first. -/
def operators : List String :=
  ["<<-", "&&", "||", ";;", ">>", "<<", ">&", "<&", ">|", "<>", ";", "&", "|", "<", ">", "(", ")"]

def operator? (text : List Char) : Option (String × List Char) :=
  (operators.find? fun op => op.toList.isPrefixOf text).map fun op =>
    (op, text.drop op.toList.length)

/-- Whether a digit stands right before a redirection. -/
def descriptor? : List Char → Option (Nat × List Char)
  | d :: c :: rest =>
    if Json.isDigit d && (c = '<' || c = '>') then some (Json.digitValue d, c :: rest) else none
  | _ => none

def next (s : Source) : Reading (Token × Source) := do
  let s := skipBlanks s.fuel s
  match s.text with
  | [] => return (.finish, s)
  | '\n' :: rest => return (.newline, { s with text := rest, line := s.line + 1 })
  | text =>
    match descriptor? text with
    | some (n, rest) => return (.descriptor n, { s with text := rest })
    | none =>
      match operator? text with
      | some (op, rest) => return (.operator op, { s with text := rest })
      | none =>
        let (w, s) ← readParts s.fuel .command s
        return (.word w, s)

/-- The text of a word that is one unquoted literal. -/
def plainText? : Word → Option String
  | [.literal text false] => some text
  | _ => none

def reservedWords : List String :=
  ["!", "case", "do", "done", "elif", "else", "esac", "fi", "for", "if", "in", "then", "until",
    "while", "\x7b", "\x7d"]

def Token.shown : Token → String
  | .word w =>
    let text := (plainText? w).getD ""
    if reservedWords.contains text then s!"\"{text}\" unexpected" else "word unexpected"
  | .operator text =>
    if text.toList.any fun c => c = '<' || c = '>' then "redirection unexpected"
    else s!"\"{text}\" unexpected"
  | .descriptor _ => "redirection unexpected"
  | .newline => "newline unexpected"
  | .finish => "end of file unexpected"

def unexpected {α : Type} (s : Source) (t : Token) : Reading α :=
  s.fail s!"Syntax error: {t.shown}"

/-- The mistake of a token that stands where another one is needed. -/
def expecting {α : Type} (s : Source) (t : Token) (wanted : String) : Reading α :=
  s.fail s!"Syntax error: {t.shown} (expecting \"{wanted}\")"

/-- The commands of a shell whose failure ends it, and whose names no function may have. -/
def specialCommands : List String :=
  [":", "exit", "exec", "trap", "shift", "break", "continue", "return", "set", "unset", "export",
    "readonly", "eval", ".", "times"]

def closingWords : List String := ["then", "else", "elif", "fi", "do", "done", "esac", "\x7d"]

def skipNewlines : (fuel : Nat) → Source → Reading Source
  | 0, s => return s
  | fuel + 1, s => do
    match ← next s with
    | (.newline, later) => skipNewlines fuel later
    | _ => return s

def assignment? : Word → Option (String × Word)
  | .literal text false :: rest =>
    match text.toList with
    | c :: cs =>
      if startsName c then
        let (name, later) := spanName (c :: cs)
        match later with
        | '=' :: value =>
          some (String.ofList name,
            if value.isEmpty then rest else .literal (String.ofList value) false :: rest)
        | _ => none
      else none
    | [] => none
  | _ => none

/-- The redirection that an operator begins, and the descriptor if none is named. -/
def redirect? : String → Option (RedirectKind × Nat)
  | "<" => some (.read, 0)
  | "<>" => some (.readWrite, 0)
  | ">" => some (.write false, 1)
  | ">|" => some (.write true, 1)
  | ">>" => some (.append, 1)
  | ">&" => some (.same, 1)
  | "<&" => some (.same, 0)
  | "<<" => some (.text, 0)
  | "<<-" => some (.text, 0)
  | _ => none

/-! ## Texts that stand in a script

The text that a command is given stands on the lines after it, up to a line that ends it. Once it
has been read, as many continued lines stand in its place, so that what follows keeps its line. -/

/-- What is left of a line, as far as it is continued, and what follows it. -/
def spanLine : List Char → List Char × List Char
  | [] => ([], [])
  | '\\' :: '\n' :: rest =>
    let (front, back) := spanLine rest
    ('\\' :: '\n' :: front, back)
  | c :: rest =>
    if c = '\n' then ([], rest)
    else
      let (front, back) := spanLine rest
      (c :: front, back)

/-- The lines up to the one that is `ending`, and those after it. -/
def spanDocument (tabs : Bool) (ending : List Char) :
    List (List Char) → List (List Char) × List (List Char)
  | [] => ([], [])
  | line :: rest =>
    let line := if tabs then line.dropWhile (· = '\t') else line
    if line = ending then ([], rest)
    else
      let (lines, later) := spanDocument tabs ending rest
      (line :: lines, later)

/-- The text of lines; the last one has no line feed if the script ends in it. -/
def documentText (lines : List (List Char)) (closed : Bool) : List Char :=
  if closed then lines.flatMap (· ++ ['\n']) else List.intercalate ['\n'] lines

/-- The characters of the word that ends a text, and whether any of it is quoted. -/
def endingOf (w : Word) : String × Bool :=
  (String.join (w.map fun
    | .literal text _ => text
    | .param name .plain _ _ => "$" ++ name
    | _ => ""),
    w.any fun
    | .literal _ quoted => quoted
    | _ => false)

/-- Takes the text of a redirection from the lines that follow. -/
def readDocument (s : Source) (tabs : Bool) (ending : Word) : Reading (Word × Source) := do
  let (text, quoted) := endingOf ending
  let (front, back) := spanLine s.text
  let all := back.splitOn '\n'
  let (lines, later) := spanDocument tabs text.toList all
  let closed := lines.length < all.length
  let body := documentText lines closed
  let passed := (List.replicate (all.length - later.length) ['\\', '\n']).flatten
  let rest := List.intercalate ['\n'] later
  let word ←
    if quoted then pure [.literal (String.ofList body) true]
    else do
      let inner : Source := { s with text := body, line := s.line + lineFeeds front + 1 }
      let (w, _) ← readParts inner.fuel .document inner
      pure w
  return (word, { s with text := front ++ passed ++ '\n' :: rest })

def readTarget (s : Source) (descriptor : Option Nat) (op : String) :
    Reading (Redirect × Source) := do
  match redirect? op with
  | none => unexpected s (.operator op)
  | some (kind, standard) =>
    match ← next s with
    | (.word w, later) =>
      if kind = .text then
        let (w, later) ← readDocument later (op = "<<-") w
        return (⟨descriptor.getD standard, kind, w⟩, later)
      else return (⟨descriptor.getD standard, kind, w⟩, later)
    | (t, later) => unexpected later t

def readRedirects : (fuel : Nat) → Source → Reading (List Redirect × Source)
  | 0, s => return ([], s)
  | fuel + 1, s => do
    match ← next s with
    | (.descriptor n, later) =>
      match ← next later with
      | (.operator op, after) =>
        let (r, after) ← readTarget after (some n) op
        let (rest, s) ← readRedirects fuel after
        return (r :: rest, s)
      | (t, _) => unexpected later t
    | (.operator op, later) =>
      if (redirect? op).isSome then
        let (r, after) ← readTarget later none op
        let (rest, s) ← readRedirects fuel after
        return (r :: rest, s)
      else return ([], s)
    | _ => return ([], s)

/-- Reads the words and redirections of a command. Assignments may come before the first word
only. -/
def readSimple : (fuel : Nat) → Simple → Source → Reading (Simple × Source)
  | 0, c, s => return (c, s)
  | fuel + 1, c, s => do
    match ← next s with
    | (.word w, later) =>
      match c.words, assignment? w with
      | [], some a => readSimple fuel { c with assignments := c.assignments ++ [a] } later
      | _, _ => readSimple fuel { c with words := c.words ++ [w] } later
    | (.descriptor n, later) =>
      match ← next later with
      | (.operator op, after) =>
        let (r, after) ← readTarget after (some n) op
        readSimple fuel { c with redirects := c.redirects ++ [r] } after
      | (t, _) => unexpected later t
    | (.operator op, later) =>
      if (redirect? op).isSome then
        let (r, after) ← readTarget later none op
        readSimple fuel { c with redirects := c.redirects ++ [r] } after
      else return (c, s)
    | _ => return (c, s)

/-- The word that comes next, if it is a plain one. -/
def peekWord (s : Source) : Reading (Option String) := do
  match ← next s with
  | (.word w, _) => return plainText? w
  | _ => return none

def expectWord (wanted : String) (s : Source) : Reading Source := do
  let (t, later) ← next s
  match t with
  | .word w => if plainText? w = some wanted then return later else expecting s t wanted
  | t => expecting s t wanted

def expectOperator (wanted : String) (s : Source) : Reading Source := do
  let (t, later) ← next s
  match t with
  | .operator op => if op = wanted then return later else expecting s t wanted
  | t => expecting s t wanted

/-- Passes over the parenthesis that closes the empty arguments of a function. -/
def closeArguments (s : Source) : Reading Source := do
  match ← next s with
  | (.word _, _) => s.fail "Syntax error: word unexpected (expecting \")\")"
  | _ => expectOperator ")" s

def optionalOperator (wanted : String) (s : Source) : Reading Source := do
  match ← next s with
  | (.operator op, later) => if op = wanted then return later else return s
  | _ => return s

/-- Reads words up to the end of a line or a semicolon. -/
def readWords : (fuel : Nat) → Source → Reading (List Word × Source)
  | 0, s => return ([], s)
  | fuel + 1, s => do
    match ← next s with
    | (.word w, later) =>
      let (rest, s) ← readWords fuel later
      return (w :: rest, s)
    | _ => return ([], s)

/-- Reads the patterns of an arm up to the closing parenthesis. -/
def readPatterns : (fuel : Nat) → Source → Reading (List Word × Source)
  | 0, s => unexpected s .finish
  | fuel + 1, s => do
    let (t, later) ← next s
    match t with
    | .word w =>
      match ← next later with
      | (.operator "|", after) =>
        let (rest, s) ← readPatterns fuel after
        return (w :: rest, s)
      | (.operator ")", after) => return ([w], after)
      | (t, _) => expecting later t ")"
    | _ =>
      -- what stands where a pattern should is only missed at what follows it
      match ← next later with
      | (.operator "|", after) => readPatterns fuel after
      | (.operator ")", after) => return ([[]], after)
      | (t, _) => expecting later t ")"

def pipelineOf : List Tree → Tree
  | [t] => t
  | parts => .pipeline parts

def sequenceOf : List Tree → Tree
  | [t] => t
  | ts => .sequence ts

/-- Puts what a word stands for in the place of the word, where a command may begin. A word is not
replaced again in its own text; a blank at the end of a text makes the next word one of these. -/
def unfold : (fuel : Nat) → (used : List String) → Source → Reading Source
  | 0, _, s => return s
  | fuel + 1, used, s => do
    if s.aliases.isEmpty then return s
    else
      match ← next s with
      | (.word w, later) =>
        let name := (plainText? w).getD ""
        match s.aliases.find? fun (n, _) => n == name && !used.contains n with
        | none => return s
        | some (_, text) =>
          let blank := (text.toList.getLast?.map fun c => c = ' ' || c = '\t').getD false
          let rest ← if blank then unfold fuel [] later else pure later
          unfold fuel (name :: used) { rest with text := text.toList ++ rest.text, line := s.line }
      | _ => return s

mutual

/-- Reads commands until a word or an operator that closes the list. Some lists must not be
empty. -/
def readList : (fuel : Nat) → (needed : Bool) → Source → Reading (List Tree × Source)
  | 0, _, s => unexpected s .finish
  | fuel + 1, needed, s => do
    let s ← skipNewlines fuel s
    match ← next s with
    | (.finish, _) => return ([], s)
    | (.operator op, _) =>
      if !needed && (op = ")" || op = ";;") then return ([], s) else readItems fuel s
    | (.word w, _) =>
      if !needed && closingWords.contains ((plainText? w).getD "") then return ([], s)
      else readItems fuel s
    | _ => readItems fuel s

def readItems : (fuel : Nat) → Source → Reading (List Tree × Source)
  | 0, s => unexpected s .finish
  | fuel + 1, s => do
    let (t, s) ← readAndOr fuel s
    match ← next s with
    | (.operator ";", later) =>
      let (rest, s) ← readList fuel false later
      return (t :: rest, s)
    | (.operator "&", later) =>
      let (rest, s) ← readList fuel false later
      return (.background t :: rest, s)
    | (.newline, later) =>
      let (rest, s) ← readList fuel false later
      return (t :: rest, s)
    | _ => return ([t], s)

/-- Reads pipelines with `&&` and `||` between them. -/
def readAndOr : (fuel : Nat) → Source → Reading (Tree × Source)
  | 0, s => unexpected s .finish
  | fuel + 1, s => do
    let (t, s) ← readPipeline fuel s
    readMoreAndOr fuel t s

def readMoreAndOr : (fuel : Nat) → Tree → Source → Reading (Tree × Source)
  | 0, _, s => unexpected s .finish
  | fuel + 1, t, s => do
    match ← next s with
    | (.operator "&&", later) =>
      let later ← skipNewlines fuel later
      let (u, s) ← readPipeline fuel later
      readMoreAndOr fuel (.both t u) s
    | (.operator "||", later) =>
      let later ← skipNewlines fuel later
      let (u, s) ← readPipeline fuel later
      readMoreAndOr fuel (.either t u) s
    | _ => return (t, s)

/-- Reads commands with `|` between them, after an optional exclamation mark. -/
def readPipeline : (fuel : Nat) → Source → Reading (Tree × Source)
  | 0, s => unexpected s .finish
  | fuel + 1, s => do
    if (← peekWord s) = some "!" then
      let (_, later) ← next s
      let (parts, s) ← readPiped fuel later
      return (.negated (pipelineOf parts), s)
    else
      let (parts, s) ← readPiped fuel s
      return (pipelineOf parts, s)

def readPiped : (fuel : Nat) → Source → Reading (List Tree × Source)
  | 0, s => unexpected s .finish
  | fuel + 1, s => do
    let (t, s) ← readCommand fuel s
    match ← next s with
    | (.operator "|", later) =>
      let later ← skipNewlines fuel later
      let (rest, s) ← readPiped fuel later
      return (t :: rest, s)
    | _ => return ([t], s)

/-- Reads one command, with the redirections after it. -/
def readCommand : (fuel : Nat) → Source → Reading (Tree × Source)
  | 0, s => unexpected s .finish
  | fuel + 1, s => do
    let start ← unfold fuel [] (skipBlanks s.fuel s)
    let (t, later) ← next start
    match t with
    | .operator "(" =>
      let (items, s) ← readList fuel true later
      let s ← expectOperator ")" s
      withRedirects start.line (.subshell start.line (sequenceOf items)) s
    | .word w =>
      match plainText? w with
      | some "\x7b" =>
        let (items, s) ← readList fuel true later
        let s ← expectWord "\x7d" s
        withRedirects start.line (sequenceOf items) s
      | some "if" =>
        let (t, s) ← readIf fuel later
        withRedirects start.line t s
      | some "while" =>
        let (t, s) ← readLoop fuel false later
        withRedirects start.line t s
      | some "until" =>
        let (t, s) ← readLoop fuel true later
        withRedirects start.line t s
      | some "for" =>
        let (t, s) ← readFor fuel later
        withRedirects start.line t s
      | some "case" =>
        let (t, s) ← readCase fuel later
        withRedirects start.line t s
      | name? =>
        if (assignment? w).isSome then readPlain start
        else
          match ← next later with
          | (.operator "(", after) =>
            if name?.any closingWords.contains then unexpected start t
            let after ← closeArguments after
            match name?.filter fun name => isName name && !specialCommands.contains name with
            | none => after.fail "Syntax error: Bad function name"
            | some name =>
              let after ← skipNewlines fuel after
              let (body, s) ← readCommand fuel after
              return (.define start.line name body, s)
          | _ =>
            if name?.any fun name => closingWords.contains name || name = "!" then
              unexpected start t
            else readPlain start
    | .descriptor _ => readPlain start
    | .operator op => if (redirect? op).isSome then readPlain start else unexpected start t
    | t => unexpected start t
where
  /-- Reads a command that is made of words. -/
  readPlain (start : Source) : Reading (Tree × Source) := do
    let (c, s) ← readSimple start.fuel ⟨start.line, [], [], []⟩ start
    return (.simple c, s)
  /-- Reads the redirections after a command. -/
  withRedirects (line : Nat) (t : Tree) (s : Source) : Reading (Tree × Source) := do
    let (redirects, s) ← readRedirects s.fuel s
    if redirects.isEmpty then return (t, s) else return (.redirected line redirects t, s)

def readIf : (fuel : Nat) → Source → Reading (Tree × Source)
  | 0, s => unexpected s .finish
  | fuel + 1, s => do
    let (condition, s) ← readList fuel true s
    let s ← expectWord "then" s
    let (yes, s) ← readList fuel true s
    match ← peekWord s with
    | some "elif" =>
      let (_, later) ← next s
      let (no, s) ← readIf fuel later
      return (.branch (sequenceOf condition) (sequenceOf yes) no, s)
    | some "else" =>
      let (_, later) ← next s
      let (no, s) ← readList fuel true later
      let s ← expectWord "fi" s
      return (.branch (sequenceOf condition) (sequenceOf yes) (sequenceOf no), s)
    | _ =>
      let s ← expectWord "fi" s
      return (.branch (sequenceOf condition) (sequenceOf yes) .nothing, s)

def readLoop : (fuel : Nat) → Bool → Source → Reading (Tree × Source)
  | 0, _, s => unexpected s .finish
  | fuel + 1, untilHolds, s => do
    let (condition, s) ← readList fuel true s
    let s ← expectWord "do" s
    let (body, s) ← readList fuel true s
    let s ← expectWord "done" s
    return (.loop untilHolds (sequenceOf condition) (sequenceOf body), s)

def readFor : (fuel : Nat) → Source → Reading (Tree × Source)
  | 0, s => unexpected s .finish
  | fuel + 1, s => do
    let (t, later) ← next s
    match t with
    | .word w =>
      match (plainText? w).filter isName with
      | none => later.fail "Syntax error: Bad for loop variable"
      | some name =>
        let later ← skipNewlines fuel later
        let (words, s) ←
          if (← peekWord later) = some "in" then do
            let (_, later) ← next later
            readWords later.fuel later
          else pure ([[.param "@" .plain [] true]], later)
        let s ← optionalOperator ";" s
        let s ← skipNewlines fuel s
        let s ← expectWord "do" s
        let (body, s) ← readList fuel true s
        let s ← expectWord "done" s
        return (.each s.line name words (sequenceOf body), s)
    | _ => later.fail "Syntax error: Bad for loop variable"

def readCase : (fuel : Nat) → Source → Reading (Tree × Source)
  | 0, s => unexpected s .finish
  | fuel + 1, s => do
    let (t, later) ← next s
    match t with
    | .word w =>
      let later ← skipNewlines fuel later
      let later ← expectWord "in" later
      let (arms, s) ← readArms fuel later
      return (.choose s.line w arms, s)
    | t => unexpected s t

def readArms : (fuel : Nat) → Source → Reading (List (List Word × Tree) × Source)
  | 0, s => unexpected s .finish
  | fuel + 1, s => do
    let s ← skipNewlines fuel s
    if (← peekWord s) = some "esac" then
      let (_, later) ← next s
      return ([], later)
    else
      let s ← optionalOperator "(" s
      let (patterns, s) ← readPatterns s.fuel s
      let (body, s) ← readList fuel false s
      match ← next s with
      | (.operator ";;", later) =>
        let (rest, s) ← readArms fuel later
        return ((patterns, sequenceOf body) :: rest, s)
      | (t, later) =>
        match t with
        | .word w =>
          if plainText? w = some "esac" then return ([(patterns, sequenceOf body)], later)
          else expecting s t ";;"
        | t => expecting s t ";;"

end

/-- Reads the commands up to the end of a line, and whether the script ends there too. -/
def readLineItems : (fuel : Nat) → Source → Reading (List Tree × Bool × Source)
  | 0, s => unexpected s .finish
  | fuel + 1, s => do
    let (t, s) ← readAndOr fuel s
    match ← next s with
    | (.operator ";", later) => readRest fuel t later
    | (.operator "&", later) => readRest fuel (.background t) later
    | (.newline, later) => return ([t], false, later)
    | (.finish, later) => return ([t], true, later)
    | (t, _) => unexpected s t
where
  /-- Reads the commands after one that is closed. -/
  readRest (fuel : Nat) (t : Tree) (s : Source) : Reading (List Tree × Bool × Source) := do
    match ← next s with
    | (.newline, later) => return ([t], false, later)
    | (.finish, later) => return ([t], true, later)
    | _ =>
      let (rest, ended, s) ← readLineItems fuel s
      return (t :: rest, ended, s)

/-- A line of commands that has been read. -/
structure Line where
  tree : Tree
  /-- Whether the script ends with the line, without a line feed after it. -/
  last : Bool
  later : Source
deriving Repr, Inhabited

/-- How deep commands may stand in words of commands that stand in words. -/
def deepest : Nat := 100

/-- Ways to pass over the commands that stand in words, up to a depth. -/
def nested : (depth : Nat) → Nested
  | 0 =>
    let tooDeep {α : Type} (s : Source) : Except ReadError α :=
      .error ⟨s.line, "Syntax error: commands nested too deep"⟩
    ⟨tooDeep, tooDeep⟩
  | depth + 1 =>
    { closed := fun s =>
        ReaderT.run (do
          let (_, s) ← readList (16 * s.text.length + 64) false s
          expectOperator ")" s) (nested depth)
      whole := fun s =>
        ReaderT.run (do
          let (_, s) ← readList (16 * s.text.length + 64) false s
          match ← next s with
          | (.finish, _) => return ()
          | (t, _) => unexpected s t) (nested depth) }

/-- Does reading at the top of a script. -/
def Reading.atTop {α : Type} (r : Reading α) : Except ReadError α := ReaderT.run r (nested deepest)

/-- Reads the next line of commands, if there is one. -/
def readLine (s : Source) : Except ReadError (Option Line) :=
  Reading.atTop do
    let fuel := 16 * s.text.length + 64
    let s ← skipNewlines fuel s
    match ← next s with
    | (.finish, _) => return none
    | _ =>
      let (items, last, later) ← readLineItems fuel s
      return some ⟨sequenceOf items, last, later⟩

/-- Reads all commands of a text. -/
def readAll (s : Source) : Except ReadError Tree :=
  Reading.atTop do
    let (items, s) ← readList (16 * s.text.length + 64) false s
    match ← next s with
    | (.finish, _) => return sequenceOf items
    | (t, _) => unexpected s t

/-- Reads a text in which only dollar signs and backquotes have a meaning, as between quotation
marks. -/
def readText (text : String) : Except ReadError Word :=
  Reading.atTop do
    let s : Source := ⟨text.toList, 1, []⟩
    let (w, _) ← readParts s.fuel .document s
    return w

end SyscallProfiler.Shell
