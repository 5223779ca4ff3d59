import SyscallProfiler.Shell.Arithmetic

/-!
# What `test` decides

Conditions over texts, numbers and files. Questions about files are answered by whoever knows
them. A condition is read from the left; what looks like an operator is an operand where nothing
else makes sense.
-/

namespace SyscallProfiler.Shell.Condition

/-- What may be asked about a file. -/
inductive FileQuestion where
  | isThere
  | isPlain
  | isDirectory
  | isLink
  | isDevice
  | mayExecute
  | hasContent
  /-- What no file here is. -/
  | never
deriving DecidableEq, Repr

def question? : String → Option FileQuestion
  | "-e" | "-r" | "-w" | "-O" | "-G" => some .isThere
  | "-f" => some .isPlain
  | "-d" => some .isDirectory
  | "-h" | "-L" => some .isLink
  | "-c" => some .isDevice
  | "-x" => some .mayExecute
  | "-s" => some .hasContent
  | "-b" | "-p" | "-S" | "-u" | "-g" | "-k" => some .never
  | _ => none

def comparison? : String → Option (Int → Int → Bool)
  | "-eq" => some fun a b => a == b
  | "-ne" => some fun a b => a != b
  | "-gt" => some fun a b => a > b
  | "-ge" => some fun a b => a ≥ b
  | "-lt" => some fun a b => a < b
  | "-le" => some fun a b => a ≤ b
  | _ => none

/-- Who answers questions about files. -/
structure Answers where
  /-- The answer to a question about one file. -/
  about : FileQuestion → String → Bool
  /-- Whether two paths lead to the same file. -/
  same : String → String → Bool

/-- Whether a word is an operator before its operand. -/
def isUnary (s : String) : Bool := s = "-n" || s = "-z" || s = "-t" || (question? s).isSome

/-- Whether a word is an operator between operands. -/
def isBinary (s : String) : Bool :=
  ["=", "!=", "<", ">", "-nt", "-ot", "-ef"].contains s || (comparison? s).isSome

/-- What a word is where it stands. -/
inductive Token where
  | finish
  | operand
  | operator (s : String)
deriving DecidableEq, Repr

/-- Whether what follows an operator leaves it no operand. -/
def lacksOperand : List String → Bool
  | [] => true
  | [_] => false
  | s :: _ => isBinary s

def lex : List String → Token
  | [] => .finish
  | s :: rest =>
    if isUnary s then if lacksOperand rest then .operand else .operator s
    else if s = "(" then if rest.isEmpty then .operand else .operator s
    else if isBinary s || ["!", "-a", "-o", ")"].contains s then .operator s
    else .operand

/-- A number in a condition. Blanks may stand around it. -/
def number (s : String) : Except String Int :=
  let blank (c : Char) : Bool := c = ' ' || ('\t' ≤ c && c ≤ '\r')
  let text := ((s.toList.dropWhile blank).reverse.dropWhile blank).reverse
  match Arithmetic.integer? text with
  | some n =>
    if Json.isSigned n then .ok n else .error s!"Illegal number: {s}"
  | none => .error s!"Illegal number: {s}"

def binary (files : Answers) (left op right : String) : Except String Bool :=
  if op = "=" then .ok (left == right)
  else if op = "!=" then .ok (left != right)
  else if op = "<" then .ok (left < right)
  else if op = ">" then .ok (right < left)
  else if op = "-ef" then .ok (files.same left right)
  else
    match comparison? op with
    | none => .ok false
    | some compare => do
      let a ← number left
      let b ← number right
      return compare a b

def unary (files : Answers) (op operand : String) : Except String Bool :=
  if op = "-n" then .ok (operand != "")
  else if op = "-z" then .ok (operand == "")
  else if op = "-t" then (number operand).map fun _ => false
  else
    match question? op with
    | some question => .ok (files.about question operand)
    | none => .ok false

/-- Where reading a condition has come to: its value so far, and the words from the last one that
was read on. -/
abbrev Reading := Except String (Bool × List String)

mutual

/-- Reads conditions with `-o` between them. -/
def anyOf (files : Answers) : (fuel : Nat) → Token → List String → Reading
  | 0, _, _ => .error "too many arguments"
  | fuel + 1, token, words => do
    let (here, words) ← allOf files fuel token words
    match lex words.tail with
    | .operator "-o" =>
      let (later, words) ← anyOf files fuel (lex (words.drop 2)) (words.drop 2)
      return (here || later, words)
    | _ => return (here, words)

/-- Reads conditions with `-a` between them. -/
def allOf (files : Answers) : (fuel : Nat) → Token → List String → Reading
  | 0, _, _ => .error "too many arguments"
  | fuel + 1, token, words => do
    let (here, words) ← notOf files fuel token words
    match lex words.tail with
    | .operator "-a" =>
      let (later, words) ← allOf files fuel (lex (words.drop 2)) (words.drop 2)
      return (here && later, words)
    | _ => return (here, words)

/-- Reads a condition that may have exclamation marks before it. -/
def notOf (files : Answers) : (fuel : Nat) → Token → List String → Reading
  | 0, _, _ => .error "too many arguments"
  | fuel + 1, token, words =>
    match token with
    | .operator "!" => do
      let next := lex words.tail
      let (value, words) ← notOf files fuel next (if next = .finish then words else words.tail)
      return (!value, words)
    | token => primary files fuel token words

/-- Reads a condition without joints. -/
def primary (files : Answers) : (fuel : Nat) → Token → List String → Reading
  | 0, _, _ => .error "too many arguments"
  | fuel + 1, token, words =>
    match token with
    | .finish => .ok (false, words)
    | .operator "(" =>
      match lex words.tail with
      | .operator ")" => .ok (false, words.tail)
      | next => do
        let (value, words) ← anyOf files fuel next words.tail
        if lex words.tail = .operator ")" then return (value, words.tail)
        else .error "closing paren expected"
    | token =>
      let op :=
        match token with
        | .operator s => if isUnary s then some s else none
        | _ => none
      match op with
      | some op =>
        match words.tail with
        | [] => .error s!"{op}: argument expected"
        | operand :: rest => do return (← unary files op operand, operand :: rest)
      | none =>
        match words with
        | [] => .ok (false, [])
        | left :: rest =>
          match lex rest, rest with
          | .operator s, _ :: later =>
            if isBinary s then
              match later with
              | [] => .error s!"{s}: argument expected"
              | right :: after => do return (← binary files left s right, right :: after)
            else .ok (left != "", words)
          | _, _ => .ok (left != "", words)

end

/-- Decides a condition; `negated` says that exclamation marks have been passed over. -/
def decideFrom (files : Answers) : (fuel : Nat) → (negated : Bool) → List String →
    Except String Bool
  | 0, _, _ => .error "too many arguments"
  | fuel + 1, negated, args =>
    let evaluate (token : Token) (words : List String) : Except String Bool := do
      let (value, rest) ← anyOf files (4 * words.length + 8) token words
      match rest with
      | word :: _ :: _ => .error s!"{word}: unexpected operator"
      | _ => return value != negated
    let plain (words : List String) : Except String Bool := evaluate (lex words) words
    let marked : Except String Bool :=
      if args.head? = some "(" && args.getLast? = some ")" then plain args.tail.dropLast
      else if args.head? = some "!" then decideFrom files fuel true args.tail
      else plain args
    match args with
    | [] => .ok negated
    | [_, op, _] => if isBinary op then evaluate .operand args else marked
    | [_, _, _, _] => marked
    | args => plain args

/-- Decides the condition that is the arguments of `test`. -/
def holds (files : Answers) (args : List String) : Except String Bool :=
  if args.isEmpty then .ok false else decideFrom files (args.length + 1) false args

end SyscallProfiler.Shell.Condition
