import SyscallProfiler.Shell.Reader
import SyscallProfiler.Shell.Variables

/-!
# Arithmetic in shell scripts

Expressions over words of 64 bits, with the operators of C and its assignments. An expression is
read to a tree first, and the tree is evaluated then; what is not needed for the value is read but
not evaluated.
-/

namespace SyscallProfiler.Shell.Arithmetic

/-- Why an expression has no value. -/
inductive Fault where
  | noOperand
  | noEnd
  | noColon
  | noParenthesis
  | zeroDivisor
  /-- A variable that holds something else than a number. -/
  | notANumber (content : String)
  /-- A variable whose value may not be changed. -/
  | readOnly (name : String)
deriving DecidableEq, Repr, Inhabited

/-- What the shell says about a fault in the expression `text`. -/
def Fault.message (text : String) (f : Fault) : String :=
  let about (what : String) : String := s!"arithmetic expression: {what}: \"{text}\""
  match f with
  | .noOperand => about "expecting primary"
  | .noEnd => about "expecting EOF"
  | .noColon => about "expecting ':'"
  | .noParenthesis => about "expecting ')'"
  | .zeroDivisor => about "division by zero"
  | .notANumber content => s!"Illegal number: {content}"
  | .readOnly name => Variables.readOnlyMessage name

/-! ## Numbers -/

/-- The digits of a base at the beginning of a text, read as a number, and what follows them. -/
def digitsIn (base value : Nat) : List Char → Nat × List Char
  | [] => (value, [])
  | c :: rest =>
    match Json.hexValue? c with
    | some d => if d < base then digitsIn base (value * base + d) rest else (value, c :: rest)
    | none => (value, c :: rest)

/-- The number at the beginning of a text that begins with a digit, and what follows it. Numbers
are hexadecimal after `0x` and octal after another zero. -/
def numeral (text : List Char) : Nat × List Char :=
  match text with
  | '0' :: x :: d :: rest =>
    if (x = 'x' || x = 'X') && (Json.hexValue? d).isSome then digitsIn 16 0 (d :: rest)
    else digitsIn 8 0 text
  | '0' :: _ => digitsIn 8 0 text
  | _ => digitsIn 10 0 text

def largest : Nat := Json.signedBound - 1

/-- The number that the content of a variable is. Blanks may stand around it, and nothing counts
as zero. -/
def contentOf? (content : String) : Option Int64 :=
  let blank (c : Char) : Bool := c = ' ' || c = '\t' || c = '\n'
  let text := content.toList.dropWhile blank
  let (negative, digits) :=
    match text with
    | '-' :: rest => (true, rest)
    | '+' :: rest => (false, rest)
    | other => (false, other)
  match digits with
  | [] => if text.isEmpty then some 0 else none
  | c :: _ =>
    if !Json.isDigit c then none
    else
      let (n, rest) := numeral digits
      if !(rest.all blank) || n > largest + (if negative then 1 else 0) then none
      else some (Int64.ofInt (if negative then -(n : Int) else n))

def integer? (text : List Char) : Option Int :=
  let (negative, digits) :=
    match text with
    | '-' :: rest => (true, rest)
    | '+' :: rest => (false, rest)
    | other => (false, other)
  if digits.isEmpty || !digits.all Json.isDigit then none
  else
    let n : Int := Json.ofDigits digits
    some (if negative then -n else n)

/-! ## Operators -/

/-- An operator with two sides, both of which are evaluated. -/
inductive Operator where
  | add | sub | mul | div | rem
  | shiftLeft | shiftRight
  | less | lessEq | greater | greaterEq | equal | differs
  | bitAnd | bitXor | bitOr
deriving DecidableEq, Repr, Inhabited

namespace Operator

def ofBool (b : Bool) : Int64 := if b then 1 else 0

/-- Applies an operator; a divisor must not be zero. -/
def apply (op : Operator) (a b : Int64) : Except Fault Int64 :=
  match op with
  | .add => .ok (a + b)
  | .sub => .ok (a - b)
  | .mul => .ok (a * b)
  | .div => if b = 0 then .error .zeroDivisor else .ok (a / b)
  | .rem => if b = 0 then .error .zeroDivisor else .ok (a % b)
  | .shiftLeft => .ok (a <<< b)
  | .shiftRight => .ok (a >>> b)
  | .less => .ok (ofBool (a < b))
  | .lessEq => .ok (ofBool (a ≤ b))
  | .greater => .ok (ofBool (b < a))
  | .greaterEq => .ok (ofBool (b ≤ a))
  | .equal => .ok (ofBool (a == b))
  | .differs => .ok (ofBool (a != b))
  | .bitAnd => .ok (a &&& b)
  | .bitXor => .ok (a ^^^ b)
  | .bitOr => .ok (a ||| b)

end Operator

/-- What joins two sides. -/
inductive Joint where
  | operator (op : Operator)
  /-- The right side counts only if the left one is not zero. -/
  | both
  /-- The right side counts only if the left one is zero. -/
  | either
deriving DecidableEq, Repr, Inhabited

/-- The joint of a mark, and how tightly it binds. -/
def joint? : String → Option (Nat × Joint)
  | "||" => some (1, .either)
  | "&&" => some (2, .both)
  | "|" => some (3, .operator .bitOr)
  | "^" => some (4, .operator .bitXor)
  | "&" => some (5, .operator .bitAnd)
  | "==" => some (6, .operator .equal)
  | "!=" => some (6, .operator .differs)
  | "<" => some (7, .operator .less)
  | "<=" => some (7, .operator .lessEq)
  | ">" => some (7, .operator .greater)
  | ">=" => some (7, .operator .greaterEq)
  | "<<" => some (8, .operator .shiftLeft)
  | ">>" => some (8, .operator .shiftRight)
  | "+" => some (9, .operator .add)
  | "-" => some (9, .operator .sub)
  | "*" => some (10, .operator .mul)
  | "/" => some (10, .operator .div)
  | "%" => some (10, .operator .rem)
  | _ => none

/-- The operator that an assignment applies first; none for a mark that does not assign. -/
def assignment? : String → Option (Option Operator)
  | "=" => some none
  | "+=" => some (some .add)
  | "-=" => some (some .sub)
  | "*=" => some (some .mul)
  | "/=" => some (some .div)
  | "%=" => some (some .rem)
  | "<<=" => some (some .shiftLeft)
  | ">>=" => some (some .shiftRight)
  | "&=" => some (some .bitAnd)
  | "^=" => some (some .bitXor)
  | "|=" => some (some .bitOr)
  | _ => none

/-! ## Tokens -/

/-- A token of an expression. -/
inductive Token where
  | number (n : Int64)
  | name (s : String)
  | mark (s : String)
  /-- A character that no expression holds. -/
  | stray (c : Char)
deriving DecidableEq, Repr, Inhabited

/-- The marks, longer ones first. -/
def marks : List String :=
  ["<<=", ">>=", "<<", ">>", "<=", ">=", "==", "!=", "&&", "||", "+=", "-=", "*=", "/=", "%=",
    "&=", "^=", "|=", "+", "-", "*", "/", "%", "<", ">", "!", "~", "&", "|", "^", "(", ")", "?",
    ":", "="]

/-- The tokens of an expression. A number that is too large counts as the largest one. -/
def tokens : (fuel : Nat) → List Char → List Token
  | 0, _ => []
  | fuel + 1, text =>
    match text with
    | [] => []
    | c :: rest =>
      if c = ' ' || c = '\t' || c = '\n' then tokens fuel rest
      else if Json.isDigit c then
        let (n, later) := numeral text
        .number (Int64.ofNat (min n largest)) :: tokens fuel later
      else if startsName c then
        let (name, later) := spanName text
        .name (String.ofList name) :: tokens fuel later
      else
        match marks.find? fun m => m.toList.isPrefixOf text with
        | some m => .mark m :: tokens fuel (text.drop m.toList.length)
        | none => .stray c :: tokens fuel rest

/-! ## Trees -/

/-- An expression. -/
inductive Expression where
  | number (n : Int64)
  | name (s : String)
  | minus (e : Expression)
  /-- Every bit turned. -/
  | inverted (e : Expression)
  /-- One for zero and zero for all else. -/
  | denied (e : Expression)
  | joined (how : Joint) (left right : Expression)
  | choice (condition yes no : Expression)
  | assigned (name : String) (op : Option Operator) (value : Expression)
deriving Repr, Inhabited

/-- What reading gives: a tree and the tokens after it. -/
abbrev Reading := Except Fault (Expression × List Token)

def Reading.map (f : Expression → Expression) : Reading → Reading
  | .ok (e, rest) => .ok (f e, rest)
  | .error fault => .error fault

mutual

def operand : (fuel : Nat) → List Token → Reading
  | 0, _ => .error .noOperand
  | fuel + 1, tokens =>
    match tokens with
    | .number n :: rest => .ok (.number n, rest)
    | .name s :: rest => .ok (.name s, rest)
    | .mark "-" :: rest => Reading.map .minus (operand fuel rest)
    | .mark "+" :: rest => operand fuel rest
    | .mark "!" :: rest => Reading.map .denied (operand fuel rest)
    | .mark "~" :: rest => Reading.map .inverted (operand fuel rest)
    | .mark "(" :: rest =>
      match expression fuel rest with
      | .ok (e, .mark ")" :: later) => .ok (e, later)
      | .ok _ => .error .noParenthesis
      | .error fault => .error fault
    | _ => .error .noOperand

/-- Reads operands and the joints between them that bind more tightly than `level`. -/
def chain : (fuel level : Nat) → List Token → Reading
  | 0, _, _ => .error .noOperand
  | fuel + 1, level, tokens =>
    match operand fuel tokens with
    | .error fault => .error fault
    | .ok (e, rest) => chainAfter fuel level e rest

/-- Goes on with the joints after a left side. -/
def chainAfter : (fuel level : Nat) → Expression → List Token → Reading
  | 0, _, _, _ => .error .noOperand
  | fuel + 1, level, left, tokens =>
    match tokens with
    | .mark m :: rest =>
      match joint? m with
      | none => .ok (left, tokens)
      | some (binds, how) =>
        if binds ≤ level then .ok (left, tokens)
        else
          match chain fuel binds rest with
          | .error fault => .error fault
          | .ok (right, later) => chainAfter fuel level (.joined how left right) later
    | _ => .ok (left, tokens)

/-- Reads a choice between two expressions, or what stands where its condition would. -/
def choice : (fuel : Nat) → List Token → Reading
  | 0, _ => .error .noOperand
  | fuel + 1, tokens =>
    match chain fuel 0 tokens with
    | .ok (condition, .mark "?" :: rest) =>
      match expression fuel rest with
      | .ok (yes, .mark ":" :: later) => Reading.map (.choice condition yes) (choice fuel later)
      | .ok _ => .error .noColon
      | .error fault => .error fault
    | reading => reading

def expression : (fuel : Nat) → List Token → Reading
  | 0, _ => .error .noOperand
  | fuel + 1, tokens =>
    match tokens with
    | .name s :: .mark m :: rest =>
      match assignment? m with
      | some op => Reading.map (.assigned s op) (expression fuel rest)
      | none => choice fuel tokens
    | _ => choice fuel tokens

end

def Expression.ofText (text : List Char) : Except Fault Expression :=
  let all := tokens (text.length + 1) text
  match expression (5 * all.length + 5) all with
  | .ok (e, []) => .ok e
  | .ok (_, _ :: _) => .error .noEnd
  | .error fault => .error fault

/-! ## Values -/

/-- The number in a variable; one that is not set holds zero. -/
def lookUp (v : Variables) (name : String) : Except Fault Int64 :=
  let content := (v.value? name).getD ""
  match contentOf? content with
  | some n => .ok n
  | none => .error (.notANumber content)

/-- The value of an expression, and the variables after its assignments. -/
def Expression.value (v : Variables) : Expression → Except Fault (Int64 × Variables)
  | .number n => .ok (n, v)
  | .name s => do return (← lookUp v s, v)
  | .minus e => do
    let (n, v) ← e.value v
    return (-n, v)
  | .inverted e => do
    let (n, v) ← e.value v
    return (~~~n, v)
  | .denied e => do
    let (n, v) ← e.value v
    return (Operator.ofBool (n == 0), v)
  | .joined (.operator op) left right => do
    let (a, v) ← left.value v
    let (b, v) ← right.value v
    return (← op.apply a b, v)
  | .joined .both left right => do
    let (a, v) ← left.value v
    if a = 0 then return (0, v)
    let (b, v) ← right.value v
    return (Operator.ofBool (b != 0), v)
  | .joined .either left right => do
    let (a, v) ← left.value v
    if a ≠ 0 then return (1, v)
    let (b, v) ← right.value v
    return (Operator.ofBool (b != 0), v)
  | .choice condition yes no => do
    let (a, v) ← condition.value v
    if a ≠ 0 then yes.value v else no.value v
  | .assigned target op e => do
    let (n, v) ← e.value v
    let result ←
      match op with
      | none => pure n
      | some op => do op.apply (← lookUp v target) n
    if v.isReadOnly target then throw (.readOnly target)
    return (result, v.set target (toString result.toInt))

def evaluate (v : Variables) (text : List Char) : Except Fault (Int64 × Variables) := do
  (← Expression.ofText text).value v

end SyscallProfiler.Shell.Arithmetic
