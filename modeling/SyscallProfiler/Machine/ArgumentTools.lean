import SyscallProfiler.Machine.Inspect
import SyscallProfiler.Machine.Waiting
import SyscallProfiler.Machine.Watching

/-!
# Tools that work on their arguments

Tools that look at nothing but their arguments and the machine, and do all they do at once.
-/

namespace SyscallProfiler.Machine

/-! ## Numbers in a row -/

/-- A decimal number: what it is in units of its last place, and how many places it has. -/
def decimal? (text : String) : Option (Int × Nat) :=
  let cs := text.toList
  let negative := cs.head? = some '-'
  let digits := if negative || cs.head? = some '+' then cs.tail else cs
  let whole := digits.takeWhile Json.isDigit
  let rest := digits.drop whole.length
  let fraction := if rest.head? = some '.' then rest.tail else []
  if (whole.isEmpty && fraction.isEmpty) || !fraction.all Json.isDigit ||
      (rest != [] && rest.head? != some '.') then none
  else
    let n : Int := Json.ofDigits (whole ++ fraction)
    some (if negative then -n else n, fraction.length)

/-- A decimal number as text, with zeros before it up to a width. -/
def decimalText (places width : Nat) (n : Int) : String :=
  let digits := Nat.toDigits 10 n.natAbs
  let digits := List.replicate (places + 1 - digits.length) '0' ++ digits
  let shown :=
    if places = 0 then digits
    else digits.take (digits.length - places) ++ '.' :: digits.drop (digits.length - places)
  let sign := if n < 0 then ['-'] else []
  String.ofList (sign ++ List.replicate (width - shown.length - sign.length) '0' ++ shown)

/-- The numbers from one to another by a step. -/
def stepsFrom (step last : Int) : (fuel : Nat) → Int → List Int
  | 0, _ => []
  | fuel + 1, n =>
    if (step > 0 && n > last) || (step < 0 && n < last) then []
    else n :: stepsFrom step last fuel (n + step)

def runSequence (m : Machine) (p : Process) (called : String) (args : List String) : Machine :=
  -- a negative number is no option
  let isNumber (a : String) : Bool := (decimal? a).isSome
  let before := args.takeWhile fun a => !isNumber a
  let args := before ++ (if before.contains "--" then [] else ["--"]) ++ args.drop before.length
  m.asked p.pid called ⟨"w", "sf", [("equal-width", 'w'), ("separator", 's')], true⟩ 1 args fun d =>
    match d.operands with
    | [] => m.misused p.pid called "missing operand" 1
    | _ :: _ :: _ :: extra :: _ => m.misused p.pid called s!"extra operand {shown extra}" 1
    | operands =>
      match operands.find? fun a => !isNumber a with
      | some bad => m.misused p.pid called s!"invalid floating point argument: {shown bad}" 1
      | none =>
        let known := operands.filterMap decimal?
        let (first, step, last) : (Int × Nat) × (Int × Nat) × (Int × Nat) :=
          match known with
          | [last] => ((1, 0), (1, 0), last)
          | [first, last] => (first, (1, 0), last)
          | first :: step :: last :: _ => (first, step, last)
          | [] => ((1, 0), (1, 0), (0, 0))
        let places := max first.2 step.2
        let all := max places last.2
        let scaled (x : Int × Nat) : Int := x.1 * Int.ofNat (Nat.pow 10 (all - x.2))
        if step.1 = 0 then
          let given := (operands[1]?).getD "0"
          m.misused p.pid called s!"invalid Zero increment value: {shown given}" 1
        else
          let count := ((scaled last - scaled first) / scaled step).toNat + 1
          let numbers := (stepsFrom (scaled step) (scaled last) count (scaled first)).map
            (· / Int.ofNat (Nat.pow 10 (all - places)))
          let texts := numbers.map (decimalText places 0)
          let width := if d.has 'w' then (texts.map String.length).foldl max 0 else 0
          let texts := numbers.map (decimalText places width)
          m.answer p.pid
            (if texts.isEmpty then "" else ((d.value? 's').getD "\n").intercalate texts ++ "\n")

/-! ## Parts of paths -/

def withoutLastPart (path : String) : String :=
  let cs := path.toList.reverse.dropWhile (· = '/')
  let kept := ((cs.dropWhile (· != '/')).dropWhile (· = '/')).reverse
  if kept.isEmpty then if Path.isAbsolute path then "/" else "." else String.ofList kept

def withoutEnding (ending name : String) : String :=
  if name != ending && name.endsWith ending then (name.dropEnd ending.length).toString else name

def runLastParts (m : Machine) (p : Process) (called : String) (args : List String) : Machine :=
  m.asked p.pid called
    ⟨"az", "s", [("multiple", 'a'), ("suffix", 's'), ("zero", 'z')], true⟩ 1 args fun d =>
    let several := d.hasAny "as"
    let named (ending path : String) : String :=
      withoutEnding ending (if path = "" then "" else lastPart path) ++ "\n"
    match d.operands with
    | [] => m.misused p.pid called "missing operand" 1
    | paths =>
      if several then m.answer p.pid (String.join (paths.map (named ((d.value? 's').getD ""))))
      else
        match paths with
        | _ :: _ :: extra :: _ => m.misused p.pid called s!"extra operand {shown extra}" 1
        | [path, ending] => m.answer p.pid (named ending path)
        | path :: _ => m.answer p.pid (named "" path)
        | [] => m.answer p.pid ""

def runFrontParts (m : Machine) (p : Process) (called : String) (args : List String) : Machine :=
  m.asked p.pid called ⟨"z", "", [("zero", 'z')], false⟩ 1 args fun d =>
    if d.operands.isEmpty then m.misused p.pid called "missing operand" 1
    else m.answer p.pid (String.join (d.operands.map fun path => withoutLastPart path ++ "\n"))

/-! ## Words and conditions -/

def runEcho (m : Machine) (p : Process) (args : List String) : Machine :=
  let isOption (a : String) : Bool :=
    match a.toList with
    | '-' :: c :: more => (c :: more).all fun c => c = 'n' || c = 'e' || c = 'E'
    | _ => false
  let options := args.takeWhile isOption
  let letters := options.flatMap fun a => a.toList.tail
  let words := args.drop options.length
  let silent := letters.contains 'n'
  if (letters.reverse.find? fun c => c = 'e' || c = 'E') = some 'e' then
    let ended := if silent then words else words ++ [""]
    let content := Shell.Printing.echo ("-n" :: words)
    let stops := Shell.Printing.echo words == content
    m.conclude p.pid (if ended.length = words.length || stops then content else content ++ [10]) ""
      0
  else m.answer p.pid (" ".intercalate words ++ if silent then "" else "\n")

def runFormat (m : Machine) (p : Process) (called : String) (args : List String) : Machine :=
  match args with
  | [] => m.misused p.pid called "missing operand" 1
  | format :: rest =>
    let r := Shell.Printing.printf format rest
    let lines := r.complaints ++ r.fault.toList
    let excess :=
      match if r.stopped then none else r.args.head? with
      | some a => [s!"warning: ignoring excess arguments, starting with {shown a}"]
      | none => []
    m.conclude p.pid r.output (String.join ((excess ++ lines).map fun l => s!"{called}: {l}\n"))
      (if lines.isEmpty then 0 else 1)

def runCondition (m : Machine) (p : Process) (name called : String) (args : List String) :
    Machine :=
  match m.decideTest p.directory name args with
  | .ok holds => m.finish p.pid (.exited (if holds then 0 else 1))
  | .error text =>
    m.complain p.pid (s!"{called}: " ++ if text = "missing ]" then "missing \x27]\x27" else text) 2

/-! ## Expressions -/

/-- The value of an expression that is to be a number. -/
def numeral? (text : String) : Option Int :=
  let (isNegative, digits) :=
    match text.toList with
    | '-' :: digits => (true, digits)
    | digits => (false, digits)
  if digits.isEmpty || !digits.all Json.isDigit then none
  else some (if isNegative then -Json.ofDigits digits else Json.ofDigits digits)

def isNull (text : String) : Bool := text = "" || numeral? text == some 0

/-- What matches an expression at the beginning of a text: its first group, or how long it is. -/
def matchStart (text pattern : String) : Except (String × Nat) String := do
  let r ← (Regex.read ⟨false, false⟩ ('^' :: pattern.toList)).mapError fun e => (e, 2)
  let cs := text.toList.toArray
  let grouped := (pattern.splitOn "\\(").length > 1
  match r.find? cs 0 with
  | none => return if grouped then "" else "0"
  | some (i, j) =>
    if grouped then
      match r.groupsOf cs i j with
      | groups =>
        match groups.find? fun g => g.1 == 1 with
        | some (_, a, b) => return String.ofList ((text.toList.drop a).take (b - a))
        | none => return ""
    else return toString (j - i)

/-- The operators of expressions, those that bind least first. -/
def expressionLevels : List (List String) :=
  [["|"], ["&"], ["<", "<=", "=", "==", "!=", ">=", ">"], ["+", "-"], ["*", "/", "%"], [":"]]

def operate (op a b : String) : Except (String × Nat) String :=
  let truth (holds : Bool) : String := if holds then "1" else "0"
  let compared (byNumber : Int → Int → Bool) (byText : String → String → Bool) : String :=
    match numeral? a, numeral? b with
    | some x, some y => truth (byNumber x y)
    | _, _ => truth (byText a b)
  let number (f : Int → Int → Except (String × Nat) Int) : Except (String × Nat) String :=
    match numeral? a, numeral? b with
    | some x, some y => (f x y).map toString
    | _, _ => .error ("non-integer argument", 2)
  match op with
  | "|" => .ok (if !isNull a then a else if !isNull b then b else "0")
  | "&" => .ok (if isNull a || isNull b then "0" else a)
  | "<" => .ok (compared (fun x y => decide (x < y)) fun x y => decide (x < y))
  | "<=" => .ok (compared (fun x y => decide (x ≤ y)) fun x y => decide (x ≤ y))
  | ">" => .ok (compared (fun x y => decide (x > y)) fun x y => decide (y < x))
  | ">=" => .ok (compared (fun x y => decide (x ≥ y)) fun x y => decide (y ≤ x))
  | "!=" => .ok (compared (fun x y => x != y) fun x y => x != y)
  | "+" => number fun x y => .ok (x + y)
  | "-" => number fun x y => .ok (x - y)
  | "*" => number fun x y => .ok (x * y)
  | "/" => number fun x y => if y = 0 then .error ("division by zero", 2) else .ok (x.tdiv y)
  | "%" => number fun x y => if y = 0 then .error ("division by zero", 2) else .ok (x.tmod y)
  | ":" => matchStart a b
  | _ => .ok (compared (fun x y => x == y) fun x y => x == y)

/-- The place of a character of a set in a text, counted from one; zero if there is none. -/
def placeOfAny (text set : String) : Nat :=
  ((text.toList.findIdx? fun c => set.toList.contains c).map (· + 1)).getD 0

/-- Reads an expression: its value, and the words after it. `before` is the word before, for
complaints. -/
def readExpression : (fuel : Nat) → (before : String) → (levels : List (List String)) →
    List String → Except (String × Nat) (String × List String)
  | 0, _, _, _ => .error ("syntax error", 2)
  | fuel + 1, before, [], words =>
    match words with
    | [] =>
      .error (if before = "" then "missing operand"
        else s!"syntax error: missing argument after {shown before}", 2)
    | "(" :: rest => do
      let (value, rest) ← readExpression fuel "(" expressionLevels rest
      match rest with
      | ")" :: rest => return (value, rest)
      | [] => throw ("syntax error: expecting \x27)\x27 after " ++ shown value, 2)
      | other :: _ => throw ("syntax error: expecting \x27)\x27 instead of " ++ shown other, 2)
    | ")" :: _ => .error ("syntax error: unexpected argument \x27)\x27", 2)
    | "+" :: word :: rest => .ok (word, rest)
    | "length" :: rest => do
      let (value, rest) ← readExpression fuel "length" [] rest
      return (toString value.length, rest)
    | "match" :: rest => do
      let (text, rest) ← readExpression fuel "match" [] rest
      let (pattern, rest) ← readExpression fuel text [] rest
      return (← matchStart text pattern, rest)
    | "index" :: rest => do
      let (text, rest) ← readExpression fuel "index" [] rest
      let (set, rest) ← readExpression fuel text [] rest
      return (toString (placeOfAny text set), rest)
    | "substr" :: rest => do
      let (text, rest) ← readExpression fuel "substr" [] rest
      let (start, rest) ← readExpression fuel text [] rest
      let (count, rest) ← readExpression fuel start [] rest
      match numeral? start, numeral? count with
      | some i, some n =>
        if i ≤ 0 || n ≤ 0 then return ("", rest)
        else return (String.ofList ((text.toList.drop (i.toNat - 1)).take n.toNat), rest)
      | _, _ => return ("", rest)
    | word :: rest => .ok (word, rest)
  | fuel + 1, before, level :: levels, words => do
    let (value, rest) ← readExpression fuel before levels words
    go fuel level levels value rest
where
  /-- Goes on with operators of a level after a value. -/
  go : Nat → List String → List (List String) → String → List String →
      Except (String × Nat) (String × List String)
    | 0, _, _, _, _ => .error ("syntax error", 2)
    | _, _, _, value, [] => .ok (value, [])
    | fuel + 1, level, levels, value, op :: rest =>
      if level.contains op then do
        let (other, rest) ← readExpression fuel op levels rest
        go fuel level levels (← operate op value other) rest
      else .ok (value, op :: rest)

def runExpression (m : Machine) (p : Process) (called : String) (args : List String) : Machine :=
  let words := if args.head? = some "--" then args.tail else args
  let value : Except (String × Nat) String := do
    let (value, rest) ← readExpression (20 * (words.length + 2)) "" expressionLevels words
    match rest with
    | [] => return value
    | extra :: _ => throw (s!"syntax error: unexpected argument {shown extra}", 2)
  match value with
  | .ok value =>
    m.conclude p.pid (Text.Octets.bytes (value ++ "\n")) "" (if isNull value then 1 else 0)
  | .error (text, code) =>
    if words.isEmpty then m.misused p.pid called "missing operand" 2
    else m.complain p.pid s!"{called}: {text}" code

/-! ## Signals -/

/-- The signal and the targets that arguments name; an error names what is no signal. -/
def signalsAsked : (number : Nat) → List String → Except String (Nat × List String)
  | number, "-s" :: name :: rest => named name number rest
  | number, "-n" :: name :: rest => named name number rest
  | number, "--signal" :: name :: rest => named name number rest
  | number, "--" :: rest => .ok (number, rest)
  | number, arg :: rest =>
    match arg.toList with
    | '-' :: c :: name =>
      let name := String.ofList (c :: name)
      match signalOf? (if name.startsWith "SIG" then (name.drop 3).toString else name) with
      | some n => .ok (n, if rest.head? = some "--" then rest.tail else rest)
      | none => .error name
    | _ => .ok (number, arg :: rest)
  | number, [] => .ok (number, [])
where
  /-- A signal that stands as an argument by itself. -/
  named (name : String) (_ : Nat) (rest : List String) : Except String (Nat × List String) :=
    match signalOf? (if name.startsWith "SIG" then (name.drop 3).toString else name) with
    | some n => .ok (n, if rest.head? = some "--" then rest.tail else rest)
    | none => .error name

/-- Sends a signal to all targets: the machine, and the targets that are not there. -/
def signalTargets (m : Machine) (p : Process) (number : Nat) : List String →
    Machine × List String
  | [] => (m, [])
  | target :: rest =>
    match (numeral? target).bind (m.sendTo p number ·) with
    | some m => m.signalTargets p number rest
    | none =>
      let (m, missing) := m.signalTargets p number rest
      (m, target :: missing)

def runSignal (m : Machine) (p : Process) (called : String) (args : List String) : Machine :=
  match args with
  | ["-l"] => m.answer p.pid signalNames
  | ["-l", n] =>
    match n.toNat? with
    | some n => m.answer p.pid (signalName n ++ "\n")
    | none => m.answer p.pid (((signalOf? n).map toString).getD "" ++ "\n")
  | args =>
    match signalsAsked 15 args with
    | .error name => m.complain p.pid s!"{called}: invalid argument {name}" 1
    | .ok (number, targets) =>
      match targets.find? fun t => (numeral? t).isNone with
      | some bad => m.complain p.pid s!"{called}: failed to parse argument: {shown bad}" 1
      | none =>
        let (m, missing) := m.signalTargets p number targets
        m.conclude p.pid []
          (String.join (missing.map fun t => s!"{called}: ({t}): No such process\n"))
          (if missing.isEmpty then 0 else 1)

/-! ## The environment and the system -/

def environmentAsked : (fuel : Nat) → List (String × String) → List String →
    Except String (List (String × String) × List String)
  | 0, environment, args => .ok (environment, args)
  | fuel + 1, environment, args =>
    let without (name : String) := environment.filter fun (n, _) => n != name
    match args with
    | [] => .ok (environment, [])
    | "-i" :: rest | "-" :: rest | "--ignore-environment" :: rest => environmentAsked fuel [] rest
    | "-u" :: name :: rest => environmentAsked fuel (without name) rest
    | "-S" :: text :: rest =>
      environmentAsked fuel environment ((text.splitOn " ").filter (· != "") ++ rest)
    | "--" :: rest => assignments fuel environment rest
    | arg :: rest =>
      match arg.toList with
      | '-' :: 'u' :: c :: name =>
        environmentAsked fuel (without (String.ofList (c :: name))) rest
      | '-' :: 'S' :: c :: text =>
        environmentAsked fuel environment
          (((String.ofList (c :: text)).splitOn " ").filter (· != "") ++ rest)
      | ['-', c] =>
        if c = 'u' || c = 'S' then .error s!"option requires an argument -- \x27{c}\x27"
        else .error s!"invalid option -- \x27{c}\x27"
      | '-' :: '-' :: _ => .error s!"unrecognized option \x27{arg}\x27"
      | '-' :: c :: _ => .error s!"invalid option -- \x27{c}\x27"
      | _ => assignments fuel environment args
where
  /-- Reads assignments up to the command. -/
  assignments : Nat → List (String × String) → List String →
      Except String (List (String × String) × List String)
    | 0, environment, args => .ok (environment, args)
    | fuel + 1, environment, args =>
      match args with
      | arg :: rest =>
        match arg.splitOn "=" with
        | name :: value :: more =>
          let value := "=".intercalate (value :: more)
          let kept := environment.filter fun (n, _) => n != name
          let there := environment.any fun (n, _) => n == name
          assignments fuel
            (if there then environment.map fun (n, v) => if n == name then (n, value) else (n, v)
              else kept ++ [(name, value)]) rest
        | _ => .ok (environment, arg :: rest)
      | [] => .ok (environment, [])

/-- Runs a program in another environment, or shows the environment. -/
def runEnvironment (m : Machine) (p : Process) (called : String) (args : List String)
    (environment : List (String × String)) : Machine :=
  match environmentAsked (2 * args.length + 40) environment args with
  | .error text => m.misused p.pid called text 125
  | .ok (environment, []) =>
    m.answer p.pid (String.join (environment.map fun (n, v) => n ++ "=" ++ v ++ "\n"))
  | .ok (environment, program :: rest) =>
    -- the search is that of the new environment
    m.turnInto p called "" environment program rest

def runShowEnvironment (m : Machine) (p : Process) (args : List String)
    (environment : List (String × String)) : Machine :=
  if args.isEmpty then
    m.answer p.pid (String.join (environment.map fun (n, v) => n ++ "=" ++ v ++ "\n"))
  else
    let found := args.map fun a => environment.find? fun (n, _) => n == a
    let text := String.join (found.filterMap fun r => r.map fun (_, v) => v ++ "\n")
    m.conclude p.pid (Text.Octets.bytes text) "" (if found.all Option.isSome then 0 else 1)

def runDeaf (m : Machine) (p : Process) (called : String) (args : List String)
    (environment : List (String × String)) : Machine :=
  match if args.head? = some "--" then args.tail else args with
  | [] => m.misused p.pid called "missing operand" 125
  | program :: rest =>
    let p := { p with ignored := if p.ignored.contains 1 then p.ignored else 1 :: p.ignored }
    (m.update p.pid fun q => { q with ignored := p.ignored }).turnInto p called
      "failed to run command " environment program rest

/-- Runs a program in a session of its own. A process that leads a group leaves that to a child. -/
def runSession (m : Machine) (p : Process) (called : String) (args : List String)
    (environment : List (String × String)) : Machine :=
  m.asked p.pid called
    ⟨"cfw", "", [("ctty", 'c'), ("fork", 'f'), ("wait", 'w')], true⟩ 1 args fun d =>
    match d.operands with
    | [] => m.misused p.pid called "no command specified" 1
    | program :: rest =>
      match m.launch p.directory environment program rest with
      | .error e =>
        let code := if e = .noSuchFile then 127 else 126
        m.complain p.pid s!"{called}: failed to execute {program}: {e.plain}" code
      | .ok (_, image) =>
        if p.group = p.pid || d.has 'f' then
          let (child, m) := m.forkPlainly p image
          let m := m.update child fun q => { q with group := child, session := child }
          if d.has 'w' then
            let l : Limit := ⟨child, none, 15, none, false, true, true, []⟩
            m.setWatcher p.pid (.limit l)
          else m.finish p.pid (.exited 0)
        else
          (m.update p.pid fun q => { q with group := p.pid, session := p.pid }).become p.pid image

def runWhich (m : Machine) (p : Process) (args : List String)
    (environment : List (String × String)) : Machine :=
  let names := args.filter fun a => a.toList.head? != some '-'
  let runs (path : String) : Bool :=
    match m.find p.directory path with
    | .ok (_, .tool _) => true
    | .ok (_, .file _ executable) => executable
    | _ => false
  let found := names.map fun n =>
    let paths :=
      if n.toList.contains '/' then [n] else (pathOf environment).map fun d => Path.join d n
    paths.find? runs
  m.conclude p.pid (Text.Octets.bytes (asLines (found.filterMap id))) ""
    (if found.all Option.isSome then 0 else 1)

def systemText (args : List String) : String :=
  let letters := args.flatMap fun a => a.toList.tail
  if letters.contains 'm' then "x86_64\n"
  else if letters.contains 'n' then "localhost\n"
  else "Linux\n"

/-- The time in seconds, or in a form that is asked for. -/
def timeText (micros : Nat) : List Char → List Char
  | '%' :: 's' :: rest => (toString (micros / 1000000)).toList ++ timeText micros rest
  | '%' :: 'N' :: rest =>
    (Filter.padLeft 0 (decimalText 0 9 (micros % 1000000 * 1000))).toList ++ timeText micros rest
  | '%' :: '%' :: rest => '%' :: timeText micros rest
  | c :: rest => c :: timeText micros rest
  | [] => []

end SyscallProfiler.Machine
