import SyscallProfiler.Machine.Inspect
import SyscallProfiler.Machine.Waiting
import SyscallProfiler.Shell.Printing

/-!
# Commands that a shell runs itself

A builtin is given a shell whose stack says what comes after it. The special ones are those whose
failure ends a shell.
-/

namespace SyscallProfiler.Machine

def specialBuiltins : List String :=
  [":", ".", "break", "continue", "eval", "exec", "exit", "export", "local", "readonly", "return",
    "set", "shift", "times", "trap", "unset"]

def plainBuiltins : List String :=
  ["[", "alias", "bg", "cd", "chdir", "command", "echo", "false", "fg", "getopts", "hash", "jobs",
    "kill", "printf", "pwd", "read", "test", "true", "type", "ulimit", "umask", "unalias", "wait"]

/-! ## Programs -/

/-- What a shell says about a program that it cannot start, and the status. -/
def startProblem (name : String) (e : OsError) : String × Nat :=
  match e with
  | .noSuchFile | .notADirectory => (s!"{name}: not found", 127)
  | .tooManyLinks | .nameTooLong => (s!"{name}: {e.plain}", 127)
  | e => (s!"{name}: {e.plain}", 126)

def searchPath (s : ShellState) : List String :=
  match s.vars.value? "PATH" with
  | some value => value.splitOn ":"
  | none => []

def standardPath : List String :=
  ["/usr/local/sbin", "/usr/local/bin", "/usr/sbin", "/usr/bin", "/sbin", "/bin"]

/-- The paths that a name may mean. -/
def candidates (path : List String) (name : String) : List String :=
  if name.toList.contains '/' then [name]
  else path.map fun place => if place = "" then name else place ++ "/" ++ name

/-- What executing the first candidate that can be executed amounts to. A file that names no
interpreter is a script of the shell. -/
def executeFirst (m : Machine) (directory : Location) (environment : List (String × String))
    (name : String) (args : List String) (found : OsError) :
    List String → Except OsError Image
  | [] => .error found
  | path :: rest =>
    match execute m directory environment maxInterpreters path name args with
    | .ok image => .ok image
    | .error .cannotExecute => .ok (.tool "sh" "/bin/sh" (path :: args) environment)
    | .error .noSuchFile | .error .notADirectory =>
      executeFirst m directory environment name args found rest
    | .error e => executeFirst m directory environment name args e rest

def launchFrom (m : Machine) (p : Process) (environment : List (String × String))
    (path : List String) (name : String) (args : List String) : Except OsError Image :=
  executeFirst m p.directory environment name args .noSuchFile (candidates path name)

/-- The first path that leads to a file that may be executed. `found` is why there is none. -/
def locateFirst (m : Machine) (directory : Location) (found : OsError) :
    List String → Except OsError String
  | [] => .error found
  | path :: rest =>
    match m.find directory path with
    | .ok (_, .tool _) | .ok (_, .file _ true) => .ok path
    | .ok _ => locateFirst m directory .permissionDenied rest
    | .error .noSuchFile | .error .notADirectory => locateFirst m directory found rest
    | .error e => locateFirst m directory e rest

/-- The program that a name means to a shell, which searches for names without a slash. -/
def locate (m : Machine) (p : Process) (path : List String) (name : String) :
    Except OsError String :=
  if name.toList.contains '/' then .ok name
  else locateFirst m p.directory .noSuchFile (candidates path name)

def programPath? (m : Machine) (p : Process) (path : List String) (name : String) :
    Option String :=
  if name.toList.contains '/' then
    (m.find p.directory name).toOption.map fun _ => name
  else (m.locate p path name).toOption

/-- What the builtin `type` says about a name, and whether it is known. `brief` asks for no more
than `command -v` says. -/
def describeName (m : Machine) (p : Process) (s : ShellState) (brief : Bool)
    (path : List String) (name : String) : String × Bool :=
  let said (text : String) : String × Bool := (if brief then name else name ++ text, true)
  if Shell.reservedWords.contains name then said " is a shell keyword"
  else
    match s.aliases.find? fun (n, _) => n == name with
    | some (_, text) =>
      (if brief then "alias " ++ showAlias name text else s!"{name} is an alias for {text}", true)
    | none =>
      if s.functions.any fun (n, _) => n == name then said " is a shell function"
      else if specialBuiltins.contains name then said " is a special shell builtin"
      else if plainBuiltins.contains name then said " is a shell builtin"
      else
        match m.programPath? p path name with
        | some place => (if brief then place else s!"{name} is {place}", true)
        | none => (if brief then "" else name ++ ": not found", false)

def runType (m : Machine) (p : Process) (s : ShellState) (names : List String) : Machine :=
  let told := names.map fun n => m.describeName p s false (searchPath s) n
  m.tell p s "type" (String.join (told.map fun (text, _) => text ++ "\n"))
    (if told.all (·.2) then 0 else 127)

/-- The builtin `command` where it runs nothing. -/
def runCommand (m : Machine) (p : Process) (s : ShellState) (args : List String) : Outcome := do
  let (options, names) ← optionsOf "pvV" "" args
  match names with
  | [] => return m.settle p s 0
  | name :: _ =>
    let path := if given options 'p' then standardPath else searchPath s
    let (text, isKnown) := m.describeName p s (given options 'v') path name
    return m.tell p s "command" (if text = "" then "" else text ++ "\n")
      (if isKnown then 0 else 127)

def runHash (m : Machine) (p : Process) (s : ShellState) (args : List String) : Outcome := do
  let (_, names) ← optionsOf "r" "" args
  let isCommand (n : String) : Bool :=
    specialBuiltins.contains n || plainBuiltins.contains n ||
      s.functions.any fun (f, _) => f == n
  let problems := names.filterMap fun n =>
    if isCommand n then none
    else
      match m.locate p (searchPath s) n with
      | .ok _ => none
      | .error e => some (startProblem n e).1
  let m := problems.foldl (fun m text => m.warnAs p s "hash" text) m
  return m.settle p s (if problems.isEmpty then 0 else 1)

/-- The builtin `exec`. Redirections stay, and without a program that is all. -/
def runExec (m : Machine) (p : Process) (s : ShellState) (args : List String) : Outcome := do
  let (m, p, s) := m.keepRedirections p s
  let (_, words) ← optionsOf "" "" args
  match words with
  | [] => return m.settle p s 0
  | name :: rest =>
    match m.launchFrom p s.vars.environment (searchPath s) name rest with
    | .ok image => return m.become p.pid image
    | .error e =>
      let (text, code) := startProblem name e
      return (m.warnAs p s "exec" text).endShell p s code

/-- The builtins `bg` and `fg`. Without job control there is no job that could go on. -/
def runResume (s : ShellState) (args : List String) : Outcome := do
  let (_, names) ← optionsOf "" "" args
  let _ ← jobNamed s (names.head?.getD "%+")
  let name := names.head?.getD "(null)"
  throw s!"job {name} not created under job control"

/-! ## Leaving -/

/-- The status before the commands for a signal or for the end of the shell, if they run. -/
def statusBefore? : List Frame → Option Nat
  | [] => none
  | .afterTrap status :: _ => some status
  | .exiting status :: _ => some status
  | _ :: rest => statusBefore? rest

/-- The builtin `exit`: without a number the status is that of the last command before. -/
def runExit (m : Machine) (p : Process) (s : ShellState) (args : List String) : Outcome := do
  match args with
  | [] => return m.endShell p s ((statusBefore? s.stack).getD s.vars.status)
  | arg :: _ => return m.endShell p s (← numberIn arg)

/-- Leaves frames up to the loop that is `count` loops up, or the outermost one: that frame, the
frames below it, and what has been put back. -/
def unwindLoops (count : Nat) (handles : Handles) (s : ShellState) :
    List Frame → Option (Frame × List Frame × Handles × ShellState)
  | [] => none
  | frame :: rest =>
    if isLoop frame && (count ≤ 1 || loopsOf rest = 0) then some (frame, rest, handles, s)
    else
      let (handles, s) := leaveFrame handles s frame
      unwindLoops (if isLoop frame then count - 1 else count) handles s rest

/-- The builtins `break` and `continue`. Beyond the loops of a shell that was started in one, what
is left of the shell is passed over. -/
def runLeave (m : Machine) (p : Process) (s : ShellState) (again : Bool) (args : List String) :
    Outcome := do
  let given := args.head?.getD "1"
  let count ← numberIn given
  if count = 0 then throw s!"Illegal number: {given}"
  let inner := loopsOf s.stack
  if count > inner && s.looped && !inFunction s.stack then return m.endShell p s 0
  else if inner = 0 then return m.settle p s 0
  else
    match unwindLoops count p.handles s s.stack with
    | none => return m.settle p s 0
    | some (frame, rest, handles, s) =>
      let frame :=
        match frame with
        | .loopCondition untilHolds condition body _ => .loopBody untilHolds condition body
        | f => f
      return (m.setHandles p.pid handles).goOn p
        { s with stack := if again then frame :: rest else rest } 0

def endsReturn : Frame → Bool
  | .returning _ _ _ _ => true
  | .speaking _ true _ => true
  | .exiting _ => true
  | _ => false

def runReturn (m : Machine) (p : Process) (s : ShellState) (args : List String) : Outcome := do
  let status ← (args.head?.map numberIn).getD (.ok s.vars.status)
  match unwindTo endsReturn p.handles s s.stack with
  | none => return m.endShell p s status
  | some (frame, rest, handles, s) =>
    return (m.setHandles p.pid handles).goOn p { s with stack := frame :: rest } status

/-! ## Commands in texts and files -/

/-- Runs a text in the name of a builtin. A text without commands does nothing. -/
def runText (m : Machine) (p : Process) (s : ShellState) (speaker : String)
    (text : List Char) (file caught : Bool) : Machine :=
  match Shell.readLine ⟨text, 1, s.aliases⟩ with
  | .ok none => m.settle p s 0
  | _ =>
    m.setShell p.pid
      { s with
        speaker := some speaker
        stack := .source text 1 file :: .speaking s.speaker file caught :: s.stack }

/-- The builtin `.`: runs the commands in a file. -/
def runFile (m : Machine) (p : Process) (s : ShellState) (args : List String) (caught : Bool) :
    Outcome := do
  let (_, words) ← optionsOf "" "" args
  match words with
  | [] => return m.settle p s 0
  | name :: _ =>
    let place :=
      if name.toList.contains '/' then some name
      else
        (candidates (searchPath s) name).find? fun c =>
          match m.find p.directory c with
          | .ok (_, .file _ _) => true
          | _ => false
    match place with
    | none => .error s!"{name}: not found"
    | some path =>
      match m.find p.directory path with
      | .error e => .error (openProblem false path e)
      | .ok (_, node) =>
        let text := (Text.Octets.ofBytes node.octets).toList
        return m.runText p s path text true caught

/-! ## Directories -/

/-- The parts of a path, with dots worked out as far as the text goes. -/
def plainParts : List String → List String → List String
  | done, [] => done.reverse
  | done, part :: rest =>
    if part = "" || part = "." then plainParts done rest
    else if part = ".." then plainParts done.tail rest
    else plainParts (part :: done) rest

/-- A path as seen from a directory, with dots worked out as far as the text goes. -/
def logicalPath (here path : String) : String :=
  let whole :=
    if Path.isAbsolute path then path
    else if here.toList.getLast? = some '/' then here ++ path
    else here ++ "/" ++ path
  -- two slashes at the beginning are kept, more of them are not
  let root :=
    match whole.toList with
    | '/' :: '/' :: '/' :: _ => "/"
    | '/' :: '/' :: _ => "//"
    | _ => "/"
  root ++ "/".intercalate (plainParts [] (Path.components whole))

def directoryOf (p : Process) : String := Text.Octets.ofText (absolute p.directory)

def exported (x : Shell.Variable) : Shell.Variable := { x with exported := true }

/-- Goes to a directory. Nothing if there is none. -/
def goTo (m : Machine) (p : Process) (s : ShellState) (physical : Bool) (path : String) :
    Option (Machine × Process × ShellState) :=
  let target := if physical then path else logicalPath s.place path
  match m.find p.directory target with
  | .ok (location, .directory _) =>
    let p := { p with directory := location }
    let place := if physical then directoryOf p else target
    let v := ((s.vars.set "OLDPWD" s.place).change "OLDPWD" exported).set "PWD" place
    some (m.update p.pid fun p => { p with directory := location }, p,
      { s with place, vars := v.change "PWD" exported })
  | _ => none

def isAnchored (path : String) : Bool :=
  Path.isAbsolute path || ["." , ".."].contains ((Path.components path).head?.getD "")

/-- The builtin `cd`. -/
def runChange (m : Machine) (p : Process) (s : ShellState) (args : List String) : Outcome := do
  let (options, words) ← optionsOf "LP" "" (if args.head? = some "-" then "--" :: args else args)
  let physical := (options.getLast?.map (·.1)) == some 'P'
  let given := words.head?
  let back := given = some "-"
  let target :=
    match given with
    | none => (s.vars.value? "HOME").getD ""
    | some "-" => (s.vars.value? "OLDPWD").getD ""
    | some path => path
  let target := if target = "" then "." else target
  let places : List (String × Bool) :=
    if isAnchored target then [(target, false)]
    else
      (((s.vars.value? "CDPATH").getD "").splitOn ":").map fun place =>
        if place = "" then (target, false) else (place ++ "/" ++ target, true)
  let reached := places.findSome? fun (path, shown) =>
    (m.goTo p s physical path).map fun r => (r, shown)
  match reached with
  | none => .error s!"can\x27t cd to {target}"
  | some ((m, p, s), shown) =>
    if shown || back then return m.tell p s "cd" (s.place ++ "\n") 0
    else return m.settle p s 0

/-- The builtin `pwd`. -/
def runWhere (m : Machine) (p : Process) (s : ShellState) (args : List String) : Outcome := do
  let (options, _) ← optionsOf "LP" "" args
  let physical := (options.getLast?.map (·.1)) == some 'P'
  return m.tell p s "pwd" ((if physical then directoryOf p else s.place) ++ "\n") 0

/-! ## Permissions and limits -/

/-- A number in octal digits, four of them at least. -/
def octalText (n : Nat) : String :=
  let digits := Nat.toDigits 8 n
  String.ofList (List.replicate (4 - digits.length) '0' ++ digits)

def permissionLetters (bits : Nat) : String :=
  String.ofList ((if bits / 4 % 2 = 1 then ['r'] else []) ++
    (if bits / 2 % 2 = 1 then ['w'] else []) ++ if bits % 2 = 1 then ['x'] else [])

/-- The bits that letters of a mode stand for, for all or for some. -/
def modeBits (whom : List Char) (letters : List Char) : Nat :=
  let bits := (if letters.contains 'r' then 4 else 0) + (if letters.contains 'w' then 2 else 0) +
    if letters.contains 'x' || letters.contains 'X' then 1 else 0
  let all := whom.isEmpty || whom.contains 'a'
  (if all || whom.contains 'u' then bits * 64 else 0) +
    (if all || whom.contains 'g' then bits * 8 else 0) +
    if all || whom.contains 'o' then bits else 0

def changePermissions (permissions : Nat) (part : List Char) : Option Nat :=
  let whom := part.takeWhile fun c => ['u', 'g', 'o', 'a'].contains c
  let isLetter (c : Char) : Bool := ['r', 'w', 'x', 'X', 's', 't'].contains c
  match part.drop whom.length with
  | op :: letters =>
    if !letters.all isLetter then none
    else
      let bits := modeBits whom letters
      if op = '+' then some (permissions ||| bits)
      else if op = '-' then some (permissions &&& (0o777 - bits))
      else if op = '=' then
        some (permissions &&& (0o777 - modeBits whom ['r', 'w', 'x']) ||| bits)
      else none
  | [] => none

def runMask (m : Machine) (p : Process) (s : ShellState) (args : List String) : Outcome := do
  let (options, words) ← optionsOf "S" "" args
  match words with
  | [] =>
    let allowed := 0o777 - p.mask % 512
    let text :=
      if given options 'S' then
        "u=" ++ permissionLetters (allowed / 64) ++ ",g=" ++ permissionLetters (allowed / 8 % 8) ++
          ",o=" ++ permissionLetters (allowed % 8)
      else octalText p.mask
    return m.tell p s "umask" (text ++ "\n") 0
  | mode :: _ =>
    let set (mask : Nat) : Machine := (m.update p.pid fun p => { p with mask }).settle p s 0
    if (mode.toList.head?.map Json.isDigit).getD false then
      if mode.toList.all fun c => '0' ≤ c && c ≤ '7' then
        return set (Shell.Printing.octalValue mode.toList % 512)
      else .error s!"Illegal number: {mode}"
    else
      let allowed := (mode.toList.splitOn ',').foldl
        (fun (n : Option Nat) part => n.bind fun n => changePermissions n part)
        (some (0o777 - p.mask % 512))
      match allowed with
      | some n => return set (0o777 - n)
      | none => .error s!"Illegal mode: {mode}"

/-- The builtin `ulimit`. Nothing is limited here but the dumps of processes that fail, of which
there are none. -/
def runLimit (m : Machine) (p : Process) (s : ShellState) (args : List String) : Outcome := do
  let (options, words) ← optionsOf "HSatfdsmcnpvlwr" "" args
  match words with
  | [] =>
    let limit := if given options 'c' then "0\n" else "unlimited\n"
    return m.tell p s "ulimit" limit 0
  | limit :: _ =>
    if limit = "unlimited" || limit.toList.all Json.isDigit then return m.settle p s 0
    else .error "bad number"

/-! ## Reading and writing -/

def runRead (m : Machine) (p : Process) (s : ShellState) (args : List String) : Outcome := do
  let (options, names) ← optionsOf "r" "p" args
  if names.isEmpty then .error "arg count"
  else
    return m.setShell p.pid
      { s with stack := .readingLine names (given options 'r') [] :: s.stack }

def runPrint (m : Machine) (p : Process) (s : ShellState) (args : List String) : Outcome := do
  let (_, words) ← optionsOf "" "" args
  match words with
  | [] => .error "usage: printf format [arg ...]"
  | format :: rest =>
    let r := Shell.Printing.printf format rest
    let m := r.complaints.foldl (fun m text => m.warnAs p s "printf" text) m
    match r.fault with
    | some text => return ((m.warnAs p s "printf" text).emit p.pid 1 r.output).settle p s 2
    | none => return m.writeAs p s "printf" r.output (if r.complaints.isEmpty then 0 else 1)

/-! ## All builtins -/

/-- Runs a special builtin. `caught` says that its failure does not end the shell. -/
def runSpecial (m : Machine) (p : Process) (s : ShellState) (name : String) (args : List String)
    (caught : Bool) : Outcome :=
  match name with
  | "." => m.runFile p s args caught
  | "break" => m.runLeave p s false args
  | "continue" => m.runLeave p s true args
  | "eval" => .ok (m.runText p s name (" ".intercalate args).toList false caught)
  | "exec" => m.runExec p s args
  | "exit" => m.runExit p s args
  | "export" => m.runDeclare p s name (·.exported) exported args
  | "local" => m.runLocal p s args
  | "readonly" => m.runDeclare p s name (·.readOnly) (fun x => { x with readOnly := true }) args
  | "return" => m.runReturn p s args
  | "set" => m.runSet p s args
  | "shift" => m.runShift p s args
  | "times" =>
    let line := "0m0.000000s 0m0.000000s\n"
    .ok (m.tell p s name (line ++ line) 0)
  | "trap" => m.runTrap p s args
  | "unset" => m.runUnset p s args
  | _ => .ok (m.settle p s 0)

def runPlain (m : Machine) (p : Process) (s : ShellState) (name : String) (args : List String) :
    Outcome :=
  match name with
  | "alias" => .ok (m.runAlias p s args)
  | "bg" | "fg" => runResume s args
  | "cd" | "chdir" => m.runChange p s args
  | "command" => m.runCommand p s args
  | "echo" => .ok (m.writeAs p s name (Shell.Printing.echo args) 0)
  | "false" => .ok (m.settle p s 1)
  | "getopts" => m.runOptions p s args
  | "hash" => m.runHash p s args
  | "jobs" => m.runJobs p s args
  | "kill" => m.runKill p s args
  | "printf" => m.runPrint p s args
  | "pwd" => m.runWhere p s args
  | "read" => m.runRead p s args
  | "test" | "[" =>
    (m.decideTest p.directory name args).map fun holds => m.settle p s (if holds then 0 else 1)
  | "type" => .ok (m.runType p s args)
  | "ulimit" => m.runLimit p s args
  | "umask" => m.runMask p s args
  | "unalias" => m.runUnalias p s args
  | "wait" => m.runWait p s args
  | _ => .ok (m.settle p s 0)

/-- Runs a builtin. `caught` says that the failure of a special one does not end the shell. -/
def runBuiltin (m : Machine) (p : Process) (s : ShellState) (name : String) (args : List String)
    (caught : Bool) : Machine :=
  if specialBuiltins.contains name then
    match m.runSpecial p s name args caught with
    | .ok m => m
    | .error text =>
      if caught then (m.warnAs p s name text).settle p s 2
      else m.fail p { s with speaker := some name } text
  else
    match m.runPlain p s name args with
    | .ok m => m
    | .error text => (m.warnAs p s name text).settle p s 2

end SyscallProfiler.Machine
