import SyscallProfiler.Machine.Builtins

/-!
# One step of a shell

A shell takes the frame on top of its stack and does what it says. A shell that waits takes no
step until what it waits for has happened.
-/

namespace SyscallProfiler.Machine

/-! ## Commands made of words -/

/-- A command whose words have been expanded: its words without `command` before them. -/
structure Call where
  words : List String
  /-- Whether `command` stood before the words. -/
  plain : Bool
  /-- Where programs are looked for, if not where the shell looks for them as a rule. -/
  path : Option (List String)

def callOf (path : Option (List String)) : (plain : Bool) → List String → Call
  | plain, "command" :: args =>
    match optionsOf "p" "" args with
    | .ok (_, []) => ⟨"command" :: args, plain, path⟩
    | .error _ => ⟨"command" :: args, plain, path⟩
    | .ok (options, name :: rest) =>
      let path := if given options 'p' then some standardPath else path
      ⟨name :: rest, true, path⟩
  | plain, words => ⟨words, plain, path⟩

/-- The words of a command as they are called, however often `command` stands before them. -/
def callFor (words : List String) : Call :=
  (List.range words.length).foldl (fun c _ => callOf c.path c.plain c.words) ⟨words, false, none⟩

def functionOf? (s : ShellState) (c : Call) : Option Shell.Tree :=
  if c.plain then none
  else (c.words.head?).bind fun name => (s.functions.find? fun (n, _) => n == name).map (·.2)

/-- Whether a command is a special builtin, whose failure ends the shell. -/
def isSpecialCall (c : Call) : Bool := specialBuiltins.contains (c.words.head?.getD "")

/-- What assigning comes to. -/
structure Assigned where
  /-- What the variables were before. -/
  saved : Saved
  /-- The assignments as they are traced. -/
  shown : List String

def assignEach (mark : Shell.Variable → Shell.Variable) :
    List (String × Shell.Word) → Shell.Expand Assigned
  | [] => return ⟨[], []⟩
  | (name, w) :: rest => do
    let value ← Shell.expandValue w
    let v ← Shell.Expand.vars
    let before := v.lookup? name
    match v.assign name value with
    | .error text => Shell.Expand.fail text
    | .ok v => Shell.Expand.setVars (v.change name mark)
    let later ← assignEach mark rest
    return ⟨later.saved ++ [(name, before)], (name ++ "=" ++ value) :: later.shown⟩

def traceStart (v : Shell.Variables) : String :=
  let text := (v.value? "PS4").getD ""
  let expanded := do
    let w ← (Shell.readText text).toOption
    let (shown, _) ← ((Shell.expandText w).run ⟨v, []⟩).toOption
    return shown
  expanded.getD text

/-- Shows a command before it is run. -/
def trace (m : Machine) (p : Process) (s : ShellState) (words : List String) : Machine :=
  match errorsBefore p s with
  | none => m
  | some handle =>
    let line := traceStart s.vars ++ " ".intercalate words ++ "\n"
    match m.write handle (Text.Octets.bytes line) with
    | .done m => m
    | _ => m

/-- Runs a program. The last command of a shell takes the shell's place. -/
def runProgram (m : Machine) (p : Process) (s : ShellState) (c : Call) (last : Bool) : Machine :=
  match c.words with
  | [] => m.settle p s 0
  | name :: args =>
    let path := c.path.getD (searchPath s)
    match m.locate p path name with
    | .error e => (m.warn p s (startProblem name e).1).settle p s 127
    | .ok place =>
      let places := (candidates path name).dropWhile (· != place)
      match executeFirst m p.directory s.vars.environment name args .noSuchFile places with
      | .error e =>
        let (text, code) := startProblem name e
        (m.warn p s text).settle p s code
      | .ok image =>
        if last && !hasTraps s then m.become p.pid image
        else
          let s := recycleJob s
          let (pid, m) := m.forkPlainly p image
          m.setShell p.pid { s with stack := .awaiting [(pid, none)] :: s.stack }

/-- Runs a command whose words have been expanded and whose assignments have been done. -/
def runCall (m : Machine) (p : Process) (s : ShellState) (c : Call) (last : Bool) : Machine :=
  match c.words with
  | [] => m.settle p s s.inner
  | name :: args =>
    match functionOf? s c with
    | some body =>
      m.setShell p.pid
        { s with
          vars := { s.vars with args }
          optionPlace := ⟨1, none⟩
          stack :=
            .run body [] false :: .returning s.vars.args [] none s.optionPlace :: s.stack }
    | none =>
      if isSpecialCall c || plainBuiltins.contains name then m.runBuiltin p s name args c.plain
      else m.runProgram p s c last

/-- Goes on with a command whose words have been expanded and whose descriptors have been
redirected. -/
def runPrepared (m : Machine) (p : Process) (s : ShellState) (c : Shell.Simple)
    (fields outputs : List String) (last : Bool) : Machine :=
  let call := callFor fields
  let stays := fields.isEmpty || (isSpecialCall call && !call.plain)
  let isExec := call.words.head? = some "exec"
  let mark (x : Shell.Variable) : Shell.Variable :=
    if stays && !(isExec && call.words.length > 1) then x else exported x
  m.expanding p s outputs (.prepared c fields outputs last) (assignEach mark c.assignments)
    fun a vars =>
      let s := { s with vars }
      let m := if vars.has 'x' then m.trace p s (a.shown ++ fields) else m
      let s :=
        if stays || a.saved.isEmpty then s
        else { s with stack := .puttingBack a.saved :: s.stack }
      m.runCall p s call last

def runSimple (m : Machine) (p : Process) (s : ShellState) (c : Shell.Simple)
    (outputs : List String) (last : Bool) : Machine :=
  let s := { s with line := c.line, inner := if outputs.isEmpty then 0 else s.inner }
  let words : Shell.Expand (List String × List (Shell.Redirect × String)) := do
    let fields ← Shell.expandWords (m.glob p) c.words
    let targets ← Shell.expandTargets c.redirects
    return (fields, targets)
  m.expanding p s outputs (.run (.simple c) outputs last) words fun (fields, targets) vars =>
    let s := { s with vars }
    let (m, p, s, problem) := m.redirectShell p s targets false
    match problem with
    | some text =>
      let call := callFor fields
      if isSpecialCall call && !call.plain then m.fail p s text
      else (m.warn p s text).settle p s 2
    | none => m.runPrepared p s c fields [] last

/-! ## Other commands -/

/-- Starts the commands of a pipeline: the handle that each reads from comes from the one before
it. `ignored` are signals that the commands do not take once they run. -/
def startPipeline (p : Process) (s : ShellState) (tested : Bool) (ignored : List Nat) :
    (input : Option Handle) → List Shell.Tree → Machine → List Nat × Machine
  | _, [], m => ([], m)
  | input, t :: rest, m =>
    let handles := (input.map (p.handles.handedOn.set 0)).getD p.handles.handedOn
    let start := Frame.run t [] true
    let copy :=
      { copyFor s tested start with
        deaf := ignored ++ s.deaf
        stack := if ignored.isEmpty then [start] else [.ignoring ignored, start] }
    if rest.isEmpty then
      let (pid, m) := m.fork p (.shell copy) handles p.ignored
      ([pid], m)
    else
      let (pipe, m) := m.addPipe false
      let (pid, m) := m.fork p (.shell copy) (handles.set 1 (.pipeIn pipe)) p.ignored
      let (pids, m) := startPipeline p s tested ignored (some (.pipeOut pipe)) rest m
      (pid :: pids, m)

/-- The commands of a pipeline, or a single command. -/
def pipedParts : Shell.Tree → List Shell.Tree
  | .pipeline parts => parts
  | t => [t]

/-- Starts a command in the background. It reads nothing and ignores interrupts. -/
def startBackground (m : Machine) (p : Process) (s : ShellState) (t : Shell.Tree) : Machine :=
  let (pids, m) := startPipeline p s false [2, 3] (some .nothing) (pipedParts t) m
  m.settle p (addJob s pids) 0

def awaitProcesses (m : Machine) (p : Process) (s : ShellState) (pids : List Nat) : Machine :=
  let s := recycleJob s
  m.setShell p.pid { s with stack := .awaiting (pids.map fun pid => (pid, none)) :: s.stack }

/-- Runs a command. `outputs` are those of commands in its words that are known already. -/
def runTree (m : Machine) (p : Process) (s : ShellState) (t : Shell.Tree)
    (outputs : List String) (last : Bool) : Machine :=
  let next (stack : List Frame) : Machine := m.setShell p.pid { s with stack := stack ++ s.stack }
  match t with
  | .simple c => m.runSimple p s c outputs last
  | .pipeline parts =>
    let (pids, m) := startPipeline p s true [] none parts m
    m.awaitProcesses p s pids
  | .negated t => next [.run t [] false, .invert]
  | .both first second => next [.run first [] false, .afterBoth second last]
  | .either first second => next [.run first [] false, .afterEither second last]
  | .sequence [] => m.goOn p s 0
  | .sequence items => next [.sequence items last]
  | .background t => m.startBackground p s t
  | .branch condition yes no => next [.run condition [] false, .afterCondition yes no last]
  | .loop untilHolds condition body =>
    next [.run condition [] false, .loopCondition untilHolds condition body 0]
  | .each line name words body =>
    let s := { s with line }
    m.expanding p s outputs (.run t outputs last) (Shell.expandList (m.glob p) words)
      fun values vars =>
        m.setShell p.pid
          { s with
            vars := { vars with status := 0 }
            stack := .eachNext name values body :: s.stack }
  | .choose line word arms =>
    let s := { s with line }
    m.expanding p s outputs (.run t outputs last) (Shell.expandChoice word arms) fun body vars =>
      let s := { s with vars }
      match body with
      | some body => m.setShell p.pid { s with stack := .run body [] last :: s.stack }
      | none => m.goOn p s 0
  | .subshell line t =>
    let s := { s with line }
    if last && !hasTraps s then m.setShell p.pid { s with stack := .run t [] true :: s.stack }
    else
      let (pid, m) := m.forkTree p s t p.handles.handedOn
      m.awaitProcesses p s [pid]
  | .define line name body =>
    m.goOn p
      { s with line, functions := (name, body) :: s.functions.filter fun (n, _) => n != name } 0
  | .redirected line redirects t =>
    let s := { s with line }
    let frame := Frame.run (.redirected line redirects t) outputs last
    m.expanding p s outputs frame (Shell.expandTargets redirects) fun targets vars =>
      let (m, p, s, problem) := m.redirectShell p { s with vars } targets true
      match problem with
      | some text => (m.warn p s text).settle p s 2
      | none => m.setShell p.pid { s with stack := .run t [] false :: s.stack }

/-! ## Reading commands -/

def runLine (m : Machine) (p : Process) (s : ShellState) (line : Shell.Line)
    (rest : List Frame) : Machine :=
  m.setShell p.pid { s with stack := .run line.tree [] false :: rest }

/-- Goes on where commands cannot be read. -/
def failReading (m : Machine) (p : Process) (s : ShellState) (e : Shell.ReadError)
    (rest : List Frame) : Machine :=
  m.fail p { s with line := e.line, stack := rest } e.message

/-- Shows lines of a script that have been read, if the shell has been told to. -/
def showRead (m : Machine) (p : Process) (s : ShellState) (text : List Char) : Machine :=
  if s.vars.has 'v' then m.say p.pid 2 (String.ofList text) else m

def firstLines : (count : Nat) → List Char → List Char
  | 0, _ => []
  | _, [] => []
  | count + 1, c :: rest => c :: firstLines (if c = '\n' then count else count + 1) rest

/-- Reads the next line of a script and goes on with it. -/
def stepSource (m : Machine) (p : Process) (s : ShellState) (text : List Char) (line : Nat)
    (file : Bool) (rest : List Frame) : Machine :=
  let show_ (read : List Char) : Machine := if file then m.showRead p s read else m
  match Shell.readLine ⟨text, line, s.aliases⟩ with
  | .error e => (show_ (firstLines (e.line + 1 - line) text)).failReading p s e rest
  | .ok none => (show_ text).setShell p.pid { s with stack := rest }
  | .ok (some next) =>
    let later := next.later.text
    let m := show_ (if next.last then text else text.take (text.length - later.length))
    if next.last then m.runLine p s next rest
    else m.runLine p s next (.source later next.later.line file :: rest)

/-- How much a shell reads at once of the commands that come in. -/
def commandChunk : Nat := 8191

/-- Whether a text cannot be read only because it is not complete. -/
def isIncomplete (e : Shell.ReadError) : Bool :=
  let text := e.message
  text == Shell.unterminated || text == Shell.missingBrace ||
    (text.splitOn "end of file unexpected").length > 1 || (text.splitOn "EOF in").length > 1 ||
    (text.splitOn "Missing").length > 1

/-- Takes in more of the commands that come in; nothing if they have to be waited for. -/
def takeCommands (m : Machine) (p : Process) (s : ShellState) (descriptor : Nat)
    (buffer : List Char) (line : Nat) (rest : List Frame) : Option Machine :=
  let goOn (m : Machine) (buffer : List Char) (ended : Bool) : Option Machine :=
    some (m.setShell p.pid { s with stack := .input descriptor buffer line ended :: rest })
  match p.handles.get? descriptor with
  | none => goOn m buffer true
  | some handle =>
    match m.read handle commandChunk with
    | .octets content m =>
      goOn m (buffer ++ (Text.Octets.ofBytes (content.filter (· != 0))).toList) false
    | .later => none
    | _ => goOn m buffer true

/-- Reads the next line of the commands that come in, and goes on with it. -/
def stepInput (m : Machine) (p : Process) (s : ShellState) (descriptor : Nat)
    (buffer : List Char) (line : Nat) (ended : Bool) (rest : List Frame) : Option Machine :=
  if !ended && !buffer.contains '\n' then m.takeCommands p s descriptor buffer line rest
  else
    match Shell.readLine ⟨buffer, line, s.aliases⟩ with
    | .error e =>
      if isIncomplete e && !ended then m.takeCommands p s descriptor buffer line rest
      else
        let m := m.showRead p s (firstLines (e.line + 1 - line) buffer)
        some (m.failReading p s e rest)
    | .ok none =>
      let m := m.showRead p s buffer
      if ended then some (m.setShell p.pid { s with stack := rest })
      else m.takeCommands p s descriptor [] (line + buffer.count '\n') rest
    | .ok (some next) =>
      if next.last && !ended then m.takeCommands p s descriptor buffer line rest
      else
        let later := next.later.text
        let m := m.showRead p s (buffer.take (buffer.length - later.length))
        let frame := Frame.input descriptor later next.later.line ended
        some (m.runLine p s next (frame :: rest))

/-! ## Waiting -/

/-- The output of a command as it stands in a word: without the line feeds at its end. -/
def outputText (content : List UInt8) : String :=
  let text := (Text.Octets.ofBytes (content.filter (· != 0))).toList
  String.ofList (text.reverse.dropWhile (· = '\n')).reverse

/-- What is said about the end of a process that was waited for. -/
def sayDeath (m : Machine) (p : Process) (status : ExitStatus) : Machine :=
  match deathNotice status with
  | some notice => m.say p.pid 2 (notice ++ "\n")
  | none => m

/-- Goes on once a command that stands in a word is over. -/
def stepSubstitution (m : Machine) (p : Process) (s : ShellState) (process pipe place : Nat)
    (next : Frame) : Option Machine :=
  if m.hasWriter pipe then none
  else
    match (m.process? process).bind (·.ended) with
    | none => none
    | some status =>
      let content := ((m.pipe? pipe).map (·.content)).getD []
      let m := ((m.forget process).dropPipe pipe).setHandles p.pid (p.handles.close place)
      let (m, s) := (m.sayDeath p status).reapJobs s
      some (m.setShell p.pid
        { s with
          inner := codeOf status
          stack := next.withOutput (outputText content) :: s.stack })

def noticeFirst (m : Machine) : List (Nat × Option ExitStatus) →
    Option (ExitStatus × Nat × List (Nat × Option ExitStatus))
  | [] => none
  | (pid, some status) :: rest =>
    (m.noticeFirst rest).map fun (found, n, rest) => (found, n, (pid, some status) :: rest)
  | (pid, none) :: rest =>
    match m.process? pid with
    | none => some (.exited 127, pid, (pid, some (.exited 127)) :: rest)
    | some p =>
      match p.ended with
      | some status => some (status, pid, (pid, some status) :: rest)
      | none => (m.noticeFirst rest).map fun (found, n, rest) => (found, n, (pid, none) :: rest)

def stepAwaiting (m : Machine) (p : Process) (s : ShellState)
    (processes : List (Nat × Option ExitStatus)) : Option Machine :=
  match m.noticeFirst processes with
  | some (status, pid, processes) =>
    let m := (m.forget pid).sayDeath p status
    if processes.all fun (_, status) => status.isSome then
      let status := (processes.getLast?.bind (·.2)).getD (.exited 0)
      let (m, s) := m.reapJobs s
      some (m.settle p s (codeOf status))
    else some (m.setShell p.pid { s with stack := .awaiting processes :: s.stack })
  | none => none

/-- A line taken from the standard input: the line and whether it has a line feed. Nothing if it has
not come yet. -/
def takeLine (m : Machine) (p : Process) : Option (List UInt8 × Bool × Machine) :=
  match p.handles.get? 0 with
  | none => some ([], false, m)
  | some .zeros => none
  | some (.pipeOut id) =>
    let content := ((m.pipe? id).map (·.content)).getD []
    if content.contains 10 then
      let line := content.takeWhile (· != 10)
      some (line, true, m.setContent id (content.drop (line.length + 1)))
    else if m.hasWriter id then none
    else some (content, false, m.setContent id [])
  | some handle =>
    match m.read handle chunk with
    | .octets content m =>
      let line := content.takeWhile (· != 10)
      let taken := min content.length (line.length + 1)
      some (line, line.length < content.length, m.unread handle (content.length - taken))
    | _ => some ([], false, m)

/-- The characters of a line, and whether it goes on in the next one. A backslash takes the meaning
from the character after it, unless a line is taken as it is. -/
def lineAtoms (raw : Bool) : List Char → List Shell.Atom × Bool
  | [] => ([], false)
  | ['\\'] => if raw then ([.char '\\' false true], false) else ([], true)
  | '\\' :: c :: rest =>
    if raw then
      let (atoms, more) := lineAtoms raw (c :: rest)
      (.char '\\' false true :: atoms, more)
    else
      let (atoms, more) := lineAtoms raw rest
      (.char c true true :: atoms, more)
  | c :: rest =>
    let (atoms, more) := lineAtoms raw rest
    (.char c false true :: atoms, more)

/-- Gives the fields of a line to names; the last name gets what is left. -/
def assignLine (v : Shell.Variables) (atoms : List Shell.Atom) : List String →
    Except String Shell.Variables
  | [] => .ok v
  | [name] => do
    checkName name
    v.assign name (Shell.textOfMarks (Shell.lastField v.separators.toList atoms))
  | name :: rest => do
    checkName name
    let (field, atoms) := Shell.firstField v.separators.toList none atoms
    assignLine (← v.assign name (Shell.textOfMarks field)) atoms rest

def finishReading (m : Machine) (p : Process) (s : ShellState) (names : List String)
    (atoms : List Shell.Atom) (status : Nat) : Machine :=
  match assignLine s.vars atoms names with
  | .ok vars => m.settle p { s with vars } status
  | .error text => (m.warnAs p s "read" text).settle p s 2

/-- Goes on with reading a line; nothing if it has to be waited for. -/
def stepReading (m : Machine) (p : Process) (s : ShellState) (names : List String) (raw : Bool)
    (before : List Shell.Atom) : Option Machine :=
  match m.takeLine p with
  | none => none
  | some (line, ended, m) =>
    let text := (Text.Octets.ofBytes (line.filter (· != 0))).toList
    let (atoms, more) := lineAtoms raw text
    if more && ended then
      some (m.setShell p.pid
        { s with stack := .readingLine names raw (before ++ atoms) :: s.stack })
    else some (m.finishReading p s names (before ++ atoms) (if ended then 0 else 1))

/-! ## Frames -/

/-- Goes on with a status that counts as the status of a command made of words. -/
def settleAgain (m : Machine) (p : Process) (s : ShellState) : Machine :=
  m.settle p s s.vars.status

/-- Goes on with the frame on top of the stack; nothing if it has to wait. -/
def stepFrame (m : Machine) (p : Process) (s : ShellState) (frame : Frame) (rest : List Frame) :
    Option Machine :=
  let s := { s with stack := rest }
  let holds := s.vars.status == 0
  let next (stack : List Frame) : Option Machine := some (m.setShell p.pid { s with stack })
  match frame with
  | .source text line file => some (m.stepSource p s text line file rest)
  | .input descriptor buffer line ended => m.stepInput p s descriptor buffer line ended rest
  | .ignoring signals =>
    let deafened := m.update p.pid fun q =>
      { q with ignored := signals.filter (fun n => !q.ignored.contains n) ++ q.ignored }
    some (deafened.setShell p.pid s)
  | .run t outputs last =>
    if s.vars.has 'n' then some (m.goOn p s 0) else some (m.runTree p s t outputs last)
  | .prepared c fields outputs last => some (m.runPrepared p s c fields outputs last)
  | .sequence [] _ => next rest
  | .sequence [t] last => next (.run t [] last :: rest)
  | .sequence (t :: ts) last => next (.run t [] false :: .sequence ts last :: rest)
  | .afterBoth second last => next (if holds then .run second [] last :: rest else rest)
  | .afterEither second last => next (if holds then rest else .run second [] last :: rest)
  | .invert => some (m.goOn p s (if holds then 1 else 0))
  | .afterCondition yes no last => next (.run (if holds then yes else no) [] last :: rest)
  | .loopCondition untilHolds condition body status =>
    if holds != untilHolds then
      next (.run body [] false :: .loopBody untilHolds condition body :: rest)
    else some (m.goOn p s status)
  | .loopBody untilHolds condition body =>
    next (.run condition [] false ::
      .loopCondition untilHolds condition body s.vars.status :: rest)
  | .eachNext _ [] _ => next rest
  | .eachNext name (value :: values) body =>
    match s.vars.assign name value with
    | .error text => some (m.fail p s text)
    | .ok vars =>
      some (m.setShell p.pid
        { s with vars, stack := .run body [] false :: .eachNext name values body :: rest })
  | .awaiting processes => m.stepAwaiting p s processes
  | .waiting for_ => m.stepWaiting p s for_
  | .substituting process pipe place next => m.stepSubstitution p s process pipe place next
  | .readingLine names raw text => m.stepReading p s names raw text
  | .restoring saved _ =>
    some ((m.setHandles p.pid (restoreHandles p.handles saved)).setShell p.pid s)
  | .puttingBack saved =>
    some (m.setShell p.pid { s with vars := putBackAll s.vars saved })
  | .returning args saved options place =>
    some (m.settleAgain p (afterFunction s args saved options place))
  | .speaking speaker _ _ => some (m.settleAgain p { s with speaker })
  | .afterTrap status => some (m.goOn p s status)
  | .exiting status => some (m.finish p.pid (.exited (status % 256)))

/-- Whether a shell puts off the commands for signals because it is in the middle of something. -/
def putsOff : List Frame → Bool
  | .prepared _ _ _ _ :: _ => true
  | .restoring _ whole :: _ => !whole
  | .puttingBack _ :: _ => true
  | frame :: _ => frame.isWait
  | [] => false

/-- The shell after a signal has come in the middle of something that signals end. -/
def interrupted (s : ShellState) (number : Nat) : ShellState :=
  match s.stack with
  | .waiting _ :: rest => withStatus { s with stack := rest } (128 + number)
  | .readingLine names _ text :: rest =>
    let vars := (assignLine s.vars text names).toOption.getD s.vars
    withStatus { s with vars, stack := rest } 1
  | _ => s

/-- Takes up a signal that has come: runs the command for it. -/
def takeSignal (m : Machine) (p : Process) (s : ShellState) (number : Nat) (more : List Nat) :
    Machine :=
  let m := m.update p.pid fun p => { p with image := .shell { s with pending := more } }
  match s.traps.find? fun (n, _) => n == number with
  | none => m
  | some (_, command) =>
    let s := interrupted s number
    m.setShell p.pid
      { s with
        stack := .source command.toList 1 false :: .afterTrap s.vars.status :: s.stack }

/-- Ends a shell that an interrupt has come to while it waited, once it waits no more. -/
def endInterrupted (m : Machine) (pid : Nat) : Machine :=
  match m.process? pid with
  | none => m
  | some p =>
    match p.image with
    | .shell s => if s.stack.head?.any Frame.isWait then m else m.finish pid (.killed 2)
    | _ => m

def isInterrupted (s : ShellState) : Bool :=
  s.pending.contains 2 && !(s.traps.any fun (n, _) => n == 2)

/-- Lets a shell go on; nothing if it has to wait. -/
def stepShell (m : Machine) (p : Process) (s : ShellState) : Option Machine :=
  match s.pending, s.stack with
  | number :: more, stack =>
    if putsOff stack then
      match stack with
      | [] => none
      | frame :: rest =>
        (m.stepFrame p s frame rest).map fun next =>
          if isInterrupted s then next.endInterrupted p.pid else next
    else some (m.takeSignal p s number more)
  | [], [] => some (m.endShell p s s.vars.status)
  | [], frame :: rest => m.stepFrame p s frame rest

end SyscallProfiler.Machine
