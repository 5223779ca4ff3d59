import SyscallProfiler.Machine.Filtering

/-!
# Tools that wait

Sleeping, and tools that start other programs and watch them: one with a time limit, and one that
runs a program for each list of arguments.
-/

namespace SyscallProfiler.Machine

/-! ## Spans of time -/

def forever : Nat := Nat.pow 10 24

/-- A decimal number at the beginning of a text, as digits and a power of ten, and what follows
it. -/
def decimalAhead (text : List Char) : Option (Nat × Int × List Char) :=
  let whole := text.takeWhile Json.isDigit
  let rest := text.drop whole.length
  let fraction := if rest.head? = some '.' then rest.tail.takeWhile Json.isDigit else []
  let rest := if rest.head? = some '.' then rest.drop (fraction.length + 1) else rest
  if whole.isEmpty && fraction.isEmpty then none
  else
    let (exponent, rest) : Int × List Char :=
      match rest with
      | 'e' :: '-' :: c :: later =>
        let digits := (c :: later).takeWhile Json.isDigit
        if digits.isEmpty then (0, rest)
        else (-(Json.ofDigits digits : Int), (c :: later).drop digits.length)
      | 'e' :: later =>
        let digits := (if later.head? = some '+' then later.tail else later).takeWhile Json.isDigit
        if digits.isEmpty then (0, rest)
        else
          ((Json.ofDigits digits : Int),
            (if later.head? = some '+' then later.tail else later).drop digits.length)
      | _ => (0, rest)
    some (Json.ofDigits (whole ++ fraction), exponent - fraction.length, rest)

def spanOf? (arg : String) : Option Nat :=
  let text := arg.toList
  let text := if text.head? = some '+' then text.tail else text
  if ["inf", "infinity", "INF", "INFINITY", "Inf", "Infinity"].contains (String.ofList text) then
    some forever
  else
    match decimalAhead text with
    | none => none
    | some (digits, power, unit) =>
      -- what is far beyond any span is as good as one without end
      let power := min (power + 9) 30
      let nanos :=
        if power < 0 then digits / Nat.pow 10 (min power.natAbs 400)
        else digits * Nat.pow 10 power.toNat
      match unit with
      | [] | ['s'] => some nanos
      | ['m'] => some (nanos * 60)
      | ['h'] => some (nanos * 3600)
      | ['d'] => some (nanos * 86400)
      | _ => none

def beginSleep (m : Machine) (p : Process) (called : String) (args : List String) : Machine :=
  m.asked p.pid called ⟨"", "", [], false⟩ 1 args fun d =>
    let bad := d.operands.filter fun a => (spanOf? a).isNone
    if d.operands.isEmpty then m.misused p.pid called "missing operand" 1
    else if !bad.isEmpty then
      let lines := bad.map fun a => s!"{called}: invalid time interval {shown a}\n"
      m.complain p.pid (String.join lines ++ Filter.helpLine called) 1
    else
      let span := (d.operands.filterMap spanOf?).foldl (· + ·) 0
      m.update p.pid fun p => { p with image := .resting, wakeAt := m.now + span }

/-! ## Starting other programs -/

/-- What a tool says about a program that it cannot execute, and the status. -/
def executionProblem (called verb program : String) (e : OsError) : String × Nat :=
  (s!"{called}: {verb}{shown program}: {e.plain}", if e = .noSuchFile then 127 else 126)

def turnInto (m : Machine) (p : Process) (called verb : String)
    (environment : List (String × String)) (program : String) (args : List String) : Machine :=
  match m.launch p.directory environment program args with
  | .ok (_, image) => m.become p.pid image
  | .error e =>
    let (text, code) := executionProblem called verb program e
    m.complain p.pid text code

def setWatcher (m : Machine) (pid : Nat) (w : Watcher) : Machine :=
  m.update pid fun p => { p with image := .watcher w }

/-! ## A time limit -/

def limitKnowledge : Knowledge :=
  ⟨"vfp", "ks",
    [("kill-after", 'k'), ("signal", 's'), ("foreground", 'f'), ("preserve-status", 'p'),
      ("verbose", 'v')], true⟩

def beginLimit (m : Machine) (p : Process) (called : String) (args : List String)
    (environment : List (String × String)) : Machine :=
  m.asked p.pid called limitKnowledge 125 args fun d =>
    let interval (text : String) : Except (String × Nat) Nat :=
      match spanOf? text with
      | some n => .ok n
      | none => .error (Filter.usage called s!"invalid time interval {shown text}" 125)
    let plan : Except (String × Nat) (Nat × Option Nat × Nat × String × List String) :=
      match d.operands with
      | span :: program :: rest => do
        let killAfter ← (d.value? 'k').mapM interval
        let number ←
          match d.value? 's' with
          | none => pure 15
          | some name =>
            match signalOf? (if name.startsWith "SIG" then (name.drop 3).toString else name) with
            | some n => pure n
            | none => .error (Filter.usage called s!"{shown name}: invalid signal" 125)
        return (← interval span, killAfter, number, program, rest)
      | _ => .error (Filter.helpLine called, 125)
    match plan with
    | .error (text, code) => m.complain p.pid text code
    | .ok (span, killAfter, number, program, rest) =>
      match m.launch p.directory environment program rest with
      | .error e =>
        let (text, code) := executionProblem called "failed to run command " program e
        m.complain p.pid text code
      | .ok (_, image) =>
        let foreground := d.has 'f'
        let p := if foreground then p else { p with group := p.pid }
        let (child, m) := m.forkPlainly p image
        let l : Limit :=
          ⟨child, if span = 0 then none else some (m.now + span), number, killAfter, false,
            d.has 'p', foreground, []⟩
        (m.update p.pid fun q => { q with group := p.group }).setWatcher p.pid (.limit l)

def signalLimited (m : Machine) (p : Process) (l : Limit) (number : Nat) : Machine :=
  let m := m.signal l.process number
  if l.foreground then m
  else if number = 9 then m.signalGroup p.group 9
  else
    let others := m.processes.filter fun q => q.group == p.group && q.pid != p.pid
    let tell (m : Machine) (number : Nat) : Machine :=
      others.foldl (fun m q => m.signal q.pid number) m
    let m := tell m number
    if number = 18 then m else tell m 18

/-- How a time limit ends once the process has ended. -/
def limitStatus (l : Limit) : ExitStatus → ExitStatus
  | .exited code => if l.timedOut && !l.keepsStatus then .exited 124 else .exited code
  | .killed number =>
    if !l.timedOut then .killed number
    else if l.keepsStatus || number = 9 then .exited (128 + number)
    else .exited 124

/-- Goes on with a time limit; nothing if there is nothing to do. -/
def stepLimit (m : Machine) (p : Process) (l : Limit) : Option Machine :=
  let isOver := l.deadline.any fun t => decide (t ≤ m.now)
  match (m.process? l.process).bind (·.ended) with
  | some status => some ((m.forget l.process).finish p.pid (limitStatus l status))
  | none =>
    match l.came with
    | number :: rest =>
      let m := m.setWatcher p.pid (.limit { l with came := rest })
      some (m.signalLimited p l number)
    | [] =>
      if isOver then
        let deadline := l.killAfter.map (m.now + ·)
        let next : Limit := { l with deadline, signal := 9, killAfter := none, timedOut := true }
        some ((m.setWatcher p.pid (.limit next)).signalLimited p l l.signal)
      else none

/-! ## A program for each list of arguments -/

/-- Words between blanks, with quotes and backslashes read as they are in lists of arguments.
`word` is what has been read of a word, if one has begun. -/
def argumentWords : (quote : Option Char) → (word : Option (List Char)) → List Char →
    Except String (List String)
  | none, word, [] => .ok ((word.map fun w => String.ofList w.reverse).toList)
  | some q, _, [] =>
    .error ((if q = '"' then "unmatched double" else "unmatched single") ++
      " quote; by default quotes are special to xargs unless you use the -0 option")
  | some q, word, c :: rest =>
    if c = q then argumentWords none (some (word.getD [])) rest
    else argumentWords (some q) (some (c :: word.getD [])) rest
  | none, word, '\\' :: c :: rest => argumentWords none (some (c :: word.getD [])) rest
  | none, word, c :: rest =>
    if c = '"' || c = '\x27' then argumentWords (some c) (some (word.getD [])) rest
    else if c = ' ' || c = '\t' || c = '\n' then do
      let later ← argumentWords none none rest
      return (word.map fun w => String.ofList w.reverse).toList ++ later
    else argumentWords none (some (c :: word.getD [])) rest

/-- Lists of at most `n` each. -/
def inGroups (n : Nat) : (fuel : Nat) → List String → List (List String)
  | 0, _ => []
  | fuel + 1, words =>
    if words.isEmpty then [] else words.take n :: inGroups n fuel (words.drop n)

def commandKnowledge : Knowledge :=
  ⟨"0rtpx", "nIdLPsEa",
    [("null", '0'), ("no-run-if-empty", 'r'), ("max-args", 'n'), ("replace", 'I'),
      ("delimiter", 'd'), ("max-lines", 'L'), ("max-procs", 'P'), ("verbose", 't')], true⟩

def builtCommands (d : Demand) (text : List Char) : Except String (List (List String)) := do
  let command := if d.operands.isEmpty then ["echo"] else d.operands
  let parts (c : Char) : List String := (Filter.linesOf text c).map String.ofList
  let lines := (parts '\n').filter (· != "")
  match d.value? 'I' with
  | some mark =>
    let inputs := if d.has '0' then parts '\x00' else
      lines.map fun l => String.ofList (l.toList.dropWhile fun c => c = ' ' || c = '\t')
    return inputs.map fun l => command.map fun w => l.intercalate (w.splitOn mark)
  | none =>
    let delimiter := if d.has '0' then some '\x00' else (d.value? 'd').bind (·.toList.head?)
    let words ←
      match delimiter with
      | some c => pure (parts c)
      | none => argumentWords none none text
    match d.value? 'L' with
    | some n =>
      let groups := inGroups (max 1 (n.toNat?.getD 1)) (lines.length + 1) lines
      groups.mapM fun g => do
        return command ++ (← argumentWords none none ("\n".intercalate g).toList)
    | none =>
      if words.isEmpty then return if d.has 'r' then [] else [command]
      else
        match (d.value? 'n').bind String.toNat? with
        | some n =>
          return (inGroups (max 1 n) (words.length + 1) words).map (command ++ ·)
        | none => return [command ++ words]

/-- Starts to build commands: the input is read first. -/
def beginBuilding (m : Machine) (p : Process) (called : String) (args : List String)
    (environment : List (String × String)) : Machine :=
  m.asked p.pid called commandKnowledge 1 args fun _ =>
    m.setWatcher p.pid (.collecting called args [] environment)

/-- Reads more of the input of commands that are to be built; nothing if there is none yet. -/
def stepCollecting (m : Machine) (p : Process) (called : String) (args : List String)
    (chunks : List (List UInt8)) (environment : List (String × String)) : Option Machine :=
  match m.read ((p.handles.get? 0).getD .nothing) chunk with
  | .later => none
  | .octets content m =>
    some (m.setWatcher p.pid (.collecting called args (content :: chunks) environment))
  | _ =>
    match Demand.ofArgs commandKnowledge args with
    | .error _ => some (m.finish p.pid (.exited 1))
    | .ok d =>
      match builtCommands d (Filter.charsOf chunks.reverse.flatten) with
      | .error text => some (m.complain p.pid s!"{called}: {text}" 1)
      | .ok commands => some (m.setWatcher p.pid (.each called commands none 0 environment))

/-- Goes on with commands that have been built; nothing while one of them runs. -/
def stepEach (m : Machine) (p : Process) (called : String) (rest : List (List String))
    (running : Option (Nat × String)) (status : Nat) (environment : List (String × String)) :
    Option Machine :=
  match running with
  | some (pid, program) =>
    match m.process? pid with
    | none => some (m.setWatcher p.pid (.each called rest none status environment))
    | some child =>
      match child.ended with
      | none => none
      | some (.exited 255) =>
        some ((m.forget pid).complain p.pid
          s!"{called}: {program}: exited with status 255; aborting" 124)
      | some (.killed n) =>
        some ((m.forget pid).complain p.pid s!"{called}: {program}: terminated by signal {n}" 125)
      | some (.exited code) =>
        let status := if code = 0 then status else 123
        some ((m.forget pid).setWatcher p.pid (.each called rest none status environment))
  | none =>
    match rest with
    | [] => some (m.finish p.pid (.exited status))
    | command :: rest =>
      let program := command.head?.getD ""
      match m.launch p.directory environment program command.tail with
      | .error e =>
        some (m.complain p.pid s!"{called}: {program}: {e.plain}"
          (if e = .noSuchFile then 127 else 126))
      | .ok (_, image) =>
        let handles := p.handles.handedOn.set 0 .nothing
        let (child, m) := m.fork p image handles p.ignored
        some (m.setWatcher p.pid (.each called rest (some (child, program)) status environment))

def stepWatcher (m : Machine) (p : Process) : Watcher → Option Machine
  | .limit l => m.stepLimit p l
  | .collecting called args chunks environment => m.stepCollecting p called args chunks environment
  | .each called rest running status environment =>
    m.stepEach p called rest running status environment

end SyscallProfiler.Machine
