import SyscallProfiler.Machine.Assigning

/-!
# Builtins for processes and signals

A shell knows the processes that it has started in the background as jobs. It takes notice of the
end of a process while it waits for any of them.
-/

namespace SyscallProfiler.Machine

/-! ## Jobs -/

/-- Takes notice of the processes of jobs that have ended. -/
def reapJobs (m : Machine) (s : ShellState) : Machine × ShellState :=
  let ended (pid : Nat) : Option ExitStatus := (m.process? pid).bind (·.ended)
  let jobs := s.jobs.map fun j =>
    { j with processes := j.processes.map fun (pid, status) =>
        (pid, status.or (if (m.process? pid).isNone then some (.exited 127) else ended pid)) }
  let gone := (s.jobs.flatMap fun j => j.processes.map (·.1)).filter fun pid =>
    (ended pid).isSome
  (gone.foldl forget m, { s with jobs })

/-- Makes room for a new job: a job that is over and has been waited for is forgotten. -/
def recycleJob (s : ShellState) : ShellState :=
  let finished := (s.jobs.filter fun j => j.isDone && j.waited).map (·.number)
  match finished.min? with
  | some n => { s with jobs := s.jobs.filter fun j => j.number != n }
  | none => s

def nextJob (s : ShellState) : Nat :=
  let taken := s.jobs.map (·.number)
  ((List.range (taken.length + 1)).find? fun i => !taken.contains (i + 1)).getD taken.length + 1

def addJob (s : ShellState) (pids : List Nat) : ShellState :=
  let s := recycleJob s
  let job : Job := ⟨nextJob s, pids.map fun pid => (pid, none), "", false⟩
  { s with
    jobs := job :: s.jobs
    vars := { s.vars with background := pids.getLast?.or s.vars.background } }

/-- Whether the status of a job is that of a process with a number. -/
def leads (j : Job) (pid : Nat) : Bool := j.processes.getLast?.any fun (n, _) => n == pid

/-- The job that a text means, or why there is none. -/
def jobNamed (s : ShellState) (text : String) : Except String Job :=
  match text.toList with
  | ['%'] | ['%', '%'] | ['%', '+'] => (s.jobs.head?.map .ok).getD (.error "No current job")
  | ['%', '-'] => (s.jobs[1]?.map .ok).getD (.error "No previous job")
  | '%' :: digits =>
    match s.jobs.find? fun j => toString j.number == String.ofList digits with
    | some j => .ok j
    | none => .error s!"No such job: {text}"
  | _ => .error s!"No such job: {text}"

def showJob (j : Job) (mark : Char) : String :=
  let state :=
    match j.status? with
    | none => "Running"
    | some (.exited 0) => "Done"
    | some (.exited n) => s!"Done({n})"
    | some (.killed n) => describeSignal n
  let text := s!"[{j.number}] {mark} {state}"
  text ++ String.ofList (List.replicate (33 - text.length) ' ') ++ j.text ++ "\n"

def runJobs (m : Machine) (p : Process) (s : ShellState) (args : List String) : Outcome := do
  let (options, names) ← optionsOf "lp" "" args
  for name in names do
    let _ ← jobNamed s name
  let (m, s) := m.reapJobs s
  let listed := s.jobs.zipIdx.map fun (j, i) =>
    if given options 'p' then s!"{(j.processes.head?.map (·.1)).getD 0}\n"
    else showJob j (if i = 0 then '+' else if i = 1 then '-' else ' ')
  let s := { s with jobs := s.jobs.filter fun j => !j.isDone }
  return m.tell p s "jobs" (String.join listed) 0

/-! ## Waiting -/

def runWait (m : Machine) (p : Process) (s : ShellState) (args : List String) : Outcome := do
  let (_, targets) ← optionsOf "" "" args
  let for_ := if targets.isEmpty then WaitFor.all else .named targets 127
  return m.setShell p.pid { s with stack := .waiting for_ :: s.stack }

/-- The job that is waited for next; nothing for a number that is no job's. -/
def waitTarget (s : ShellState) (target : String) : Except String (Option Job) :=
  if target.toList.head? = some '%' then
    (jobNamed s target).map some
  else do
    let pid ← numberIn target
    return s.jobs.find? fun j => leads j pid

def markWaited (s : ShellState) (number : Nat) : ShellState :=
  { s with jobs := s.jobs.map fun j => if j.number == number then { j with waited := true } else j }

/-- What is said about the processes of a job that were ended by signals and are known to have
ended only now. -/
def jobNotices (before after : Job) : String :=
  String.join ((before.processes.zip after.processes).filterMap fun ((_, old), (_, new)) =>
    match old, new with
    | none, some status => (deathNotice status).map (· ++ "\n")
    | _, _ => none)

/-- Goes on with the builtin `wait`; nothing if it has to wait. -/
def stepWaiting (m : Machine) (p : Process) (s : ShellState) (for_ : WaitFor) : Option Machine :=
  let (later, known) := m.reapJobs s
  match for_ with
  | .all =>
    if known.jobs.all Job.isDone then
      let jobs := known.jobs.map fun j => { j with waited := true }
      some (later.settle p { known with jobs } 0)
    else none
  | .named [] status => some (m.settle p s status)
  | .named (target :: rest) _ =>
    let goOn (m : Machine) (s : ShellState) (status : Nat) : Option Machine :=
      some (m.setShell p.pid { s with stack := .waiting (.named rest status) :: s.stack })
    match waitTarget s target with
    | .error text => some ((m.warnAs p s "wait" text).settle p s 2)
    | .ok none => goOn m s 127
    | .ok (some before) =>
      match known.jobs.find? fun j => j.number == before.number with
      | none => goOn m s 127
      | some after =>
        if !after.isDone then none
        else
          let status := (after.status?.map codeOf).getD 0
          goOn (later.say p.pid 2 (jobNotices before after)) (markWaited known after.number) status

/-! ## Signals -/

/-- The signal that a text names. A number always will do; zero has a name only if `zero` says
so. -/
def signalNamed? (zero : Bool) (text : String) : Option Nat :=
  (signalOf? text).filter fun n => zero || n != 0 || text.toList.all Json.isDigit

def killUsage : String :=
  "Usage: kill [-s sigspec | -signum | -sigspec] [pid | job]... or\nkill -l [exitstatus]"

/-- Sends a signal to a target: a process, or a group with a negative number. Nothing if there is
none. -/
def sendTo (m : Machine) (sender : Process) (number : Nat) (target : Int) : Option Machine :=
  if target = 0 then some (m.signalGroup sender.group number)
  else if target < 0 then
    if m.processes.any fun p => p.group == target.natAbs then
      some (m.signalGroup target.natAbs number)
    else none
  else if target = outsider then some m
  else (m.process? target.toNat).map fun _ => m.signal target.toNat number

def killTarget (s : ShellState) (arg : String) : Except String Int :=
  match arg.toList with
  | '%' :: _ =>
    (jobNamed s arg).map fun j => -(Int.ofNat ((j.processes.head?.map (·.1)).getD 0))
  | '-' :: digits =>
    match numberIn (String.ofList digits) with
    | .ok n => .ok (-(Int.ofNat n))
    | .error e => .error e
  | _ => (numberIn arg).map Int.ofNat

def killAll (m : Machine) (p : Process) (s : ShellState) (number : Nat) (missing : Bool) :
    List String → Machine
  | [] => m.settle p s (if missing then 1 else 0)
  | arg :: rest =>
    match killTarget s arg with
    | .error text => (m.warnAs p s "kill" text).settle p s 2
    | .ok target =>
      match m.sendTo p number target with
      | some m => killAll m p s number missing rest
      | none => killAll (m.warnAs p s "kill" "No such process\n") p s number true rest

def signalNames : String :=
  "0\n" ++ String.join ((List.range lastSignal).map fun i =>
    (let n := i + 1
     if n = 32 || n = 33 then toString n else signalName n) ++ "\n")

/-- The builtin `kill` with a list as its result. -/
def listSignals (m : Machine) (p : Process) (s : ShellState) : List String → Outcome
  | [] => .ok (m.tell p s "kill" signalNames 0)
  | arg :: _ => do
    let n ← numberIn arg
    let n := if n > 128 then n - 128 else n
    if 0 < n && n ≤ lastSignal then
      return m.tell p s "kill" (signalName n ++ "\n") 0
    else .error s!"invalid signal number or exit status: {arg}"

def runKill (m : Machine) (p : Process) (s : ShellState) (args : List String) : Outcome := do
  match args with
  | [] => .error killUsage
  | arg :: rest =>
    let direct :=
      match arg.toList with
      | '-' :: name => signalNamed? false (String.ofList name)
      | _ => none
    match direct with
    | some n => if rest.isEmpty then .error killUsage else return m.killAll p s n false rest
    | none =>
      let (options, targets) ← optionsOf "l" "s" args
      let named ← options.foldlM (fun (found : Option Nat) (c, text) =>
        if c = 's' then
          match signalNamed? false text with
          | some n => .ok (some n)
          | none => .error s!"invalid signal number or name: {text}"
        else .ok found) (none : Option Nat)
      if given options 'l' then
        if named.isSome then .error killUsage else listSignals m p s targets
      else if targets.isEmpty then .error killUsage
      else return m.killAll p s (named.getD 15) false targets

def setTrap (m : Machine) (p : Process) (s : ShellState) (action : Option String) (n : Nat) :
    Machine × ShellState :=
  let others := s.traps.filter fun (k, _) => k != n
  let s := { s with traps := (action.map fun command => (n, command)).toList ++ others }
  if n = 0 || s.deaf.contains n then (m, s)
  else
    let ignored (all : List Nat) : List Nat :=
      let others := all.filter (· != n)
      if action = some "" then n :: others else others
    (m.update p.pid fun p => { p with ignored := ignored p.ignored }, s)

def setTraps (m : Machine) (p : Process) (s : ShellState) (action : Option String) :
    List String → Machine
  | [] => m.settle p s 0
  | name :: rest =>
    match signalNamed? true name with
    | none => (m.say p.pid 2 s!"trap: {name}: bad trap\n").settle p s 1
    | some n =>
      let (m, s) := m.setTrap p s action n
      setTraps m p s action rest

/-- The commands for signals as a shell reads them. -/
def listTraps (s : ShellState) : String :=
  let sorted := s.traps.mergeSort fun a b => a.1 ≤ b.1
  String.join (sorted.map fun (n, command) =>
    let name := if n = 0 then "EXIT" else signalName n
    "trap -- " ++ Shell.Listing.quoted command ++ " " ++ name ++ "\n")

def runTrap (m : Machine) (p : Process) (s : ShellState) (args : List String) : Outcome := do
  let (_, words) ← optionsOf "" "" args
  match words with
  | [] => return m.tell p s "trap" (listTraps s) 0
  | [name] => return m.setTraps p s none [name]
  | action :: names =>
    let isNumber :=
      !action.isEmpty && action.toList.all Json.isDigit && (signalOf? action).isSome
    if isNumber then return m.setTraps p s none words
    else if action = "-" then return m.setTraps p s none names
    else return m.setTraps p s (some action) names

end SyscallProfiler.Machine
