import SyscallProfiler.CommandLine.Options
import SyscallProfiler.Invocation.Interpreter
import SyscallProfiler.Loader.Native
import SyscallProfiler.Machine.Shell
import SyscallProfiler.Machine.ArgumentTools

/-!
# The tools of the system

What a process does first when it executes a tool. Most tools do all they do at once; the shell, the
filters and the tools that wait go on afterwards.
-/

namespace SyscallProfiler.Machine

/-! ## This program itself -/

/-- Runs this program itself. In the machine it only runs invocation scripts. -/
def runItself (m : Machine) (p : Process) (args : List String) : Machine :=
  match Options.parse (args.map nameOf) with
  | .error _ => m.complain p.pid "error: unexpected arguments" 2
  | .ok o =>
    match o.invoke with
    | none => m.finish p.pid (.exited 2)
    | some path =>
      let (result, chatter) : Except String Json × String :=
        match m.files.readText p.directory path with
        | .error e => (.error (Failure.file path e none).message, "")
        | .ok text =>
          match Script.read text.toList with
          | .error e => (.error (Failure.script e).message, "")
          | .ok script =>
            let (loaded, chatter) :=
              Loader.run m.files p.directory script.codePath script.input
            (loaded.mapError Loader.Fault.message, chatter)
      m.conclude p.pid
        (Text.Utf8.encode (chatter ++ Interpreter.reportLine result ++ "\n")) ""
        (Interpreter.exitCode result)

/-! ## The shell -/

/-- The variables that a shell has if its environment says nothing about them. -/
def standardVariables : List (String × String) :=
  [("PATH", ":".intercalate standardPath), ("PS1", "# "), ("PS2", "> "), ("PS4", "+ ")]

def isVariableName (name : String) : Bool :=
  match name.toList with
  | c :: rest => (c.isAlpha || c = '_') && rest.all fun c => c.isAlphanum || c = '_'
  | [] => false

/-- Where a shell is, by the path that it was led there, if its environment knows one. -/
def startPlace (m : Machine) (p : Process) (environment : List (String × String)) : String :=
  match environment.find? fun (n, _) => n == "PWD" with
  | some (_, path) =>
    match m.find p.directory path with
    | .ok (location, _) =>
      if Path.isAbsolute path && location == p.directory then path else directoryOf p
    | .error _ => directoryOf p
  | none => directoryOf p

def startVariables (p : Process) (called place : String) (environment : List (String × String)) :
    Shell.Variables :=
  let none_ : Shell.Variables := ⟨called, [], [], 0, p.pid, none, []⟩
  let v := standardVariables.foldl (fun v (n, x) => v.set n x) none_
  let v := environment.foldl (fun v (n, x) =>
    if isVariableName n then (v.set n x).change n exported else v) v
  let v := ((v.set "IFS" " \t\n").set "OPTIND" "1").set "PPID" (toString p.parent)
  (v.set "PWD" place).change "PWD" exported

def startState (p : Process) (vars : Shell.Variables) (place : String) (frame : Frame) :
    ShellState where
  vars
  functions := []
  aliases := []
  traps := []
  deaf := p.ignored
  pending := []
  holdsInterrupts :=
    match frame with
    | .input _ _ _ _ => false
    | _ => true
  jobs := []
  line := 1
  speaker := none
  inner := 0
  shielded := false
  looped := false
  place
  optionPlace := ⟨1, none⟩
  optionShown := "1"
  stack := [frame]

def scriptProblem (e : OsError) : String :=
  match e with
  | .noSuchFile | .notADirectory => "No such file"
  | e => e.plain

def beginShell (m : Machine) (p : Process) (called : String) (args : List String)
    (environment : List (String × String)) : Machine :=
  let place := m.startPlace p environment
  let v := startVariables p called place environment
  let refuse (text : String) : Machine := m.complain p.pid s!"{called}: 0: {text}" 2
  let go (m : Machine) (v : Shell.Variables) (frame : Frame) : Machine :=
    m.update p.pid fun q => { q with image := .shell (startState p v place frame) }
  match turnOptions true (args.length + 1) v args with
  | .error text => refuse text
  | .ok t =>
    let m := m.say p.pid 1 t.shown
    let v := t.vars
    match t.inline, t.rest with
    | true, [] => refuse "-c requires an argument"
    | true, text :: rest =>
      let v := { v with name := rest.head?.getD called, args := rest.tail }
      go m v (.source text.toList 1 false)
    | false, [] => go m (v.setOption 's' true) (.input 0 [] 1 false)
    | false, path :: rest =>
      if v.has 's' then go m { v with args := path :: rest } (.input 0 [] 1 false)
      else
        match m.find p.directory path with
        | .error e => refuse s!"cannot open {path}: {scriptProblem e}"
        | .ok (_, node) =>
          let text := (node.octets.filter (· != 0)).map fun b => Char.ofNat b.toNat
          go m { v with name := path, args := rest } (.source text 1 true)

/-! ## All tools -/

/-- The tools that are no filters. -/
def plainTools : List String :=
  ["sh", "dash", "bash", "sleep", "true", "false", "echo", "printf", "test", "[", "rm", "mkdir",
    "touch", "ls", "rmdir", "unlink", "cp", "mv", "ln", "chmod", "truncate", "readlink",
    "realpath", "mktemp", "seq", "basename", "dirname", "pwd", "kill", "env", "printenv", "nohup",
    "setsid", "timeout", "xargs", "expr", "which", "uname", "arch", "id", "whoami", "hostname",
    "nproc", "tty", "date", "sync", "nice"]

def toolNames : List String := plainTools ++ Filter.names

/-- Runs a tool that works on files. Nothing for other tools. -/
def runFileTool? (m : Machine) (p : Process) (name called : String) (args : List String) :
    Option Machine :=
  match name with
  | "rm" => some (m.runRemove p called args)
  | "rmdir" => some (m.runRemoveDirectory p called args)
  | "unlink" => some (m.runUnlink p called args)
  | "mkdir" => some (m.runMake p called args)
  | "touch" => some (m.runTouch p called args)
  | "cp" => some (m.runTransfer p called args (copyOne p))
  | "mv" => some (m.runTransfer p called args (moveOne p))
  | "ln" => some (m.runTransfer p called args (linkOne p))
  | "chmod" => some (m.runChangeMode p called args)
  | "truncate" => some (m.runResize p called args)
  | "ls" => some (m.runList p called args)
  | "readlink" => some (m.runReadLink p called args)
  | "realpath" => some (m.runResolve p called args)
  | "mktemp" => some (m.runFresh p called args)
  | _ => none

/-- Runs a tool that runs other programs. Nothing for other tools. -/
def runLauncher? (m : Machine) (p : Process) (name called : String) (args : List String)
    (environment : List (String × String)) : Option Machine :=
  match name with
  | "sh" | "dash" | "bash" => some (m.beginShell p called args environment)
  | "env" => some (m.runEnvironment p called args environment)
  | "nohup" => some (m.runDeaf p called args environment)
  | "setsid" => some (m.runSession p called args environment)
  | "timeout" => some (m.beginLimit p called args environment)
  | "xargs" => some (m.beginBuilding p called args environment)
  | "nice" =>
    some (m.asked p.pid called ⟨"", "n", [("adjustment", 'n')], true⟩ 125 args fun d =>
      match d.operands with
      | [] => m.answer p.pid "0\n"
      | program :: rest => m.turnInto p called "" environment program rest)
  | _ => none

/-- The microseconds of the wall clock when the clock of the machine shows zero. -/
def epoch : Nat := 1750000000000000

def runSmallTool (m : Machine) (p : Process) (name called : String) (args : List String)
    (environment : List (String × String)) : Machine :=
  match name with
  | "sleep" => m.beginSleep p called args
  | "true" | "sync" => m.finish p.pid (.exited 0)
  | "false" => m.finish p.pid (.exited 1)
  | "echo" => m.runEcho p args
  | "printf" => m.runFormat p called args
  | "test" | "[" => m.runCondition p name called args
  | "seq" => m.runSequence p called args
  | "basename" => m.runLastParts p called args
  | "dirname" => m.runFrontParts p called args
  | "pwd" => m.answer p.pid (directoryOf p ++ "\n")
  | "kill" => m.runSignal p called args
  | "printenv" => m.runShowEnvironment p args environment
  | "expr" => m.runExpression p called args
  | "which" => m.runWhich p args environment
  | "uname" => m.answer p.pid (systemText args)
  | "arch" => m.answer p.pid "x86_64\n"
  | "hostname" => m.answer p.pid "localhost\n"
  | "whoami" => m.answer p.pid "root\n"
  | "id" =>
    m.answer p.pid (if args.isEmpty then "uid=0(root) gid=0(root) groups=0(root)\n" else "0\n")
  | "nproc" => m.answer p.pid "4\n"
  | "tty" => m.conclude p.pid (Text.Octets.bytes "not a tty\n") "" 1
  | "date" =>
    let micros := epoch + m.now / 1000
    match (args.filter fun a => a.toList.head? = some '+').getLast? with
    | some form => m.answer p.pid (String.ofList (timeText micros form.toList.tail) ++ "\n")
    | none => m.answer p.pid "Sun Jun 15 15:06:40 UTC 2025\n"
  | _ => m.finish p.pid (.exited 0)

def beginTool (m : Machine) (p : Process) (name called : String) (args : List String)
    (environment : List (String × String)) : Machine :=
  if name = "tee" then m.beginCopies p name called args
  else if Filter.names.contains name then m.beginFilter p name called args
  else if name = "syscost" then m.runItself p args
  else
    match m.runFileTool? p name called args with
    | some m => m
    | none =>
      match m.runLauncher? p name called args environment with
      | some m => m
      | none => m.runSmallTool p name called args environment

end SyscallProfiler.Machine
