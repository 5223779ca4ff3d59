import SyscallProfiler.Campaign
import SyscallProfiler.Invocation.Interpreter
import SyscallProfiler.Workload.Discovery

/-!
# The program on its command line

The program runs an invocation script, lists the workloads, or makes a run over one of them. Its
result is an exit code: 2 for a command line that is refused, 1 for any other error.
-/

namespace SyscallProfiler

namespace CommandLine

def name : String := "syscost"

def version : String := "0.1.0"

/-- What the program says about its options. -/
def helpText : List String :=
  Report.ofLines
    ["Measure the syscall cost of dynamically loaded workloads, in-process and from a cold start",
      "",
      "Usage: " ++ name ++ " [OPTIONS]",
      "",
      "Options:",
      "  -w, --workload <NAME>        Workload to profile (exact name or substring, e.g. " ++
        "\"thumbnailer\")",
      "  -b, --benchmarks <DIR>       Root directory holding <category>/<name>/<runtime>/" ++
        "function.so units",
      "  -o, --output-dir <DIR>       Directory receiving trace artifacts",
      "      --collector <PROG>       Collector program (default: strace)",
      "      --spawn-timeout <SECS>   Wall-clock bound on each spawn-mode run, in seconds",
      "      --readiness <READINESS>  How attach mode waits for the collector to attach",
      "      --settle-delay-ms <MS>   Fixed delay used with --readiness settle",
      "      --config <FILE>          TOML configuration file",
      "      --format <FORMAT>        Report format [default: text] [possible values: text, json]",
      "      --list                   List discovered workloads and exit",
      "      --debug                  Enable debug tracing output on stderr",
      "  -h, --help                   Print help",
      "  -V, --version                Print version"]

/-- Writes pieces until one cannot be written. -/
def writeAll : List String → Program (Except WriteError Unit)
  | [] => return .ok ()
  | piece :: rest => do
    match ← Program.request (.write piece) with
    | .error e => return .error e
    | .ok () => writeAll rest

/-- A text whose lines after the first are moved to the right. -/
def indented (width : Nat) (text : String) : String :=
  String.ofList (text.toList.flatMap fun c =>
    if c = '\n' then c :: List.replicate width ' ' else [c])

/-- What stands under an error: its causes, with numbers if there are several. -/
def causes : List String → String
  | [] => ""
  | [cause] => s!"\n\nCaused by:\n    {indented 4 cause}"
  | several =>
    "\n\nCaused by:" ++
      String.join (several.zipIdx.map fun (cause, i) => s!"\n    {i}: {indented 7 cause}")

/-- Ends the program with an error. -/
def fail (what : String) (because : List String) : Program Nat := do
  Program.request (.complain s!"Error: {what}{causes because}\n")
  return 1

/-- The causes of a failure, outermost first. -/
def causesOf (f : Failure) : List String := f.message :: f.cause?.toList

def writeAndEnd (pieces : List String) : Program Nat := do
  match ← writeAll pieces with
  | .ok () => return 0
  | .error e => fail e.message []

/-- The settings that a file holds; the standard ones if there is no file. Settings that break a
rule are refused even if the command line would put that right. -/
def settingsOf (file : Option String) : Program (Except Failure Settings) := do
  match file with
  | none => return .ok .standard
  | some path =>
    match ← Program.request (.readText path) with
    | .error e => return .error (.file path e none)
    | .ok text =>
      match Settings.ofToml text with
      | .error e => return .error (.settings e)
      | .ok s => return .ok s

/-- Why there are no settings to run with. -/
inductive LoadError where
  /-- The file does not give any. -/
  | unreadable (path : String) (f : Failure)
  /-- They break a rule once the command line has had its say. -/
  | invalid (e : SettingsError)
deriving DecidableEq

/-- The settings of a run: those of the file with the options put over them. -/
def loadSettings (o : Options) : Program (Except LoadError Settings) := do
  match ← settingsOf o.settingsFile with
  | .error f => return .error (.unreadable (o.settingsFile.getD "") f)
  | .ok s =>
    let merged := o.applyTo s
    match merged.validate with
    | .error e => return .error (.invalid e)
    | .ok () => return .ok merged

/-- Makes a run, or lists the workloads. -/
def profile (o : Options) (settings : Settings) (registry : Registry) : Program Nat := do
  if o.list then writeAndEnd (Report.listing registry.units)
  else
    let campaign : Campaign := ⟨settings, registry⟩
    match ← campaign.runFrom .idle settings.workload o.format with
    | (.ok _, _) => return 0
    | (.error e, _) => fail e.message []

/-- Does what the options ask for. -/
def execute (o : Options) : Program Nat := do
  match o.invoke with
  | some script => Interpreter.run script
  | none =>
    match ← loadSettings o with
    | .error (.unreadable path f) => fail s!"Failed to load config {path}" (causesOf f)
    | .error (.invalid e) => fail "Invalid configuration" [e.message]
    | .ok settings =>
      match ← Program.request (.survey settings.benchmarksRoot) with
      | .error (path, e) =>
        fail "Failed to discover workloads" (causesOf (.file path e none))
      | .ok tree =>
        let registry := (Registry.ofTree settings.benchmarksRoot tree).override settings.inputs
        profile o settings registry

/-- Runs the program on its arguments. -/
def run (args : List String) : Program Nat := do
  match Options.parse args with
  | .ok o => execute o
  | .error .displayHelp => writeAndEnd helpText
  | .error .displayVersion => writeAndEnd (Report.ofLines [s!"{name} {version}"])
  | .error e =>
    Program.request (.complain s!"error: {e.name}\n\nFor more information, try '--help'.\n")
    return 2

end CommandLine

end SyscallProfiler
