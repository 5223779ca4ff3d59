import SyscallProfiler.Collector
import SyscallProfiler.Failure
import SyscallProfiler.Host.Watch
import SyscallProfiler.PassResult
import SyscallProfiler.Workload.Basic

/-!
# Passes in a fresh process

The collector starts an interpreter on an invocation script, first for a summary and then for the
full record. Both runs share one script, which is removed afterwards on every path. The outcome is
that of the first run alone.
-/

namespace SyscallProfiler

/-- What a run of the collector left. -/
structure RunOutput where
  status : ExitStatus
  stdout : String
  stderr : String
deriving DecidableEq, Repr

/-- The outcome that a run shows. -/
def RunOutput.outcome (r : RunOutput) : Outcome :=
  .ofRun r.status.code? r.status.signal? r.stdout r.stderr

/-- The option that makes this program run an invocation script. -/
def invokeOption : String := "--invoke"

/-- The command that reads invocation scripts. -/
def Settings.interpreterCommand (s : Settings) : Program (Except Failure (List String)) := do
  if s.interpreter.isEmpty then
    match ← Program.request .ownCommand with
    | .error e => return .error (.file "current_exe" e none)
    | .ok own => return .ok [own, invokeOption]
  else return .ok s.interpreter

/-- The directory for scripts if none is named. -/
def Script.commonDirectory : String := "/tmp"

/-- Writes a script to a fresh file. Nothing is left if that fails. -/
def Script.writeFresh (script : Script) (directory : Option String) :
    Program (Except Failure String) := do
  let directory := directory.getD commonDirectory
  match ← Program.request (.createScript directory) with
  | .error (tried, e) => return .error (.file directory e (some tried))
  | .ok path =>
    match ← Program.request (.writeScript path script.text) with
    | .ok () => return .ok path
    | .error e =>
      let _ ← Program.request (.removeScript path)
      return .error (.script (.unwritten e))

def Script.readAt (path : String) : Program (Except Failure Script) := do
  match ← Program.request (.readText path) with
  | .error e => return .error (.file path e none)
  | .ok text =>
    match Script.read text.toList with
    | .error e => return .error (.script e)
    | .ok script => return .ok script

namespace Pass

/-- Runs a command to its end or for as long as it may take; there is no output if it took
longer. -/
def runBounded (command : Command) (timeout : Duration) :
    Program (Except Failure (Option RunOutput)) := do
  match ← Program.request (.start command) with
  | .error e => return .error (.collector s!"failed to start collector: {e.message}")
  | .ok process =>
    let status ← Watch.untilEnd process timeout
    if status.isNone then Watch.destroy process
    let stdout ← Program.request (.collect process .output)
    let stderr ← Program.request (.collect process .errors)
    return .ok (status.map fun status => { status, stdout, stderr })

/-- What a pass in a fresh process works on. -/
structure SpawnJob where
  settings : Settings
  unit : Workload
  input : Payload
  interpreter : List String
  /-- The path of the script. -/
  script : String
  window : Window

namespace SpawnJob

/-- The artifact of a run. -/
def artifact (job : SpawnJob) (granularity : Granularity) : String :=
  Artifact.path job.settings.outputDir .spawn granularity job.unit.name

/-- The command of a run. -/
def command (job : SpawnJob) (granularity : Granularity) : Command :=
  let collector : Collector := ⟨job.settings.collector, granularity, job.artifact granularity⟩
  ⟨collector.program, collector.spawnArgs job.interpreter job.script, true⟩

/-- The result of a pass one run of which took too long. -/
def expired (job : SpawnJob) (artifacts : List String) (window : Window) : PassResult :=
  { PassResult.completed job.unit.name .spawn job.input
      ⟨artifacts, some window, false, "", ""⟩ .timedOut with
    error := some
      s!"spawn-mode execution timed out after {job.settings.spawnTimeout.secs} s" }

/-- The result of a pass all runs of which ended. -/
def finished (job : SpawnJob) (artifacts : List String) (window : Window)
    (first : Option RunOutput) : PassResult :=
  match first with
  | some run =>
    .completed job.unit.name .spawn job.input
      ⟨artifacts, some window, false, run.stdout, run.stderr⟩ run.outcome
  | none =>
    .completed job.unit.name .spawn job.input ⟨artifacts, some window, false, "", ""⟩
      (.faulted "no spawn-mode run completed")

/-- Makes the runs that are left. `artifacts` and `first` are what the runs before them left. -/
def runAll (job : SpawnJob) (artifacts : List String) (first : Option RunOutput) :
    List Granularity → Program (Except Failure PassResult)
  | [] => do
    let now ← Program.request .wallClock
    return .ok (job.finished artifacts (job.window.closeAt now) first)
  | granularity :: rest => do
    let artifact := job.artifact granularity
    match ← runBounded (job.command granularity) job.settings.spawnTimeout with
    | .error e => return .error e
    | .ok none =>
      let left ← Program.request (.exists_ artifact)
      let now ← Program.request .wallClock
      return .ok
        (job.expired (if left then artifacts ++ [artifact] else artifacts)
          (job.window.closeAt now))
    | .ok (some run) =>
      match ← Program.request (.touch artifact) with
      | .error e => return .error (.file artifact e none)
      | .ok () => job.runAll (artifacts ++ [artifact]) (first.or (some run)) rest

end SpawnJob

/-- Makes both runs on a script. -/
def runOnScript (settings : Settings) (unit : Workload) (input : Payload) (script : String) :
    Program (Except Failure PassResult) := do
  match ← settings.interpreterCommand with
  | .error e => return .error e
  | .ok interpreter =>
    let now ← Program.request .wallClock
    let job : SpawnJob :=
      { settings, unit, input, interpreter, script
        window := .openAt now }
    job.runAll [] none [.summary, .full]

/-- Profiles a workload in fresh processes. -/
def runSpawned (settings : Settings) (unit : Workload) (input : Payload) :
    Program PassResult := do
  let script : Script := { codePath := unit.codePath, input }
  match ← script.writeFresh settings.scriptDir with
  | .error e => return .aborted unit.name .spawn input e.message
  | .ok path =>
    let result ← runOnScript settings unit input path
    let _ ← Program.request (.removeScript path)
    match result with
    | .ok result => return result
    | .error e => return .aborted unit.name .spawn input e.message

end Pass

end SyscallProfiler
