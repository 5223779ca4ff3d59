import SyscallProfiler.Pass.Attach
import SyscallProfiler.Pass.Spawn
import SyscallProfiler.CommandLine.Options
import SyscallProfiler.Report
import SyscallProfiler.Workload.Registry

/-!
# A run over one workload

A run resolves the workload, makes its three passes one after the other, and reports. A pass that
fails is reported and never keeps the next one from being made; only a report that cannot be
written ends a run early. The stage of a run is kept from one run to the next.
-/

namespace SyscallProfiler

/-- What a run produced. -/
structure Findings where
  /-- The workload, if one was found. -/
  workload : Option Workload
  /-- The results of the passes in the order in which they were made. -/
  results : List PassResult
deriving DecidableEq

/-- A part of a run: it knows the stage, changes it, and may fail to write. -/
abbrev Staged (α : Type) := ExceptT WriteError (StateT Stage Program) α

namespace Staged

def request (r : Request) : Staged r.Answer :=
  ExceptT.lift (StateT.lift (Program.request r))

/-- Runs a program that cannot fail. -/
def lift {α : Type} (p : Program α) : Staged α := ExceptT.lift (StateT.lift p)

/-- Goes on to a stage. -/
def enter (stage : Stage) : Staged Unit := do
  request (.note (.stage stage))
  set stage

/-- Writes one piece of a report. -/
def write (piece : String) : Staged Unit := do
  match ← request (.write piece) with
  | .ok () => return ()
  | .error e => throw e

def flush : Staged Unit := do
  match ← request .flush with
  | .ok () => return ()
  | .error e => throw e

def writeAll : List String → Staged Unit
  | [] => return ()
  | piece :: rest => do
    write piece
    writeAll rest

end Staged

/-- What the runs over workloads work on. -/
structure Campaign where
  settings : Settings
  registry : Registry

namespace Campaign

/-- Writes pieces in the format for people only. -/
def say (format : ReportFormat) (pieces : List String) : Staged Unit :=
  match format with
  | .text => Staged.writeAll pieces
  | .json => return ()

/-- Announces a pass in the format for people. -/
def announce (format : ReportFormat) (title : String) (unit : Workload) (input : Payload) :
    Staged Unit := do
  match format with
  | .text =>
    Staged.writeAll (Report.heading title unit input)
    Staged.flush
  | .json => return ()

/-- The pieces of the report at the end of a run. -/
def finalReport (c : Campaign) (format : ReportFormat) (query : String) (f : Findings) :
    List String :=
  match format, f.workload with
  | .json, workload => Report.json workload f.results c.registry.units
  | .text, some _ => Report.results f.results
  | .text, none => Report.unresolved query c.registry.units

/-- Reports at the end of a run. The stage is idle afterwards even if the report could not be
written. -/
def report (c : Campaign) (format : ReportFormat) (query : String) (f : Findings) :
    Staged Unit := do
  Staged.enter .reporting
  let written ← observing (Staged.writeAll (c.finalReport format query f))
  Staged.enter .idle
  match written with
  | .ok () => return ()
  | .error e => throw e
where
  /-- The outcome of a part, whether it failed or not. -/
  observing (part : Staged Unit) : Staged (Except WriteError Unit) :=
    ExceptT.lift part.run

/-- The passes with the collector attached: stage, granularity and heading. -/
def attachedPasses : List (Stage × Granularity × String) :=
  [(.attachSummary, .summary, "1a. Profiling with attach mode (summary)..."),
    (.attachFull, .full, "1b. Profiling with attach mode (full)...")]

/-- The heading of the pass in fresh processes. -/
def spawnTitle : String := "2. Profiling with spawn mode..."

/-- Makes one pass, with its announcement before it and its progress after it. -/
def makePass (format : ReportFormat) (stage : Stage) (title : String) (unit : Workload)
    (input : Payload) (pass : Program PassResult) : Staged PassResult := do
  Staged.enter stage
  announce format title unit input
  let result ← Staged.lift pass
  say format (Report.progress result)
  return result

/-- Makes passes with the collector attached, one after the other. -/
def makeAttached (c : Campaign) (format : ReportFormat) (unit : Workload) (input : Payload) :
    List (Stage × Granularity × String) → Staged (List PassResult)
  | [] => return []
  | (stage, granularity, title) :: rest => do
    let result ← makePass format stage title unit input
      (Pass.runAttached c.settings unit input granularity)
    let results ← c.makeAttached format unit input rest
    return result :: results

/-- Makes the three passes over a workload. -/
def profile (c : Campaign) (format : ReportFormat) (unit : Workload) :
    Staged (List PassResult) := do
  let input := c.registry.inputOf unit.name
  say format (Report.ofLines [s!"Testing with function: {unit.name}"])
  let _ ← Staged.request (.makeDirectory c.settings.outputDir)
  let attached ← c.makeAttached format unit input attachedPasses
  let spawned ← makePass format .spawn spawnTitle unit input
    (Pass.runSpawned c.settings unit input)
  return attached ++ [spawned]

/-- Profiles the workload that a query asks for. -/
def run (c : Campaign) (query : String) (format : ReportFormat) : Staged Findings := do
  say format Report.banner
  Staged.enter .resolving
  let findings : Findings ←
    match c.registry.resolve? query with
    | none => pure ⟨none, []⟩
    | some unit => do
      let results ← c.profile format unit
      pure ⟨some unit, results⟩
  c.report format query findings
  return findings

/-- A run from a stage: what it found, or why it could not go on, and the stage after it. -/
def runFrom (c : Campaign) (stage : Stage) (query : String) (format : ReportFormat) :
    Program (Except WriteError Findings × Stage) :=
  (c.run query format).run.run stage

end Campaign

end SyscallProfiler
