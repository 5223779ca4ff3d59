import SyscallProfiler.PassResult
import SyscallProfiler.Workload.Basic

/-!
# Reports

The texts that a run writes for people, and one JSON document that holds every result for
programs. The text report leaves out passes whose protocol broke off. A report is a list of pieces,
each of which is written at once.
-/

namespace SyscallProfiler

namespace Report

/-- Lines, each with its line feed. -/
def ofLines (lines : List String) : List String := lines.map (· ++ "\n")

def text (pieces : List String) : String := String.join pieces

/-- What a run says about itself first. -/
def banner : List String :=
  ofLines
    ["=== syscost - Dual Mode Syscall Profiler ===",
      "This tool provides two profiling modes:",
      "1. Attach: trace this process while it loads and runs the workload (runtime already up)",
      "2. Spawn: trace a fresh interpreter from its first instruction " ++
        "(runtime start-up + load + run)",
      ""]

/-- Announces a pass over a unit. -/
def heading (title : String) (unit : Workload) (input : Payload) : List String :=
  ofLines ["", title, s!"Function path: {unit.codePath}", s!"Input data: {input.text}"]

/-- What is said about an outcome. -/
def outcomeLines : Outcome → List String
  | .returned v => [s!"  Function result: {v.text}"]
  | .faulted m => [s!"  Function error: {m}"]
  | .timedOut => []

/-- What is said about a result whose protocol ran to completion. -/
def resultLines (r : PassResult) : List String :=
  ["", r.pass.label ++ ":", "  Function executed: " ++ (if r.executed then "✓" else "✗")] ++
    (match r.outcome with
      | some outcome => outcomeLines outcome
      | none => []) ++
    (if r.artifacts.isEmpty then [] else ["  Artifacts: " ++ ", ".intercalate r.artifacts])

/-- The summary of the results whose protocol ran to completion. -/
def results (rs : List PassResult) : List String :=
  ofLines <|
    ["", String.ofList (List.replicate 60 '='), "", "=== Final Results ==="] ++
      (rs.filter (·.success)).flatMap resultLines

/-- How many units are named when none was found. -/
def previewLength : Nat := 5

/-- What is said when no unit was found. -/
def unresolved (query : String) (units : List Workload) : List String :=
  ofLines <|
    [s!"No suitable workload found for '{query}'", "Available workloads:"] ++
      (if units.isEmpty then ["  (none discovered)"] else []) ++
      (units.take previewLength).map (fun u => s!"  - {u.name} ({u.category})") ++
      (if units.length > previewLength then
        [s!"  ... and {units.length - previewLength} more"]
      else [])

/-- All units, one a line. -/
def listing (units : List Workload) : List String :=
  ofLines (units.map fun u => s!"{u.category}\t{u.name}\t{u.codePath}")

/-- Every result as one JSON value. Where no unit was found, the names of all units stand in it. -/
def document (unit : Option Workload) (rs : List PassResult) (units : List Workload) : Json :=
  .obj <|
    [("workload", .ofString? (unit.map (·.name))), ("results", .arr (rs.map (·.toJson)))] ++
      (if unit.isNone && !units.isEmpty then
        [("available", .ofStrings (units.map (·.name)))]
      else [])

/-- The report for programs. -/
def json (unit : Option Workload) (rs : List PassResult) (units : List Workload) :
    List String :=
  [(document unit rs units).prettyText, "\n"]

/-- What is said about a pass as soon as it is over. -/
def progress (r : PassResult) : List String :=
  if r.success then ofLines (r.artifacts.map fun path => s!"Trace file saved: {path}")
  else
    match r.error with
    | some error => ofLines [s!"Profiling failed: {error}"]
    | none => []

end Report

end SyscallProfiler
