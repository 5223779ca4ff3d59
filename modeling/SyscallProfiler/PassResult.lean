import SyscallProfiler.Artifact
import SyscallProfiler.Outcome
import SyscallProfiler.Payload
import SyscallProfiler.Window

/-!
# Results of passes

A pass succeeds when its measurement protocol ran to completion. A workload that faults is a
successful measurement of a fault; one that takes too long is not. A pass whose protocol broke off
before the workload ran has no outcome.
-/

namespace SyscallProfiler

/-- The result of one pass over one workload. -/
structure PassResult where
  workload : String
  pass : Pass
  success : Bool
  outcome : Option Outcome
  input : Payload
  artifacts : List String
  window : Option Window
  error : Option String
  /-- The collector did not react to an interrupt and had to be killed. -/
  escalated : Bool
  stdout : String
  stderr : String
deriving DecidableEq, Inhabited

/-- What a collector left behind when it was done. -/
structure Closure where
  artifacts : List String
  window : Option Window
  escalated : Bool
  stdout : String
  stderr : String
deriving DecidableEq, Repr, Inhabited

namespace PassResult

/-- A pass that broke off before its workload ran. -/
def aborted (workload : String) (pass : Pass) (input : Payload) (error : String) : PassResult :=
  { workload, pass, input
    success := false
    outcome := none
    artifacts := []
    window := none
    error := some error
    escalated := false
    stdout := ""
    stderr := "" }

/-- What the error of a pass says whose workload took too long. -/
def timeoutError : Pass → String
  | .spawn => "spawn-mode execution timed out"
  | _ => "execution timed out"

/-- A pass whose collector is done and whose workload has an outcome. -/
def completed (workload : String) (pass : Pass) (input : Payload) (closure : Closure)
    (outcome : Outcome) : PassResult :=
  { workload, pass, input
    success := !outcome.isTimedOut
    outcome := some outcome
    artifacts := closure.artifacts
    window := closure.window
    error := if outcome.isTimedOut then some (timeoutError pass) else none
    escalated := closure.escalated
    stdout := closure.stdout
    stderr := closure.stderr }

/-- Whether the workload returned a value. -/
def executed (r : PassResult) : Bool :=
  match r.outcome with
  | some (.returned _) => true
  | _ => false

/-- A field that is left out where it says nothing. -/
def fieldIf (present : Bool) (key : String) (v : Json) : Json.Fields :=
  if present then [(key, v)] else []

def toJson (r : PassResult) : Json :=
  .obj <|
    [("workload_name", .str r.workload),
      ("mode", .str r.pass.name),
      ("success", .bool r.success),
      ("outcome", (r.outcome.map Outcome.toJson).getD .null),
      ("input", r.input.toJson),
      ("artifact_paths", .ofStrings r.artifacts)] ++
    fieldIf r.window.isSome "window" ((r.window.map Window.toJson).getD .null) ++
    fieldIf r.error.isSome "error" (.ofString? r.error) ++
    [("collector_escalated", .bool r.escalated)] ++
    fieldIf (r.stdout != "") "stdout" (.str r.stdout) ++
    fieldIf (r.stderr != "") "stderr" (.str r.stderr)

/-- A result while its fields are being decoded. -/
structure Draft where
  workload : Option String
  pass : Option Pass
  success : Option Bool
  outcome : Option Outcome
  input : Option Payload
  artifacts : Option (List String)
  window : Option Window
  error : Option String
  escalated : Bool
  stdout : String
  stderr : String

def Draft.empty : Draft :=
  ⟨none, none, none, none, none, none, none, none, false, "", ""⟩

/-- How a result is written. -/
def record : Decode.Record Draft where
  name := "ProfileResult"
  closed := false
  fields :=
    [⟨"workload_name",
        fun d v => (Decode.string v).map fun x => { d with workload := some x }, false⟩,
      ⟨"mode", fun d v => (Pass.decode v).map fun x => { d with pass := some x }, false⟩,
      ⟨"success", fun d v => (Decode.bool v).map fun x => { d with success := some x }, false⟩,
      ⟨"outcome",
        fun d v => (Decode.option Outcome.decode v).map fun x => { d with outcome := x }, false⟩,
      ⟨"input", fun d v => (Payload.decode v).map fun x => { d with input := some x }, false⟩,
      ⟨"artifact_paths",
        fun d v => (Decode.list Decode.path v).map fun x => { d with artifacts := some x }, false⟩,
      ⟨"window",
        fun d v => (Decode.option Window.decode v).map fun x => { d with window := x }, false⟩,
      ⟨"error",
        fun d v => (Decode.option Decode.string v).map fun x => { d with error := x }, false⟩,
      ⟨"collector_escalated",
        fun d v => (Decode.bool v).map fun x => { d with escalated := x }, true⟩,
      ⟨"stdout", fun d v => (Decode.string v).map fun x => { d with stdout := x }, true⟩,
      ⟨"stderr", fun d v => (Decode.string v).map fun x => { d with stderr := x }, true⟩]

def decode (v : Json) : Decode.Result PassResult := do
  let d ← record.fill Draft.empty v
  return {
    workload := ← Decode.required "workload_name" d.workload
    pass := ← Decode.required "mode" d.pass
    success := ← Decode.required "success" d.success
    outcome := d.outcome
    input := ← Decode.required "input" d.input
    artifacts := ← Decode.required "artifact_paths" d.artifacts
    window := d.window
    error := d.error
    escalated := d.escalated
    stdout := d.stdout
    stderr := d.stderr }

end PassResult

end SyscallProfiler
