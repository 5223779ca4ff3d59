import SyscallProfiler.Decode
import SyscallProfiler.Text.Blank

/-!
# Outcomes of running a workload

`Outcome.ofRun` recovers what a workload did from the exit and the output of the interpreter that
ran it: the value is the last line of standard output that is not blank, a fault is the first line
that is marked as one.
-/

namespace SyscallProfiler

/-- What became of one execution of a workload. -/
inductive Outcome where
  /-- It returned a value. -/
  | returned (value : Json)
  /-- It could not be loaded, or it failed. -/
  | faulted (message : String)
  /-- It took longer than it was allowed to. -/
  | timedOut
deriving DecidableEq, Repr, Inhabited

namespace Outcome

def value? : Outcome → Option Json
  | .returned v => some v
  | _ => none

def fault? : Outcome → Option String
  | .faulted m => some m
  | _ => none

/-- Whether the execution took too long. -/
def isTimedOut : Outcome → Bool
  | .timedOut => true
  | _ => false

/-- How a line that reports a fault begins. -/
def faultMark : String := "ERROR:"

/-- The last line that is not blank, without the blanks around it. -/
def lastWord? (stdout : String) : Option (List Char) :=
  ((Text.lines stdout.toList).reverse.find? fun line => !Text.allBlank line).map Text.trim

/-- What follows the mark on the first line that reports a fault, without the blanks around it. -/
def markedFault? (stdout : String) : Option (List Char) :=
  ((Text.lines stdout.toList).findSome? (Text.after? faultMark.toList)).map Text.trim

/-- How a process ended, in words. -/
def exitText (code signal : Option Int) : String :=
  match code, signal with
  | some code, _ => s!"process failed with exit code {code}"
  | none, some signal => s!"process killed by signal {signal}"
  | none, none => "process failed"

/-- The outcome of a run that ended by itself with a code or was ended by a signal. -/
def ofRun (code signal : Option Int) (stdout stderr : String) : Outcome :=
  if code = some 0 then
    match lastWord? stdout with
    | none => .faulted "workload produced no output"
    | some line =>
      match Json.read line with
      | .ok v => .returned v
      | .error _ => .faulted ("unparseable workload output: " ++ String.ofList line)
  else
    match markedFault? stdout with
    | some message => .faulted (String.ofList message)
    | none =>
      let complaint := Text.trimmed stderr
      .faulted (exitText code signal ++ if complaint = "" then "" else ": " ++ complaint)

def byName : List (String × Nat) := [("returned", 0), ("faulted", 1), ("timed_out", 2)]

def toJson : Outcome → Json
  | .returned v => .obj [("status", .str "returned"), ("detail", v)]
  | .faulted m => .obj [("status", .str "faulted"), ("detail", .str m)]
  | .timedOut => .obj [("status", .str "timed_out")]

/-- The outcome with the given name and detail. -/
def decodeDetail (kind : Nat) (detail : Option Json) : Decode.Result Outcome :=
  match kind, detail with
  | 0, some v => .ok (.returned v)
  | 1, some v => (Decode.string v).map .faulted
  | 0, none => .error (.missingField "detail")
  | 1, none => .error (.missingField "detail")
  | _, none => .ok .timedOut
  | _, some .null => .ok .timedOut
  | _, some v => Decode.wrongType v "unit variant ExecutionOutcome::TimedOut"

/-- What messages call an outcome. -/
def expected : String := "adjacently tagged enum ExecutionOutcome"

/-- The kind of outcome that stands first in a list. It can only be named. -/
def decodeName : Json → Decode.Result Nat
  | .str name => Decode.named byName name
  | v => Decode.wrongType v "variant identifier"

/-- Decodes an outcome: an object with a status and a detail, or a list of the two. -/
def decode : Json → Decode.Result Outcome
  | .obj fields =>
    match Json.lookup "status" fields with
    | none => .error (.missingField "status")
    | some status => do
      let kind ← Decode.choice byName status
      decodeDetail kind (Json.lookup "detail" fields)
  | .arr [] => .error (.wrongLength 0 expected)
  | .arr (status :: rest) => do
    let kind ← decodeName status
    match rest with
    | [] => .error (.wrongLength 1 expected)
    | detail :: more =>
      let outcome ← decodeDetail kind (some detail)
      if more.isEmpty then return outcome
      else .error (.wrongLength (more.length + 2) "fewer elements in array")
  | v => Decode.wrongType v expected

end Outcome

end SyscallProfiler
