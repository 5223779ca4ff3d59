import SyscallProfiler.Outcome
import SyscallProfiler.Pass.Spawn

/-!
# Running an invocation script

The interpreter loads what its script names, calls it, and reports in one line: the returned value,
or a marked fault message. Everything that the loaded code wrote comes before that line.
-/

namespace SyscallProfiler

namespace Interpreter

/-- The line that reports on a call, without its line feed. -/
def reportLine : Except String Json → String
  | .ok v => v.text
  | .error message => Outcome.faultMark ++ " " ++ message

def exitCode : Except String Json → Nat
  | .ok _ => 0
  | .error _ => 1

/-- Reads a script and makes the call that it asks for. -/
def perform (path : String) : Program (Except String Json) := do
  match ← Script.readAt path with
  | .error e => return .error e.message
  | .ok script => Program.request (.load script.codePath script.input)

/-- Writes a text and passes it on at once. -/
def emit (text : String) : Program (Except WriteError Unit) := do
  match ← Program.request (.write text) with
  | .error e => return .error e
  | .ok () => Program.request .flush

/-- Runs the script at a path. The result is the exit code. -/
def run (path : String) : Program Nat := do
  let result ← perform path
  Program.request .flushLoaded
  match ← emit (reportLine result ++ "\n") with
  | .error _ => return 1
  | .ok () => return exitCode result

end Interpreter

end SyscallProfiler
