import SyscallProfiler.Artifact

/-!
# Command lines of the collector

The collector is an external tracer of system calls. It takes `-c` to count calls instead of
listing them, `-f` to follow new processes, `-p` with a process to attach to, `-o` with the file
to write, and after its options the command to start.
-/

namespace SyscallProfiler

/-- A collector that is to record one artifact. -/
structure Collector where
  program : String
  granularity : Granularity
  output : String
deriving DecidableEq, Repr, Inhabited

namespace Collector

/-- The option that selects what is recorded. -/
def granularityArgs (c : Collector) : List String :=
  match c.granularity with
  | .summary => ["-c"]
  | .full => []

/-- The option that names the artifact. -/
def outputArgs (c : Collector) : List String := ["-o", c.output]

/-- The arguments that attach the collector to a process. -/
def attachArgs (c : Collector) (pid : Nat) : List String :=
  c.granularityArgs ++ ["-p", toString pid] ++ c.outputArgs

/-- The arguments that make the collector start an interpreter on a script. -/
def spawnArgs (c : Collector) (interpreter : List String) (script : String) : List String :=
  c.granularityArgs ++ ["-f"] ++ c.outputArgs ++ interpreter ++ [script]

end Collector

end SyscallProfiler
