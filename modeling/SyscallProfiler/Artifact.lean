import SyscallProfiler.Decode
import SyscallProfiler.Files.Path

/-!
# Passes and their artifacts

A workload is profiled in three passes: twice inside the running program, with the collector
attached, and once in a fresh process under the collector. Every collector run leaves one artifact,
whose file name says how the collector reached its target, what it recorded, and of which workload.
-/

namespace SyscallProfiler

/-- What the collector records. -/
inductive Granularity where
  /-- Counts and times per system call. -/
  | summary
  /-- Every single call. -/
  | full
deriving DecidableEq, Repr, Inhabited

/-- How the collector reaches its target. -/
inductive Reach where
  /-- It attaches to a running process. -/
  | attach
  /-- It starts a process. -/
  | spawn
deriving DecidableEq, Repr, Inhabited

/-- One of the three measurements of a workload. -/
inductive Pass where
  | attachSummary
  | attachFull
  | spawn
deriving DecidableEq, Repr, Inhabited

namespace Granularity

def name : Granularity → String
  | .summary => "summary"
  | .full => "full"

def byName : List (String × Granularity) := [("summary", .summary), ("full", .full)]

def decode : Json → Decode.Result Granularity := Decode.choice byName

end Granularity

namespace Reach

def name : Reach → String
  | .attach => "attach"
  | .spawn => "spawn"

def byName : List (String × Reach) := [("attach", .attach), ("spawn", .spawn)]

def decode : Json → Decode.Result Reach := Decode.choice byName

end Reach

namespace Pass

def name : Pass → String
  | .attachSummary => "attach_summary"
  | .attachFull => "attach_full"
  | .spawn => "spawn"

def byName : List (String × Pass) :=
  [("attach_summary", .attachSummary), ("attach_full", .attachFull), ("spawn", .spawn)]

def decode : Json → Decode.Result Pass := Decode.choice byName

/-- The pass with the collector attached at a granularity. -/
def attached : Granularity → Pass
  | .summary => .attachSummary
  | .full => .attachFull

/-- What reports call a pass. -/
def label : Pass → String
  | .attachSummary => "Attach-mode profiling (summary)"
  | .attachFull => "Attach-mode profiling (full)"
  | .spawn => "Spawn-mode profiling"

end Pass

namespace Artifact

/-- How the file names of artifacts begin. -/
def stem : Reach → String
  | .attach => "attach"
  | .spawn => "fullpython"

/-- The file name of an artifact. -/
def fileName (reach : Reach) (granularity : Granularity) (workload : String) : String :=
  stem reach ++ "_" ++ granularity.name ++ "_" ++ workload ++ ".txt"

/-- The path of an artifact in its directory. -/
def path (directory : String) (reach : Reach) (granularity : Granularity) (workload : String) :
    String :=
  Path.join directory (fileName reach granularity workload)

end Artifact

end SyscallProfiler
