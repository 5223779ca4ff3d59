import SyscallProfiler.Payload
import SyscallProfiler.Text.Blank
import SyscallProfiler.Workload.Basic

/-!
# The registry of workloads

A registry is a list of units and a table of inputs by unit name. A unit is asked for by its exact
name or by a part of it; its input is the one in the table, or a placeholder.
-/

namespace SyscallProfiler

/-- The known workloads and the inputs given to them. -/
structure Registry where
  units : List Workload
  inputs : List (String × Payload)
deriving Inhabited

namespace Registry

/-- The inputs of the benchmark suite. -/
def suiteInputs : List (String × Payload) :=
  Json.sortFields
    [("110.dynamic-html", .ofPairs [("username", .str "testuser"), ("random_len", .int 10)]),
      ("130.crud-api", .ofPairs [("action", .str "get"), ("id", .str "1")]),
      ("210.thumbnailer", .ofPairs [("image", .str "test.jpg"), ("size", .int 100)]),
      ("220.video-processing", .ofPairs [("video", .str "test.mp4")]),
      ("311.compression", .ofPairs [("text", .str "Hello World")]),
      ("411.image-recognition", .ofPairs [("image", .str "test.jpg")]),
      ("501.graph-pagerank", .ofPairs [("size", .int 10)]),
      ("502.graph-mst", .ofPairs [("size", .int 10)]),
      ("503.graph-bfs", .ofPairs [("size", .int 10)]),
      ("504.dna-visualisation", .ofPairs [("sequence", .str "ATCGATCG")]),
      ("020.network-benchmark", .ofPairs [("port", .int 8080)]),
      ("030.clock-synchronization", .ofPairs [("time", .str "12:00:00")]),
      ("040.server-reply", .ofPairs [("message", .str "hello")]),
      ("010.sleep", .ofPairs [("sleep_time", .int 1)]),
      ("120.uploader", .ofPairs [("file", .str "test.txt"), ("content", .str "hello world")])]

/-- The registry of the given units with the inputs of the benchmark suite. -/
def ofUnits (units : List Workload) : Registry := ⟨units, suiteInputs⟩

/-- The registry with the inputs of a table put over its own. A payload replaces the earlier one
of its unit as a whole. -/
def override (r : Registry) (table : List (String × Payload)) : Registry :=
  { r with inputs :=
      table.foldl (fun inputs (name, payload) => Json.insert name payload inputs) r.inputs }

/-- The first unit with exactly the given name. -/
def find? (r : Registry) (name : String) : Option Workload :=
  r.units.find? fun u => u.name == name

/-- Whether a unit's name contains the text of a query. -/
def matches_ (query : String) (u : Workload) : Bool :=
  Text.contains query.toList u.name.toList

/-- The unit that a query asks for: the first with exactly that name, else the first whose name
contains it. The empty query asks for nothing. -/
def resolve? (r : Registry) (query : String) : Option Workload :=
  if query = "" then none
  else (r.find? query).or (r.units.find? (matches_ query))

/-- The input of the unit with the given name. -/
def inputOf (r : Registry) (name : String) : Payload :=
  (Json.lookup name r.inputs).getD .placeholder

end Registry

end SyscallProfiler
