import SyscallProfiler.Files.Tree
import SyscallProfiler.Workload.Registry

/-!
# Finding workloads in a directory tree

A unit's code is a file `function.so` that lies at least four levels below the root, as in
`<root>/<category>/<name>/<runtime>/function.so`. The first two levels are the unit's category and
name. A registry found this way has its units in ascending order of category and name, each pair
once.
-/

namespace SyscallProfiler

namespace Registry

/-- The file name of a unit's code. -/
def codeFile : String := "function.so"

/-- The file name of the description of a unit's input. -/
def inputFile : String := "input.json"

/-- The unit whose code is at `path`, reached from the root by the given names. -/
def unitAt? (path : String) : (names : List String) → Option Workload
  | category :: name :: _ :: _ :: _ =>
    some
      { name
        category
        codePath := path
        inputPath := Path.withFileName path inputFile }
  | _ => none

mutual

/-- The units below an entry: `path` is its path and `names` the names that lead to it. -/
def unitsIn (path : String) (names : List String) : Tree → List Workload
  | .leaf =>
    if names.getLast? = some codeFile then (unitAt? path names).toList else []
  | .directory entries => unitsInEntries path names entries

/-- The units below the entries of a directory. -/
def unitsInEntries (path : String) (names : List String) : List (String × Tree) → List Workload
  | [] => []
  | (name, tree) :: rest =>
    unitsIn (Path.join path name) (names ++ [name]) tree ++ unitsInEntries path names rest

end

/-- Whether a unit comes before another, or has the same category and name. -/
def notAfter (u v : Workload) : Bool :=
  if u.category = v.category then u.name ≤ v.name else u.category < v.category

/-- Keeps the first of each run of units with the same category and name. -/
def dropRepeats : List Workload → List Workload
  | [] => []
  | [u] => [u]
  | u :: v :: rest =>
    if u.category = v.category ∧ u.name = v.name then dropRepeats (u :: rest)
    else u :: dropRepeats (v :: rest)
termination_by units => units.length

/-- The registry of the units that a tree holds. A root that is no directory holds none. -/
def ofTree (root : String) : Tree → Registry
  | .leaf => ofUnits []
  | .directory entries =>
    ofUnits (dropRepeats ((unitsInEntries root [] entries).mergeSort notAfter))

/-- The registry of the units below the directory that a path leads to. -/
def ofDirectory (files : Files) (cwd : Location) (root : String) : Registry :=
  ofTree root (files.tree cwd root)

end Registry

end SyscallProfiler
