import SyscallProfiler.Files.Basic

/-!
# What a directory shows

Seen through its links, a directory is a finite tree whose leaves are everything that is not a
directory. A link that leads nowhere, or through too many links, is a leaf.
-/

namespace SyscallProfiler

/-- A directory tree without links. -/
inductive Tree where
  | leaf
  | directory (entries : List (String × Tree))
deriving Inhabited, Repr

namespace Files

/-- The tree below a location. `links` is how many more links the way down may lead through, and
`depth` bounds the way down. -/
def treeAt (files : Files) : (depth links : Nat) → Location → Tree
  | 0, _, _ => .leaf
  | depth + 1, links, location =>
    match files.at? location with
    | some (.directory entries) =>
      .directory (entries.map fun (name, node) =>
        let below :=
          match node with
          | .directory _ => files.treeAt depth links (location ++ [name])
          | .link target =>
            match links with
            | 0 => Tree.leaf
            | links + 1 =>
              let start := if Path.isAbsolute target then [] else location
              match files.walk links start (Path.components target) with
              | .ok (.found at_ (.directory _)) => files.treeAt depth links at_
              | _ => Tree.leaf
          | _ => Tree.leaf
        (name, below))
    | _ => .leaf

mutual

/-- How deep the entries of a node are nested. -/
def height : Node → Nat
  | .directory entries => heightEntries entries + 1
  | _ => 0

def heightEntries : List (String × Node) → Nat
  | [] => 0
  | (_, node) :: rest => max (height node) (heightEntries rest)

end

/-- The tree that a path shows, if it leads to a directory. -/
def tree (files : Files) (cwd : Location) (path : String) : Tree :=
  match files.find cwd path with
  | .ok (location, .directory _) =>
    files.treeAt ((maxLinks + 1) * (height files.root + 1)) maxLinks location
  | _ => .leaf

end Files

end SyscallProfiler
