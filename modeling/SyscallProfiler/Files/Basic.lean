import SyscallProfiler.Files.Path
import SyscallProfiler.Loader.NativeUnit
import SyscallProfiler.OsError
import SyscallProfiler.Text.Utf8

/-!
# A tree of files

Files are a tree with symbolic links. Looking up a path goes from directory to directory and
follows links, at most forty of them. Directories list their entries in the order in which they
were created; nothing depends on that order.
-/

namespace SyscallProfiler

/-- Something a directory has under a name. -/
inductive Node where
  | file (content : List UInt8) (executable : Bool)
  /-- A loadable object. -/
  | unit (u : NativeUnit)
  /-- A program of the system. -/
  | tool (name : String)
  /-- A device: reading gives nothing, or zeros without end; writing is lost. -/
  | device (zeros : Bool)
  | directory (entries : List (String × Node))
  | link (target : String)
deriving Inhabited, Repr

/-- Where something is: the names on the way from the root, without links. -/
abbrev Location := List String

namespace Node

def child? : Node → String → Option Node
  | .directory entries, name => (entries.find? fun (n, _) => n == name).map (·.2)
  | _, _ => none

/-- What is at a location below a node. -/
def at? : Node → Location → Option Node
  | node, [] => some node
  | node, name :: rest => (node.child? name).bind fun n => n.at? rest

/-- Replaces, adds or removes the entry with the given name. -/
def setEntry (name : String) (new : Option Node) :
    List (String × Node) → List (String × Node)
  | [] => (new.map fun n => (name, n)).toList
  | (k, n) :: rest =>
    if k == name then (new.map fun n => (name, n)).toList ++ rest
    else (k, n) :: setEntry name new rest

/-- Changes what is at a location below a node: `none` stands for nothing there. A location whose
directory does not exist is left alone. -/
def alter (change : Option Node → Option Node) : Location → Node → Node
  | [], node => (change (some node)).getD node
  | [name], .directory entries =>
    .directory (setEntry name (change ((Node.directory entries).child? name)) entries)
  | name :: rest, .directory entries =>
    match (Node.directory entries).child? name with
    | some n => .directory (setEntry name (some (alter change rest n)) entries)
    | none => .directory entries
  | _ :: _, node => node

def isDirectory : Node → Bool
  | .directory _ => true
  | _ => false

/-- The octets that reading a node gives. A loadable object begins with octets that are no text. -/
def octets : Node → List UInt8
  | .file content _ => content
  | .unit _ | .tool _ => [0x7F, 0x45, 0x4C, 0x46, 0xFF] ++ List.replicate 59 0
  | _ => []

end Node

/-- A tree of files. -/
structure Files where
  root : Node
deriving Inhabited, Repr

namespace Files

/-- Where a path leads. -/
inductive Place where
  /-- To something that is there. -/
  | found (at_ : Location) (node : Node)
  /-- To a name that a directory does not have. -/
  | vacant (directory : Location) (name : String)
deriving Inhabited, Repr

/-- How many links a path may lead through. -/
def maxLinks : Nat := 40

/-- What is at a location. -/
def at? (files : Files) (location : Location) : Option Node := files.root.at? location

/-- Follows the parts of a path from a directory. -/
def walk (files : Files) (links : Nat) (here : Location) (todo : List String) :
    Except OsError Place :=
  match todo with
  | [] =>
    match files.at? here with
    | some node => .ok (.found here node)
    | none => .error .noSuchFile
  | name :: rest =>
    if name = "" ∨ name = "." then walk files links here rest
    else if name = ".." then walk files links here.dropLast rest
    else if Path.isLongPart name then .error .nameTooLong
    else
      match files.at? (here ++ [name]) with
      | none =>
        if rest.isEmpty then .ok (.vacant here name)
        else if rest.all (· == "") then .error .isADirectory
        else .error .noSuchFile
      | some (.link target) =>
        match links with
        | 0 => .error .tooManyLinks
        | links + 1 =>
          let start := if Path.isAbsolute target then [] else here
          walk files links start (Path.components target ++ rest)
      | some (.directory _) => walk files links (here ++ [name]) rest
      | some node =>
        if rest.isEmpty then .ok (.found (here ++ [name]) node) else .error .notADirectory
termination_by (links, todo.length)

/-- Looks up a path from the directory `cwd`. -/
def place (files : Files) (cwd : Location) (path : String) : Except OsError Place :=
  if Path.hasNul path then .error .nulInPath
  else if path = "" then .error .noSuchFile
  else if Path.isLong path then .error .nameTooLong
  else
    let start := if Path.isAbsolute path then [] else cwd
    files.walk maxLinks start (Path.components path)

/-- What a path leads to, and where that is. -/
def find (files : Files) (cwd : Location) (path : String) : Except OsError (Location × Node) :=
  match files.place cwd path with
  | .error .isADirectory => .error .noSuchFile
  | .error e => .error e
  | .ok (.found at_ node) => .ok (at_, node)
  | .ok (.vacant _ _) => .error .noSuchFile

/-- The entry of a directory that a path names. A link that the path ends in is not followed. -/
def entry (files : Files) (cwd : Location) (path : String) : Except OsError (Location × Node) :=
  let parts := (Path.components path).filter fun part => part != "" && part != "."
  match parts.getLast? with
  | none => files.find cwd path
  | some ".." => files.find cwd path
  | some name =>
    if Path.isLong path then .error .nameTooLong
    else
    let start := if Path.isAbsolute path then [] else cwd
    match files.walk maxLinks start parts.dropLast with
    | .error e => .error e
    | .ok (.vacant _ _) => .error .noSuchFile
    | .ok (.found directory node) =>
      if !node.isDirectory then .error .notADirectory
      else if Path.isLongPart name then .error .nameTooLong
      else
        match files.at? (directory ++ [name]) with
        | none => .error .noSuchFile
        | some node => .ok (directory ++ [name], node)

/-- Whether a path leads to something. -/
def has (files : Files) (cwd : Location) (path : String) : Bool :=
  match files.find cwd path with
  | .ok _ => true
  | .error _ => false

def isDirectory (files : Files) (cwd : Location) (path : String) : Bool :=
  match files.find cwd path with
  | .ok (_, node) => node.isDirectory
  | .error _ => false

def readOctets (files : Files) (cwd : Location) (path : String) :
    Except OsError (List UInt8) :=
  match files.find cwd path with
  | .error e => .error e
  | .ok (_, .directory _) => .error .isADirectory
  | .ok (_, node) => .ok node.octets

def readText (files : Files) (cwd : Location) (path : String) : Except OsError String :=
  match files.readOctets cwd path with
  | .error e => .error e
  | .ok octets =>
    match Text.Utf8.decode? octets with
    | some s => .ok s
    | none => .error .notText

/-- Puts a node at a location whose directory exists. -/
def put (files : Files) (location : Location) (node : Node) : Files :=
  ⟨files.root.alter (fun _ => some node) location⟩

def remove (files : Files) (location : Location) : Files :=
  ⟨files.root.alter (fun _ => none) location⟩

/-- Changes the content of the file at a location. -/
def edit (files : Files) (location : Location) (change : List UInt8 → List UInt8) : Files :=
  ⟨files.root.alter
    (fun
      | some (.file content executable) => some (.file (change content) executable)
      | other => other)
    location⟩

/-- Opens a file for writing and creates it, empty, if it is not there. -/
def create (files : Files) (cwd : Location) (path : String) :
    Except OsError (Location × Files) :=
  match files.place cwd path with
  | .error e => .error e
  | .ok (.found _ (.directory _)) => .error .isADirectory
  | .ok (.found at_ _) => .ok (at_, files)
  | .ok (.vacant directory name) =>
    .ok (directory ++ [name], files.put (directory ++ [name]) (.file [] false))

/-- Makes the directories of a location that are missing below `here`. -/
def makeLocation (files : Files) (here : Location) : List String → Files
  | [] => files
  | name :: rest =>
    let files :=
      match files.at? (here ++ [name]) with
      | none => files.put (here ++ [name]) (.directory [])
      | some _ => files
    files.makeLocation (here ++ [name]) rest

/-- Makes a directory and the directories above it, as far as they are missing. What stands in the
way is the end of it; what was made before stays. -/
def makeDirectories (files : Files) (links : Nat) (here : Location) (todo : List String) :
    Except OsError Unit × Files :=
  match todo with
  | [] => (.ok (), files)
  | name :: rest =>
    if name = "" ∨ name = "." then files.makeDirectories links here rest
    else if name = ".." then files.makeDirectories links here.dropLast rest
    else if Path.isLongPart name then (.error .nameTooLong, files)
    else
      match files.at? (here ++ [name]) with
      | none =>
        (files.put (here ++ [name]) (.directory [])).makeDirectories links (here ++ [name]) rest
      | some (.link target) =>
        match links with
        | 0 => (.error .tooManyLinks, files)
        | links + 1 =>
          match files.place here target with
          | .ok (.found at_ (.directory _)) => files.makeDirectories links at_ rest
          | .ok (.found _ _) =>
            (.error (if rest.all (· == "") then .exists_ else .notADirectory), files)
          | .ok (.vacant _ _) => (.error .exists_, files)
          | .error e => (.error e, files)
      | some (.directory _) => files.makeDirectories links (here ++ [name]) rest
      | some _ => (.error (if rest.all (· == "") then .exists_ else .notADirectory), files)
termination_by todo.length

/-- Makes the directory that a path names and the directories above it, as far as they are
missing. -/
def makePath (files : Files) (cwd : Location) (path : String) : Except OsError Unit × Files :=
  if Path.hasNul path then (.error .nulInPath, files)
  else if Path.isLong path then (.error .nameTooLong, files)
  else
    let start := if Path.isAbsolute path then [] else cwd
    files.makeDirectories maxLinks start (Path.components path)

/-- Puts a node at a location, with the directories above it. -/
def install (files : Files) (location : Location) (node : Node) : Files :=
  (files.makeLocation [] location.dropLast).put location node

end Files

end SyscallProfiler
