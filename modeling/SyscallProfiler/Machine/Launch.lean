import SyscallProfiler.Machine.State

/-!
# Starting programs

A program is a tool of the system or a file that names its interpreter in its first line. A name
without a slash is looked for in the directories for programs.
-/

namespace SyscallProfiler.Machine

/-- The directories for programs, in the order in which they are searched. -/
def programDirectories : List String := ["/usr/local/bin", "/usr/bin", "/bin"]

/-! ## The first line of a script -/

/-- How much of a file is looked at to find out what it is. -/
def headLength : Nat := 256

/-- Whether an octet is a blank in the first line of a script. -/
def isGap (b : UInt8) : Bool := b == 32 || b == 9

/-- The octets before the first one that ends a word of the line, and the octets from there on. -/
def spanWord (line : List UInt8) : List UInt8 × List UInt8 :=
  let word := line.takeWhile fun b => !isGap b && b != 0
  (word, line.drop word.length)

/-- The argument in what follows the interpreter. In a line that ends with the file, a blank stands
before an argument even if there is nothing to it. -/
def argumentIn (rest : List UInt8) : List String :=
  match rest with
  | b :: _ =>
    if isGap b then
      match rest.dropWhile isGap with
      | [] => []
      | argument => [Text.Octets.ofBytes (argument.takeWhile (· != 0))]
    else []
  | [] => []

/-- The interpreter that the first line of a file names, and its argument; nothing for a file that
names none. Only the beginning of the file counts. -/
def interpreterLine? (content : List UInt8) : Option (String × List String) :=
  let head := content.take headLength
  match head with
  | 35 :: 33 :: rest =>
    let whole := rest.contains 10
    -- a line that does not end is followed by octets that are zero
    let line :=
      if whole then ((rest.takeWhile (· != 10)).reverse.dropWhile isGap).reverse
      else rest.take (headLength - 3) ++ List.replicate (headLength - 3 - rest.length) 0
    let (word, later) := spanWord (line.dropWhile isGap)
    let isKnown := whole || !later.isEmpty
    if !isKnown || (line.dropWhile isGap).isEmpty || (whole && word.isEmpty) then none
    else some (Text.Octets.ofBytes word, argumentIn later)
  | _ => none

/-! ## Executing -/

/-- What executing a file amounts to. The path of a script stands before its arguments. `fuel`
bounds the number of interpreters of interpreters. -/
def execute (m : Machine) (directory : Location) (environment : List (String × String)) :
    (fuel : Nat) → (path called : String) → (args : List String) → Except OsError Image
  | fuel, path, called, args =>
    match m.find directory path with
    | .error e => .error e
    | .ok (_, .directory _) => .error .permissionDenied
    | .ok (_, .device _) => .error .permissionDenied
    | .ok (_, .unit _) => .error .permissionDenied
    | .ok (_, .link _) => .error .noSuchFile
    | .ok (_, .tool name) =>
      match fuel with
      | 0 => .error .tooManyLinks
      | _ + 1 => .ok (.tool name called args environment)
    | .ok (_, .file content executable) =>
      if !executable then .error .permissionDenied
      else
        match fuel with
        | 0 => .error .tooManyLinks
        | fuel + 1 =>
          match interpreterLine? content with
          | none => .error .cannotExecute
          | some (program, argument) =>
            execute m directory environment fuel program program (argument ++ path :: args)

/-- How many files may be looked at to execute one: scripts, and the program at the end. -/
def maxInterpreters : Nat := 6

/-- What is known about a program that is searched for: whether a directory had it without
allowing it to be executed. -/
def search (m : Machine) (directory : Location) (environment : List (String × String))
    (program : String) (args : List String) (found : OsError) :
    List String → Except OsError (String × Image)
  | [] => .error found
  | place :: rest =>
    let path := if place = "" then program else Path.join place program
    match execute m directory environment maxInterpreters path program args with
    | .ok image => .ok (path, image)
    | .error .permissionDenied =>
      search m directory environment program args .permissionDenied rest
    | .error .noSuchFile => search m directory environment program args found rest
    | .error .notADirectory => search m directory environment program args found rest
    | .error e => .error e

/-- Executes a program: its path and what it executes. `path` says where programs are searched. -/
def launchIn (m : Machine) (directory : Location) (path : List String)
    (environment : List (String × String)) (program : String) (args : List String) :
    Except OsError (String × Image) :=
  if program = "" then .error .noSuchFile
  else if program.toList.contains '/' then
    (execute m directory environment maxInterpreters program program args).map fun image =>
      (program, image)
  else search m directory environment program args .noSuchFile path

def pathOf (environment : List (String × String)) : List String :=
  match environment.find? fun (n, _) => n == "PATH" with
  | some (_, value) => value.splitOn ":"
  | none => ["/bin", "/usr/bin"]

/-- Executes a program as its environment says. -/
def launch (m : Machine) (directory : Location) (environment : List (String × String))
    (program : String) (args : List String) : Except OsError (String × Image) :=
  m.launchIn directory (pathOf environment) environment program args

/-! ## New processes -/

/-- How long it takes until a new process runs, or a process that executes something new. -/
def startNanos : Nat := 500000

/-- Adds a process under the next number. -/
def addProcess (m : Machine) (make : Nat → Process) : Nat × Machine :=
  (m.nextPid,
    { m with nextPid := m.nextPid + 1, processes := m.processes ++ [make m.nextPid] })

def fork (m : Machine) (p : Process) (image : Image) (handles : Handles)
    (ignored : List Nat) : Nat × Machine :=
  m.addProcess fun pid =>
    { pid, image, handles, ignored
      parent := p.pid
      group := p.group
      session := p.session
      directory := p.directory
      mask := p.mask
      wakeAt := m.now + startNanos
      stopped := false
      held := []
      ended := none
      reaped := false }

/-- Starts a child that has the handles of its parent and takes signals as its parent does. -/
def forkPlainly (m : Machine) (p : Process) (image : Image) : Nat × Machine :=
  m.fork p image p.handles.handedOn p.ignored

def become (m : Machine) (pid : Nat) (image : Image) : Machine :=
  m.update pid fun p =>
    { p with image, handles := p.handles.handedOn, wakeAt := m.now + startNanos }

def setHandles (m : Machine) (pid : Nat) (handles : Handles) : Machine :=
  m.update pid fun p => { p with handles }

end SyscallProfiler.Machine
