import SyscallProfiler.Machine.Control

/-!
# Redirecting the descriptors of a shell

Descriptors are redirected one after the other. What they were before is kept in private
descriptors, and a frame on the stack puts them back.
-/

namespace SyscallProfiler.Machine

def openProblem (creates : Bool) (path : String) (e : OsError) : String :=
  let missing := e = .noSuchFile || e = .notADirectory
  if creates then
    s!"cannot create {path}: " ++ if missing then "Directory nonexistent" else e.plain
  else s!"cannot open {path}: " ++ if missing then "No such file" else e.plain

/-- Opens a path for a shell. A path that stands for a descriptor gives the handle of it. -/
def openPath (m : Machine) (handles : Handles) (creates : Bool) (path : String)
    (open_ : Except OsError (Machine × Handle)) : Except String (Machine × Handle) :=
  match descriptorPath? path with
  | some n =>
    match handles.get? n with
    | some (.file id) =>
      match m.opened? id with
      | some o => .ok (m.openAt o.location (!creates) creates false)
      | none => .error (openProblem creates path .noSuchFile)
    | some handle => .ok (m, handle)
    | none => .error (openProblem creates path .noSuchFile)
  | none => open_.mapError (openProblem creates path)

/-- Whether a path leads to a plain file, which a shell may be told to leave alone. -/
def isPlainFile (m : Machine) (p : Process) (path : String) : Bool :=
  match m.find p.directory path with
  | .ok (_, .file _ _) => true
  | .ok (_, .unit _) => true
  | .ok (_, .tool _) => true
  | _ => false

def redirectOne (m : Machine) (p : Process) (v : Shell.Variables) (handles : Handles)
    (r : Shell.Redirect) (target : String) : Except String (Machine × Handles) := do
  let opened (creates : Bool) (open_ : Except OsError (Machine × Handle)) :
      Except String (Machine × Handles) :=
    (m.openPath handles creates target open_).map fun (m, h) => (m, handles.set r.descriptor h)
  match r.kind with
  | .read => opened false (m.openForReading p.directory target)
  | .readWrite => opened true (m.openForBoth p.directory target)
  | .append => opened true (m.openForWriting p.directory false target)
  | .write force =>
    if v.has 'C' && !force && m.isPlainFile p target then
      .error s!"cannot create {target}: {OsError.exists_.plain}"
    else opened true (m.openForWriting p.directory true target)
  | .text =>
    let (pipe, m) := m.addPipe false
    return (m.setContent pipe (Text.Octets.bytes target), handles.set r.descriptor (.pipeOut pipe))
  | .same =>
    match Shell.descriptorNamed? target with
    | some (some d) =>
      match handles.get? d with
      | some h => return (m, handles.set r.descriptor h)
      | none => .error s!"{d}: {OsError.badDescriptor.plain}"
    | _ => return (m, handles.close r.descriptor)

/-- Does redirections one after the other. What cannot be done is left, with a message. -/
def redirectAll (p : Process) (v : Shell.Variables) : List (Shell.Redirect × String) →
    Machine → Handles → Machine × Handles × Option String
  | [], m, handles => (m, handles, none)
  | (r, target) :: rest, m, handles =>
    match m.redirectOne p v handles r target with
    | .error e => (m, handles, some e)
    | .ok (m, handles) => redirectAll p v rest m handles

/-- Saves the handles of descriptors that are going to be redirected. -/
def saveHandles : List Nat → Handles → Handles × List (Nat × Option Nat)
  | [], handles => (handles, [])
  | d :: rest, handles =>
    let (handles, place) :=
      match handles.get? d with
      | none => (handles, none)
      | some h => (handles.set handles.free h, some handles.free)
    let (handles, saved) := saveHandles rest handles
    (handles, (d, place) :: saved)

/-- Redirects descriptors of a shell until a frame puts them back. The message says what could not
be done; then everything is put back already. -/
def redirectShell (m : Machine) (p : Process) (s : ShellState)
    (targets : List (Shell.Redirect × String)) (whole : Bool) :
    Machine × Process × ShellState × Option String :=
  if targets.isEmpty then (m, p, s, none)
  else
    let (kept, saved) := saveHandles (targets.map (·.1.descriptor)).eraseDups p.handles
    -- what has been put aside is held while files are opened
    let m := m.setHandles p.pid kept
    let (m, handles, problem) := redirectAll p s.vars targets m kept
    let (handles, s) :=
      match problem with
      | some _ => (restoreHandles handles saved, s)
      | none => (handles, { s with stack := .restoring saved whole :: s.stack })
    (m.setHandles p.pid handles, { p with handles }, s, problem)

/-- The handle for complaints as it was before the redirections on top of the stack. -/
def errorsBefore (p : Process) (s : ShellState) : Option Handle :=
  match s.stack with
  | .restoring saved _ :: _ =>
    match saved.find? fun (d, _) => d == 2 with
    | some (_, some place) => p.handles.get? place
    | some (_, none) => none
    | none => p.handles.get? 2
  | _ => p.handles.get? 2

/-- Forgets what redirections have put aside, so that they stay. -/
def keepRedirections (m : Machine) (p : Process) (s : ShellState) :
    Machine × Process × ShellState :=
  match s.stack with
  | .restoring saved _ :: rest =>
    let handles := saved.foldl (fun h (_, place) => (place.map h.close).getD h) p.handles
    (m.setHandles p.pid handles, { p with handles }, { s with stack := rest })
  | _ => (m, p, s)

end SyscallProfiler.Machine
