import SyscallProfiler.Machine.FileTools
import SyscallProfiler.Machine.Filters

/-!
# Filters at work

A filter opens its sources one after the other and reads them piece by piece. What it writes early
is always the beginning of what it would write in the end.
-/

namespace SyscallProfiler.Machine

def surroundings (m : Machine) (p : Process) : Filter.Surroundings where
  content path :=
    match m.find p.directory path with
    | .ok (_, node) => if node.isDirectory then none else some node.octets
    | .error _ => none
  names path :=
    match m.find p.directory path with
    | .ok (location, .directory _) => some (m.namesAt location)
    | _ => none

def setFilter (m : Machine) (pid : Nat) (f : Filter) : Machine :=
  m.update pid fun p => { p with image := .filter f }

def beginFilter (m : Machine) (p : Process) (name called : String) (args : List String) :
    Machine :=
  match Filter.workOf (m.surroundings p) name called args with
  | .error (text, status) => m.complain p.pid text status
  | .ok work => m.setFilter p.pid (Filter.start name called args work.sources)

/-! ## Copies -/

/-- Gives a process a descriptor for each file that it is to write to besides. -/
def openCopies (p : Process) (called : String) (truncate : Bool) : List String → Machine →
    Machine × Nat
  | [], m => (m, 0)
  | path :: rest, m =>
    let opened : Except OsError (Machine × Handle) :=
      match (descriptorPath? path).bind p.handles.get? with
      | some handle => .ok (m, handle)
      | none => m.openForWriting p.directory truncate path
    match opened with
    | .ok (m, handle) =>
      openCopies p called truncate rest
        (m.update p.pid fun p => { p with handles := p.handles.set p.handles.free handle })
    | .error e =>
      let text := s!"{called}: {Text.Quoting.ifNeeded path}: {e.plain}\n"
      let (m, _) := openCopies p called truncate rest (m.say p.pid 2 text)
      (m, 1)

def beginCopies (m : Machine) (p : Process) (name called : String) (args : List String) : Machine :=
  m.asked p.pid called Filter.copyKnowledge 1 args fun d =>
    let (m, status) := openCopies p called (!d.has 'a') d.operands m
    m.setFilter p.pid { Filter.start name called args ["-"] with status }

/-- Writes what a filter passes on: to its output, and to the files that it keeps open. -/
def passOn (m : Machine) (p : Process) (content : List UInt8) : Machine :=
  ((p.handles.map (·.1)).filter (· ≥ Handles.private_)).foldl
    (fun m descriptor => m.emit p.pid descriptor content) (m.put p.pid content)

/-- How much a pipe holds before its writers have to wait. -/
def fullPipe : Nat := 65536

/-- Whether the output of a process is a pipe that has no room left. -/
def isBlocked (m : Machine) (p : Process) : Bool :=
  match p.handles.get? 1 with
  | some (.pipeIn id) =>
    match m.pipe? id with
    | some pipe => !pipe.outside && m.hasReader id && pipe.content.length ≥ fullPipe
    | none => false
  | _ => false

/-! ## Reading -/

def openSource (m : Machine) (p : Process) (path : String) : Except OsError (Machine × Handle) :=
  let descriptor := if path = "-" then some 0 else descriptorPath? path
  match descriptor with
  | some n =>
    match p.handles.get? n with
    | some handle => .ok (m, handle)
    | none => .error (if path = "-" then .badDescriptor else .noSuchFile)
  | none =>
    match m.find p.directory path with
    | .ok (_, .directory _) => .error .isADirectory
    | _ => m.openForReading p.directory path

def isPlain (m : Machine) (p : Process) (path : String) : Bool :=
  match if path = "-" then p.handles.get? 0 else none with
  | some (.file _) => true
  | some _ => false
  | none =>
    match m.find p.directory path with
    | .ok (_, .file _ _) | .ok (_, .unit _) | .ok (_, .tool _) => true
    | _ => false

/-- What has been read so far, in order; of a source that is still being read, only what settles the
beginning of the output. -/
def settledSoFar (f : Filter) (settled : Filter.Settled) : List Gathered :=
  let content := f.chunks.reverse.flatten
  let known :=
    match settled with
    | .octets => content
    | .lines => (content.reverse.dropWhile (· != 10)).reverse
    | .nothing => []
  f.gathered.reverse ++ [⟨f.source, known, true⟩]

/-- Writes what is known of the output of a filter, in steps of so many octets. -/
def writeEarly (m : Machine) (p : Process) (f : Filter) (work : Filter.Work)
    (known : List Gathered) (step : Nat) : Machine × Filter :=
  let new := (work.finish known).output.drop f.written
  let count := new.length / step * step
  if count = 0 then (m, f)
  else (m.put p.pid (new.take count), { f with written := f.written + count })

/-- How much output a filter keeps back while it reads. -/
def outputStep : Nat := 4096

/-- Whether output is looked at after so many pieces: after each of the first ones, and then ever
more rarely. -/
def isLookTime (count : Nat) : Bool := count < 8 || Nat.pow 2 (Nat.log2 count) = count

def closeSource (m : Machine) (p : Process) (f : Filter) : Filter :=
  { f with
    current := none
    chunks := []
    gathered := ⟨f.source, f.chunks.reverse.flatten, m.isPlain p f.source⟩ :: f.gathered }

/-- Goes on after a source that cannot be read. -/
def setBack (m : Machine) (p : Process) (f : Filter) (work : Filter.Work) (path : String)
    (rest : List String) (e : OsError) : Machine :=
  let early (m : Machine) (f : Filter) : Machine × Filter :=
    if work.bySource then m.writeEarly p f work f.gathered.reverse 1 else (m, f)
  match Filter.setback f.name f.called path e with
  | .ends text status => m.complain p.pid text status
  | .goesOn text status =>
    let (m, f) := early m f
    (m.say p.pid 2 (text ++ "\n")).setFilter p.pid
      { f with current := none, chunks := [], sources := rest, status }
  | .counts text status =>
    let (m, f) := early m { f with gathered := ⟨path, [], e = .badDescriptor⟩ :: f.gathered }
    (m.say p.pid 2 (text ++ "\n")).setFilter p.pid
      { f with current := none, chunks := [], sources := rest, status }

/-- Whether the output of a process goes to the file behind a handle; if so, whether there is still
something to read from it. -/
def readsOutput? (m : Machine) (p : Process) (handle : Handle) : Option Bool :=
  match handle, p.handles.get? 1 with
  | .file source, some (.file output) => do
    let source ← m.opened? source
    let output ← m.opened? output
    if source.location != output.location then none
    else some (source.position < (m.contentAt source.location).length)
  | _, _ => none

def openNext (m : Machine) (p : Process) (f : Filter) (work : Filter.Work) (path : String)
    (rest : List String) : Machine :=
  match m.openSource p path with
  | .ok (opened, handle) =>
    match (opened.readsOutput? p handle).bind (Filter.selfReading? f.name f.called path f.args) with
    | some (text, status) =>
      (m.say p.pid 2 (text ++ "\n")).setFilter p.pid { f with sources := rest, status }
    | none =>
      opened.setFilter p.pid
        { f with current := some handle, source := path, chunks := [], sources := rest }
  | .error e => m.setBack p f work path rest e

/-- Writes to files; what cannot be written is complained about. -/
def writeFiles (p : Process) (called : String) : List (String × List UInt8) → Machine →
    Machine × Bool
  | [], m => (m, true)
  | (path, content) :: rest, m =>
    match m.files.create p.directory (nameOf path) with
    | .ok (location, files) =>
      writeFiles p called rest { m with files := files.edit location fun _ => content }
    | .error e =>
      let m := m.say p.pid 2 s!"{called}: open failed: {path}: {e.plain}\n"
      ((writeFiles p called rest m).1, false)

/-- Ends a filter that has read everything. -/
def finishFilter (m : Machine) (p : Process) (f : Filter) (work : Filter.Work) : Machine :=
  let result := work.finish f.gathered.reverse
  let (m, written) := writeFiles p f.called result.files m
  let code :=
    if !written then 2
    else if f.status != 0 then f.status
    else result.status
  let isClosed := (p.handles.get? 0).isNone && work.sources.contains "-"
  let closing := if isClosed then Filter.closingProblem? f.name f.called else none
  let complaints := result.complaints ++ ((closing.map (· ++ "\n")).getD "")
  m.conclude p.pid (result.output.drop f.written) complaints code

/-- How long a filter rests after a piece. What never ends by itself comes slowly. -/
def restAfter (name : String) (handle : Handle) (length : Nat) : Nat :=
  if name = "yes" then 1000 * length
  else if handle = .zeros then 100 * length
  else 0

def takePiece (m : Machine) (p : Process) (f : Filter) (work : Filter.Work) (handle : Handle)
    (content : List UInt8) : Machine :=
  let rest := m.now + restAfter f.name handle content.length
  let m := m.update p.pid fun p => { p with wakeAt := max p.wakeAt rest }
  match work.piece with
  | some make => m.passOn p (make content)
  | none =>
    let f := { f with chunks := content :: f.chunks }
    let ready :=
      match work.enough with
      | some enough =>
        let all := f.chunks.reverse.flatten
        if enough all then some (work.spare all) else none
      | none => none
    match ready with
    | some spare =>
      let m := m.unread handle spare
      m.setFilter p.pid (m.closeSource p f)
    | none =>
      if work.settled != .nothing && isLookTime f.chunks.length then
        let (m, f) := m.writeEarly p f work (settledSoFar f work.settled) outputStep
        m.setFilter p.pid f
      else m.setFilter p.pid f

/-- Lets a filter go on: nothing if it has to wait. -/
def stepFilter (m : Machine) (p : Process) (f : Filter) : Option Machine :=
  match Filter.workOf (m.surroundings p) f.name f.called f.args with
  | .error (text, status) => some (m.complain p.pid text status)
  | .ok work =>
    match f.current with
    | none =>
      match f.sources with
      | path :: rest => some (m.openNext p f work path rest)
      | [] => some (m.finishFilter p f work)
    | some handle =>
      if work.piece.isSome && m.isBlocked p then none
      else
        match m.read handle chunk with
        | .later => none
        | .failed e => some (m.setBack p f work f.source f.sources e)
        | .finished => some (m.setFilter p.pid (m.closeSource p f))
        | .octets content m => some (m.takePiece p f work handle content)

end SyscallProfiler.Machine
