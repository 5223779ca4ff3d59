import SyscallProfiler.Machine.Process
import SyscallProfiler.Machine.Signals
import SyscallProfiler.Text.Octets

/-!
# A machine in memory

Files, processes, pipes and a clock. One process runs at a time, and everything it does takes some
time. Processes end by themselves or by signals; the end of a process stays to be seen for as long
as its parent is there.
-/

namespace SyscallProfiler

namespace Machine

/-- Octets on their way from writers to readers. What is written is put aside piece by piece, and
joined when it is read. -/
structure Pipe where
  id : Nat
  /-- What is read next. -/
  front : List UInt8
  /-- What was written after that, the latest piece first. -/
  back : List (List UInt8)
  /-- Whether it is read from outside the machine. -/
  outside : Bool
deriving Repr, Inhabited

namespace Pipe

/-- All octets on their way, in the order in which they were written. -/
def content (p : Pipe) : List UInt8 := p.front ++ p.back.reverse.flatten

def push (p : Pipe) (octets : List UInt8) : Pipe := { p with back := octets :: p.back }

@[simp] theorem content_push (p : Pipe) (octets : List UInt8) :
    (p.push octets).content = p.content ++ octets := by
  simp [content, push]

def hold (p : Pipe) (octets : List UInt8) : Pipe := { p with front := octets, back := [] }

@[simp] theorem content_hold (p : Pipe) (octets : List UInt8) :
    (p.hold octets).content = octets := by
  simp [content, hold]

end Pipe

/-- A file that has been opened, and the place in it that is read or written next. -/
structure Opened where
  id : Nat
  location : Location
  position : Nat
  reads : Bool
  writes : Bool
  /-- Whether everything is written to the end. -/
  appends : Bool
deriving Repr, Inhabited

/-- The content of a file after octets have been written at a place. -/
def overwrite (content : List UInt8) (position : Nat) (octets : List UInt8) : List UInt8 :=
  if position = content.length then content ++ octets
  else
    content.take position ++ List.replicate (position - content.length) 0 ++ octets ++
      content.drop (position + octets.length)

end Machine

/-- A machine. Times are in nanoseconds. -/
structure Machine where
  files : Files
  now : Nat
  nextPid : Nat
  nextPipe : Nat
  nextOpened : Nat
  pipes : List Machine.Pipe
  opened : List Machine.Opened
  processes : List Machine.Process
deriving Inhabited

namespace Machine

/-- The number of whoever is outside the machine and starts processes in it. -/
def outsider : Nat := 1000

def spend (m : Machine) (nanos : Nat) : Machine := { m with now := m.now + nanos }

def process? (m : Machine) (pid : Nat) : Option Process :=
  m.processes.find? fun p => p.pid == pid

def update (m : Machine) (pid : Nat) (change : Process → Process) : Machine :=
  { m with processes := m.processes.map fun p => if p.pid == pid then change p else p }

/-- Whether a process is there and has not ended. -/
def isAlive (m : Machine) (pid : Nat) : Bool :=
  match m.process? pid with
  | some p => p.ended.isNone
  | none => false

/-! ## Paths

What processes call a file is a text of octets. -/

/-- What a path leads to, and where that is. -/
def find (m : Machine) (directory : Location) (path : String) :
    Except OsError (Location × Node) :=
  m.files.find directory (Text.Octets.toText path)

def entry (m : Machine) (directory : Location) (path : String) :
    Except OsError (Location × Node) :=
  m.files.entry directory (Text.Octets.toText path)

def place (m : Machine) (directory : Location) (path : String) : Except OsError Files.Place :=
  m.files.place directory (Text.Octets.toText path)

def isDirectory (m : Machine) (directory : Location) (path : String) : Bool :=
  m.files.isDirectory directory (Text.Octets.toText path)

/-- The names in the directory at a location, in order. -/
def namesAt (m : Machine) (location : Location) : List String :=
  match m.files.at? location with
  | some (.directory entries) =>
    (entries.map fun (n, _) => Text.Octets.ofText n).mergeSort (· ≤ ·)
  | _ => []

def absolute (location : Location) : String := "/" ++ "/".intercalate location

/-! ## Pipes -/

def addPipe (m : Machine) (outside : Bool) : Nat × Machine :=
  (m.nextPipe,
    { m with nextPipe := m.nextPipe + 1, pipes := ⟨m.nextPipe, [], [], outside⟩ :: m.pipes })

def pipe? (m : Machine) (id : Nat) : Option Pipe := m.pipes.find? fun p => p.id == id

def updatePipe (m : Machine) (id : Nat) (change : Pipe → Pipe) : Machine :=
  { m with pipes := m.pipes.map fun p => if p.id == id then change p else p }

def setContent (m : Machine) (id : Nat) (content : List UInt8) : Machine :=
  m.updatePipe id (·.hold content)

def dropPipe (m : Machine) (id : Nat) : Machine :=
  { m with pipes := m.pipes.filter fun p => p.id != id }

def holds (p : Process) (handle : Handle) : Bool :=
  p.handles.any (fun (_, h) => h == handle) ||
    match p.image with
    | .filter f => f.current == some handle
    | _ => false

def isHeld (m : Machine) (handle : Handle) : Bool := m.processes.any fun p => holds p handle

/-- Whether something can still be written to a pipe. -/
def hasWriter (m : Machine) (pipe : Nat) : Bool := m.isHeld (.pipeIn pipe)

/-- Whether something can still be read from a pipe. -/
def hasReader (m : Machine) (pipe : Nat) : Bool :=
  ((m.pipe? pipe).map (·.outside)).getD false || m.isHeld (.pipeOut pipe)

/-! ## Open files -/

def opened? (m : Machine) (id : Nat) : Option Opened := m.opened.find? fun o => o.id == id

def moveTo (m : Machine) (id position : Nat) : Machine :=
  { m with opened := m.opened.map fun o => if o.id == id then { o with position } else o }

def openAt (m : Machine) (location : Location) (reads writes appends : Bool) :
    Machine × Handle :=
  ({ m with
      nextOpened := m.nextOpened + 1
      opened := ⟨m.nextOpened, location, 0, reads, writes, appends⟩ :: m.opened },
    .file m.nextOpened)

/-- Forgets the open files that nobody holds any more. -/
def tidy (m : Machine) : Machine :=
  { m with opened := m.opened.filter fun o => m.isHeld (.file o.id) }

def contentAt (m : Machine) (location : Location) : List UInt8 :=
  ((m.files.at? location).map Node.octets).getD []

/-- The descriptor that a path by itself stands for. -/
def descriptorPath? (path : String) : Option Nat :=
  match path with
  | "/dev/stdin" => some 0
  | "/dev/stdout" => some 1
  | "/dev/stderr" => some 2
  | path =>
    match (path.splitOn "/fd/") with
    | [start, n] => if start = "/dev" || start = "/proc/self" then n.toNat? else none
    | _ => none

/-- Opens a file for writing. What is in it already is kept or removed. -/
def openForWriting (m : Machine) (directory : Location) (truncate : Bool) (path : String) :
    Except OsError (Machine × Handle) :=
  match m.find directory path with
  | .ok (_, .device _) => .ok (m, .nothing)
  | _ =>
    match m.files.create directory (Text.Octets.toText path) with
    | .error e => .error e
    | .ok (location, files) =>
      let files := if truncate then files.edit location fun _ => [] else files
      .ok ({ m with files }.openAt location false true (!truncate))

def openForReading (m : Machine) (directory : Location) (path : String) :
    Except OsError (Machine × Handle) :=
  match m.find directory path with
  | .error e => .error e
  | .ok (_, .device true) => .ok (m, .zeros)
  | .ok (_, .device false) => .ok (m, .nothing)
  | .ok (location, _) => .ok (m.openAt location true false false)

/-- Opens a file for both. -/
def openForBoth (m : Machine) (directory : Location) (path : String) :
    Except OsError (Machine × Handle) :=
  match m.find directory path with
  | .ok (_, .device zeros) => .ok (m, if zeros then .zeros else .nothing)
  | _ =>
    match m.files.create directory (Text.Octets.toText path) with
    | .error e => .error e
    | .ok (location, files) => .ok ({ m with files }.openAt location true true false)

/-! ## Reading and writing -/

/-- How much is read at once. -/
def chunk : Nat := 65536

/-- What reading gives. -/
inductive ReadResult where
  /-- Some octets, and the machine afterwards. -/
  | octets (content : List UInt8) (m : Machine)
  | finished
  /-- Nothing yet. -/
  | later
  | failed (e : OsError)

/-- Reads from a handle, at most so many octets. -/
def read (m : Machine) (handle : Handle) (most : Nat) : ReadResult :=
  match handle with
  | .nothing => .finished
  | .zeros => .octets (List.replicate most 0) m
  | .file id =>
    match m.opened? id with
    | none => .finished
    | some o =>
      if !o.reads then .failed .badDescriptor
      else
        match m.files.at? o.location with
        | some (.directory _) => .failed .isADirectory
        | _ =>
          let content := ((m.contentAt o.location).drop o.position).take most
          if content.isEmpty then .finished
          else .octets content (m.moveTo id (o.position + content.length))
  | .pipeIn _ => .failed .badDescriptor
  | .pipeOut id =>
    match m.pipe? id with
    | none => .finished
    | some p =>
      let content := p.content
      if content.isEmpty then if m.hasWriter id then .later else .finished
      else .octets (content.take most) (m.setContent id (content.drop most))

/-- Gives back octets that were read last and are not needed. Only a file takes them. -/
def unread (m : Machine) (handle : Handle) (count : Nat) : Machine :=
  match handle with
  | .file id =>
    match m.opened? id with
    | some o => m.moveTo id (o.position - count)
    | none => m
  | _ => m

/-- What writing comes to. -/
inductive WriteResult where
  | done (m : Machine)
  /-- Nobody reads any more. -/
  | broken
  | failed

def write (m : Machine) (handle : Handle) (content : List UInt8) : WriteResult :=
  match handle with
  | .nothing | .zeros => .done m
  | .file id =>
    match m.opened? id with
    | none => .failed
    | some o =>
      if !o.writes then .failed
      else
        let start := if o.appends then (m.contentAt o.location).length else o.position
        let files := m.files.edit o.location fun old => overwrite old start content
        .done ({ m with files }.moveTo id (start + content.length))
  | .pipeIn id =>
    match m.pipe? id with
    | none => .broken
    | some _ => if m.hasReader id then .done (m.updatePipe id (·.push content)) else .broken
  | .pipeOut _ => .failed

/-! ## The end of processes -/

/-- Whether nobody will ever take notice of the end of a process. -/
def isForgotten (m : Machine) (p : Process) : Bool :=
  p.ended.isSome && p.parent != outsider && !m.isAlive p.parent

/-- Removes processes that have ended and that nobody waits for, and pipes that nobody holds. -/
def sweep (m : Machine) : Machine :=
  let m := { m with processes := m.processes.filter fun p => !m.isForgotten p }
  { m.tidy with
    pipes := m.pipes.filter fun p =>
      p.outside || m.isHeld (.pipeIn p.id) || m.isHeld (.pipeOut p.id) }

/-- Removes a process whose end has been seen by the process that started it. -/
def forget (m : Machine) (pid : Nat) : Machine :=
  { m with processes := m.processes.filter fun p => p.pid != pid }

/-! ## Signals -/

/-- Whether a process runs a command of its own on a signal. -/
def catches (p : Process) (signal : Nat) : Bool :=
  match p.image with
  | .shell s => s.traps.any fun (n, command) => n == signal && command != ""
  | .watcher (.limit _) => [1, 2, 3, 14, 15].contains signal
  | _ => false

/-- Whether an interrupt that comes to a process ends it only later. -/
def holdsInterrupt (p : Process) : Bool :=
  match p.image with
  | .shell s => s.holdsInterrupts && s.stack.head?.any Frame.isWait
  | _ => false

/-- Adds a signal to others, in the order of their numbers. -/
def addSignal (signal : Nat) (others : List Nat) : List Nat :=
  if others.contains signal then others
  else others.takeWhile (· < signal) ++ signal :: others.dropWhile (· < signal)

/-- Takes down a signal in a process that takes it up itself. -/
def noteSignal (p : Process) (signal : Nat) : Process :=
  match p.image with
  | .shell s => { p with image := .shell { s with pending := addSignal signal s.pending } }
  | .watcher (.limit l) =>
    { p with image := .watcher (.limit { l with came := addSignal signal l.came }) }
  | _ => p

def finish (m : Machine) (pid : Nat) (status : ExitStatus) : Machine :=
  match m.process? pid with
  | none => m
  | some p =>
    if p.ended.isSome then m
    else
      let m := m.update pid fun p => { p with ended := some status, handles := [] }
      let m :=
        m.update p.parent fun parent =>
          if parent.ended.isNone && catches parent 17 then noteSignal parent 17 else parent
      m.sweep

/-- Whether a process belongs to a session that it or its like lead by themselves. -/
def isDetached (p : Process) : Bool := p.session != outsider

/-- Lets a signal act on a process that is not stopped. -/
def deliver (m : Machine) (p : Process) (signal : Nat) : Machine :=
  if p.ended.isSome then m
  else if p.ignored.contains signal then m
  else if catches p signal || (signal == 2 && holdsInterrupt p) then
    m.update p.pid fun p => noteSignal p signal
  else if harmless.contains signal then m
  else if stopping.contains signal then
    if isDetached p then m else m.update p.pid fun p => { p with stopped := true }
  else m.finish p.pid (.killed signal)

def deliverTo (m : Machine) (pid signal : Nat) : Machine :=
  match m.process? pid with
  | some p => if p.stopped then m else m.deliver p signal
  | none => m

/-- Lets a stopped process go on; the signals that came meanwhile act now. -/
def resume (m : Machine) (p : Process) : Machine :=
  let held := p.held
  let m := m.update p.pid fun p => { p with stopped := false, held := [] }
  held.foldl (fun m signal => m.deliverTo p.pid signal) m

def signal (m : Machine) (pid signal : Nat) : Machine :=
  match m.process? pid with
  | none => m
  | some p =>
    if p.ended.isSome || signal == 0 then m
    else if signal == 9 then m.finish pid (.killed 9)
    else if signal == 19 then
      m.update pid fun p => { p with stopped := true, held := p.held.filter (· != 18) }
    else if signal == 18 then (if p.stopped then m.resume p else m).deliverTo pid 18
    else if p.stopped then
      if p.ignored.contains signal then m
      else m.update pid fun p => { p with held := addSignal signal p.held }
    else m.deliver p signal

def signalGroup (m : Machine) (group number : Nat) : Machine :=
  (m.processes.filter fun p => p.group == group).foldl (fun m p => m.signal p.pid number) m

/-- Writes to a descriptor of a process, and why that cannot be done. A process that writes to a
pipe that nobody reads is ended unless it ignores that. -/
def tryEmit (m : Machine) (pid descriptor : Nat) (content : List UInt8) :
    Option OsError × Machine :=
  if content.isEmpty then (none, m)
  else
    match (m.process? pid).bind fun p => p.handles.get? descriptor with
    | none => (some .badDescriptor, m)
    | some handle =>
      match m.write handle content with
      | .done m => (none, m)
      | .broken => (some .brokenPipe, m.signal pid 13)
      | .failed => (some .badDescriptor, m)

def emit (m : Machine) (pid descriptor : Nat) (content : List UInt8) : Machine :=
  (m.tryEmit pid descriptor content).2

def say (m : Machine) (pid descriptor : Nat) (text : String) : Machine :=
  m.emit pid descriptor (Text.Octets.bytes text)

end Machine

end SyscallProfiler
