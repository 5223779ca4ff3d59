import SyscallProfiler.Host.Program
import SyscallProfiler.Machine.Setup

/-!
# Programs at work on a machine in memory

A machine in memory can be the host of a program. Whatever the program asks for takes a moment of
its time, and the processes on the machine go on only while the program waits. No process of the
machine is ever traced.

The simulation keeps what the program wrote and which code it loaded, so that both can be looked at
afterwards.
-/

namespace SyscallProfiler

/-- How calls of loaded code are answered. -/
structure CodeSource where
  /-- The answer to every call. Without it the code comes from the files. -/
  fixed : Option (Except String Json)
  /-- A file that must be there before a call is answered, and that is removed then. -/
  awaited : Option String
deriving Inhabited

/-- Something that arrived on standard output. -/
inductive Passage where
  /-- Written by the program itself. -/
  | report (text : String)
  /-- Written by code that it loaded. -/
  | loaded (text : String)
deriving DecidableEq, Repr, Inhabited

/-- The pipes of a process whose streams are collected. -/
structure Streams where
  process : Nat
  output : Option Nat
  errors : Nat
deriving DecidableEq, Repr, Inhabited

/-- A program at work on a machine. -/
structure Simulation where
  machine : Machine
  /-- Where the program works. -/
  directory : Location
  code : CodeSource
  /-- The calls of loaded code, newest first. -/
  calls : List (String × Payload)
  streams : List Streams
  /-- What arrived on standard output, newest first. -/
  passages : List Passage
  /-- What loaded code has written and nobody has passed on. -/
  held : String
  /-- What was written to standard error. -/
  complaints : String
  /-- What the program recorded about itself, newest first. -/
  notes : List Note
  /-- A number for the next fresh name. -/
  nextName : Nat
deriving Inhabited

namespace Simulation

def ofMachine (machine : Machine) (code : CodeSource) : Simulation where
  machine
  directory := Machine.workplace
  code
  calls := []
  streams := []
  passages := []
  held := ""
  complaints := ""
  notes := []
  nextName := 1500000007

def requestNanos : Nat := 1000

/-- How long the program waits at most for a process that does not end. -/
def patience : Nat := 100000000000

def withFiles (s : Simulation) (files : Files) : Simulation :=
  { s with machine := { s.machine with files } }

def wait (s : Simulation) (nanos : Nat) : Simulation :=
  { s with machine := s.machine.workTo (s.machine.now + nanos) }

/-- Lets the machine work until something holds, or for as long as the patience lasts. -/
def waitUntil (s : Simulation) (holds : Machine → Bool) : Simulation :=
  { s with machine := s.machine.workUntil holds (s.machine.now + patience) }

/-- How long the program waits between two looks for a file. -/
def lookNanos : Nat := 5000000

/-- Waits for a file, with at most so many looks: whether it is there. -/
def awaitFile (s : Simulation) (path : String) : (looks : Nat) → Bool × Simulation
  | 0 => (s.machine.files.has s.directory path, s)
  | looks + 1 =>
    if s.machine.files.has s.directory path then (true, s)
    else (s.wait lookNanos).awaitFile path looks

def fileLooks : Nat := 1000

def removeFile (s : Simulation) (path : String) : Except OsError Unit × Simulation :=
  match s.machine.files.find s.directory path with
  | .error e => (.error e, s)
  | .ok (_, .directory _) => (.error .isADirectory, s)
  | .ok (location, _) => (.ok (), s.withFiles (s.machine.files.remove location))

/-! ## Processes -/

/-- Whether a text holds the character that ends arguments. -/
def holdsNul (text : String) : Bool := text.toList.any fun c => c.toNat == 0

/-- Starts a process as the leader of a group of its own. -/
def start (s : Simulation) (c : Command) : Except OsError Nat × Simulation :=
  let m := s.machine
  let octets := Text.Octets.ofText
  if (c.program :: c.args).any holdsNul then (.error .nulInArgument, s)
  else
    let environment := Machine.environment s.directory
    match m.launch s.directory environment (octets c.program) (c.args.map octets) with
    | .error e => (.error e, s)
    | .ok (_, image) =>
      let (errors, m) := m.addPipe true
      let (output, m) : Option Nat × Machine :=
        if c.collectsOutput then
          let (pipe, m) := m.addPipe true
          (some pipe, m)
        else (none, m)
      let handles : Machine.Handles :=
        [(0, .nothing), (1, (output.map Machine.Handle.pipeIn).getD .nothing),
          (2, .pipeIn errors)]
      let (pid, machine) := m.addProcess fun pid =>
        { pid, image, handles
          parent := Machine.outsider
          group := pid
          session := Machine.outsider
          directory := s.directory
          ignored := []
          mask := 0o022
          wakeAt := m.now + Machine.startNanos
          stopped := false
          held := []
          ended := none
          reaped := false }
      (.ok pid, { s with machine, streams := ⟨pid, output, errors⟩ :: s.streams })

def notice (s : Simulation) (pid : Nat) : Simulation :=
  { s with machine := s.machine.update pid fun p => { p with reaped := p.ended.isSome } }

def look (s : Simulation) (pid : Nat) : Sight × Simulation :=
  match s.machine.process? pid with
  | none => (.unknown "No child processes (os error 10)", s)
  | some p =>
    match p.ended with
    | some status => (.ended status, s.notice pid)
    | none => (.running, s)

/-- Whether a process can be sent signals: until somebody has taken notice of its end. -/
def canSignal (s : Simulation) (pid : Nat) : Bool :=
  match s.machine.process? pid with
  | some p => !p.reaped
  | none => false

def signal (s : Simulation) (pid number : Nat) : Simulation :=
  { s with machine := s.machine.signal pid number }

def pipeOf (s : Simulation) (pid : Nat) (stream : Stream) : Option Nat :=
  (s.streams.find? fun st => st.process == pid).bind fun st =>
    match stream with
    | .output => st.output
    | .errors => some st.errors

/-- Collects a stream once nobody writes to it any more. -/
def collect (s : Simulation) (pid : Nat) (stream : Stream) : String × Simulation :=
  match s.pipeOf pid stream with
  | none => ("", s)
  | some pipe =>
    let s := s.waitUntil fun m => !m.hasWriter pipe
    match s.machine.pipe? pipe with
    | none => ("", s)
    | some p => (Text.Utf8.decode p.content, { s with machine := s.machine.dropPipe pipe })

/-! ## Files -/

def nameLetters : List Char := "0123456789abcdefghijklmnopqrstuvwxyz".toList

def freshLetters (n : Nat) : (count : Nat) → List Char
  | 0 => []
  | count + 1 => nameLetters.getD (n % nameLetters.length) '0' ::
      freshLetters (n / nameLetters.length) count

def createScript (s : Simulation) (directory : String) :
    Except (String × OsError) String × Simulation :=
  let name := "syscost_invoke_" ++ String.ofList (freshLetters s.nextName 6) ++ ".json"
  let path := Path.join (Path.join (Machine.absolute s.directory) directory) name
  let s := { s with nextName := s.nextName + 1 }
  match s.machine.files.create s.directory path with
  | .error e => (.error (path, e), s)
  | .ok (_, files) => (.ok path, s.withFiles files)

def writeFile (s : Simulation) (path text : String) : Except OsError Unit × Simulation :=
  match s.machine.files.create s.directory path with
  | .error e => (.error e, s)
  | .ok (location, files) =>
    (.ok (), s.withFiles (files.edit location fun _ => Text.Utf8.encode text))

/-- Creates a file that is not there. -/
def touch (s : Simulation) (path : String) : Except OsError Unit × Simulation :=
  match s.machine.files.create s.directory path with
  | .error e => (.error e, s)
  | .ok (_, files) => (.ok (), s.withFiles files)

def makeDirectory (s : Simulation) (path : String) : Except OsError Unit × Simulation :=
  let (made, files) := s.machine.files.makePath s.directory path
  (made, s.withFiles files)

/-! ## Loaded code -/

/-- Waits for the file that a call has to wait for, and removes it. -/
def awaitCode (s : Simulation) : Simulation :=
  match s.code.awaited with
  | none => s
  | some path => ((s.awaitFile path fileLooks).2.removeFile path).2

def load (s : Simulation) (path : String) (input : Payload) : Except String Json × Simulation :=
  let s := s.awaitCode
  let s := { s with calls := (path, input) :: s.calls }
  match s.code.fixed with
  | some answer => (answer, s)
  | none =>
    let (answer, text) := Loader.run s.machine.files s.directory path input
    (answer.mapError Loader.Fault.message, { s with held := s.held ++ text })

def flushLoaded (s : Simulation) : Simulation :=
  if s.held = "" then s else { s with passages := .loaded s.held :: s.passages, held := "" }

/-! ## Requests -/

/-- Lets a request take its time. -/
def moment (s : Simulation) : Simulation :=
  { s with machine := s.machine.spend requestNanos }

def reply (s : Simulation) : (r : Request) → r.Answer × Simulation
  | .ownPid => (Machine.outsider, s)
  | .ownCommand => (.ok Machine.profilerPath, s)
  | .grantTracing => (true, s)
  | .revokeTracing => ((), s)
  | .tracerOf _ => (some 0, s)
  | .start c => s.start c
  | .look pid => s.look pid
  | .interrupt pid => (s.canSignal pid, s.signal pid 2)
  | .killGroup pid => ((), { s with machine := s.machine.signalGroup pid 9 })
  | .kill pid => ((), s.signal pid 9)
  | .reap pid => ((), (s.waitUntil fun m => !m.isAlive pid).notice pid)
  | .collect pid stream => s.collect pid stream
  | .clock => (⟨s.machine.now⟩, s)
  | .wallClock => (Machine.epoch + s.machine.now / 1000, s)
  | .sleep span => ((), s.wait span.nanos)
  | .exists_ path => (s.machine.files.has s.directory path, s)
  | .touch path => s.touch path
  | .makeDirectory path => s.makeDirectory path
  | .readText path => (s.machine.files.readText s.directory path, s)
  | .survey path => (.ok (s.machine.files.tree s.directory path), s)
  | .createScript directory => s.createScript directory
  | .writeScript path text => s.writeFile path text
  | .removeScript path => s.removeFile path
  | .load path input => s.load path input
  | .flushLoaded => ((), s.flushLoaded)
  | .write text => (.ok (), { s with passages := .report text :: s.passages })
  | .flush => (.ok (), s)
  | .complain text => ((), { s with complaints := s.complaints ++ text })
  | .note what => ((), { s with notes := what :: s.notes })

/-- Answers a request and lets it take its time. -/
def answer (s : Simulation) (r : Request) : r.Answer × Simulation :=
  let (a, s) := s.reply r
  (a, s.moment)

def run {α : Type} (s : Simulation) (p : Program α) : α × Simulation := p.run answer s

/-! ## What can be looked at afterwards -/

/-- What the program itself wrote to standard output. -/
def reportText (s : Simulation) : String :=
  String.join <| s.passages.reverse.map fun
    | .report text => text
    | .loaded _ => ""

/-- All that arrives on standard output by the time the program has ended. -/
def outputText (s : Simulation) : String :=
  String.join <| s.flushLoaded.passages.reverse.map fun
    | .report text => text
    | .loaded text => text

/-- The text of a file, whatever it holds; nothing if it cannot be read. -/
def contentOf (s : Simulation) (path : String) : Option String :=
  (s.machine.files.readOctets s.directory path).toOption.map Text.Utf8.decode

/-- How many files of a directory have names that begin in a certain way; nothing if it is no
directory. -/
def countNamed (s : Simulation) (directory start : String) : Option Nat :=
  match s.machine.files.find s.directory directory with
  | .ok (_, .directory entries) =>
    some (entries.filter fun (n, _) => (Text.after? start.toList n.toList).isSome).length
  | _ => none

end Simulation

end SyscallProfiler
