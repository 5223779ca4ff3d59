import SyscallProfiler.Machine.Launch
import SyscallProfiler.Shell.Reader

/-!
# How shells go on and end

A command ends with a status, and the shell goes on with what is next on its stack. It ends when
nothing is left, when it is told to, or when something has gone wrong; whatever has been put aside
on the stack is put back before.
-/

namespace SyscallProfiler.Machine

/-- Puts a shell into a state. Signals that came meanwhile stay to be taken up. -/
def setShell (m : Machine) (pid : Nat) (s : ShellState) : Machine :=
  m.update pid fun p =>
    match p.image with
    | .shell now => { p with image := .shell { s with pending := now.pending } }
    | _ => { p with image := .shell s }

/-- What a complaint of a shell begins with: its name, the line, and the builtin that speaks. -/
def complaintHead (s : ShellState) : String :=
  s!"{s.vars.name}: {s.line}: " ++ ((s.speaker.map (· ++ ": ")).getD "")

def warn (m : Machine) (p : Process) (s : ShellState) (text : String) : Machine :=
  m.say p.pid 2 (complaintHead s ++ text ++ "\n")

def warnAs (m : Machine) (p : Process) (s : ShellState) (name text : String) : Machine :=
  m.warn p { s with speaker := some name } text

/-! ## Leaving frames -/

def restoreHandles (handles : Handles) (saved : List (Nat × Option Nat)) : Handles :=
  saved.foldl (fun handles (d, place) => handles.restore d place) handles

def putBackAll (v : Shell.Variables) (saved : Saved) : Shell.Variables :=
  saved.foldl (fun v (name, before) => v.putBack name before) v

def afterFunction (s : ShellState) (args : List String) (saved : Saved)
    (options : Option (List Char)) (place : OptionPlace) : ShellState :=
  let v := putBackAll s.vars saved
  { s with
    vars := { v with args, options := options.getD v.options }
    optionPlace := place }

/-- Leaves a frame without doing what it is there for, but puts back what it put aside. -/
def leaveFrame (handles : Handles) (s : ShellState) : Frame → Handles × ShellState
  | .restoring saved _ => (restoreHandles handles saved, s)
  | .puttingBack saved => (handles, { s with vars := putBackAll s.vars saved })
  | .returning args saved options place => (handles, afterFunction s args saved options place)
  | .speaking speaker _ _ => (handles, { s with speaker })
  | _ => (handles, s)

def leaveAll (handles : Handles) (s : ShellState) : Handles × ShellState :=
  s.stack.foldl (fun (handles, s) frame => leaveFrame handles s frame) (handles, s)

/-- Leaves frames up to one that is wanted: that frame, the frames below it, and what has been put
back. -/
def unwindTo (wanted : Frame → Bool) (handles : Handles) (s : ShellState) :
    List Frame → Option (Frame × List Frame × Handles × ShellState)
  | [] => none
  | frame :: rest =>
    if wanted frame then some (frame, rest, handles, s)
    else
      let (handles, s) := leaveFrame handles s frame
      unwindTo wanted handles s rest

def isLoop : Frame → Bool
  | .loopBody _ _ _ => true
  | .loopCondition _ _ _ _ => true
  | .eachNext _ _ _ => true
  | _ => false

/-- How many loops run, without those around a function. -/
def loopsOf : List Frame → Nat
  | [] => 0
  | .returning _ _ _ _ :: _ => 0
  | frame :: rest => (if isLoop frame then 1 else 0) + loopsOf rest

def inFunction (stack : List Frame) : Bool :=
  stack.any fun
    | .returning _ _ _ _ => true
    | _ => false

def isLooped (s : ShellState) : Bool :=
  loopsOf s.stack > 0 || (s.looped && !inFunction s.stack)

/-- Whether what runs is part of a condition, whose failure is no error. -/
def isTested : List Frame → Bool
  | [] => false
  | .speaking _ true _ :: _ => false
  | .afterTrap _ :: _ => false
  | frame :: rest => frame.isCondition || isTested rest

/-! ## Going on -/

def withStatus (s : ShellState) (status : Nat) : ShellState :=
  { s with vars := { s.vars with status } }

def hasTraps (s : ShellState) : Bool := s.traps.any fun (_, command) => command != ""

/-- Ends a shell, after the command for its end. -/
def endShell (m : Machine) (p : Process) (s : ShellState) (code : Nat) : Machine :=
  match s.traps.find? fun (n, command) => n == 0 && command != "" with
  | some (_, command) =>
    let (handles, s) := leaveAll p.handles s
    (m.setHandles p.pid handles).setShell p.pid
      { withStatus s code with
        traps := s.traps.filter fun (n, _) => n != 0
        stack := [.source command.toList 1 false, .exiting code] }
  | none => m.finish p.pid (.exited (code % 256))

def goOn (m : Machine) (p : Process) (s : ShellState) (status : Nat) : Machine :=
  m.setShell p.pid (withStatus s status)

/-- Goes on after a command with its status. A failure may be the end of the shell. -/
def settle (m : Machine) (p : Process) (s : ShellState) (status : Nat) : Machine :=
  if status != 0 && s.vars.has 'e' && !s.shielded && !isTested s.stack then m.endShell p s status
  else m.goOn p s status

/-- Writes something in the name of a builtin, and goes on. -/
def writeAs (m : Machine) (p : Process) (s : ShellState) (name : String) (content : List UInt8)
    (status : Nat) : Machine :=
  match m.tryEmit p.pid 1 content with
  | (none, m) => m.settle p s status
  | (some _, m) => (m.warnAs p s name s!"{name}: I/O error").settle p s (status ||| 1)

def tell (m : Machine) (p : Process) (s : ShellState) (name text : String) (status : Nat) :
    Machine :=
  m.writeAs p s name (Text.Octets.bytes text) status

/-- Whether what cannot be done ends at a frame. -/
def isCatching : Frame → Bool
  | .speaking _ _ true => true
  | _ => false

/-- Gives up what the shell is doing because something cannot be done. As a rule that ends the
shell. -/
def fail (m : Machine) (p : Process) (s : ShellState) (text : String) : Machine :=
  let m := m.warn p s text
  match unwindTo isCatching p.handles s s.stack with
  | some (frame, rest, handles, s) =>
    (m.setHandles p.pid handles).goOn p { s with stack := frame :: rest } 2
  | none => m.endShell p s 2

/-! ## Shells within shells -/

/-- A copy of a shell that has something to do on its own. `tested` says that it is part of what it
was copied for. -/
def copyFor (s : ShellState) (tested : Bool) (frame : Frame) : ShellState :=
  { s with
    traps := s.traps.filter fun (_, command) => command == ""
    pending := []
    holdsInterrupts :=
      s.holdsInterrupts && !(s.traps.any fun (n, command) => n == 2 && command != "")
    jobs := []
    shielded := tested && (s.shielded || isTested s.stack)
    looped := isLooped s
    stack := [frame] }

/-- Starts a shell in a shell, which runs a command. -/
def forkTree (m : Machine) (p : Process) (s : ShellState) (t : Shell.Tree) (handles : Handles) :
    Nat × Machine :=
  m.fork p (.shell (copyFor s true (.run t [] true))) handles p.ignored

/-- Starts a command whose output stands in a word. `next` goes on with the output. -/
def startSubstitution (m : Machine) (p : Process) (s : ShellState) (text : String) (line : Nat)
    (v : Shell.Variables) (next : Frame) : Machine :=
  match Shell.readAll ⟨text.toList, line, s.aliases⟩ with
  | .error e => m.fail p { s with line := e.line } e.message
  | .ok t =>
    let (pipe, m) := m.addPipe false
    let copy := { copyFor s false (.run t [] true) with vars := v }
    let (pid, m) := m.fork p (.shell copy) (p.handles.handedOn.set 1 (.pipeIn pipe)) p.ignored
    let place := p.handles.free
    (m.setHandles p.pid (p.handles.set place (.pipeOut pipe))).setShell p.pid
      { s with stack := .substituting pid pipe place next :: s.stack }

/-- Expands something and goes on with what it is expanded to. `next` expands it again once the
output of a command in it is known. -/
def expanding {α : Type} (m : Machine) (p : Process) (s : ShellState) (outputs : List String)
    (next : Frame) (e : Shell.Expand α) (andThen : α → Shell.Variables → Machine) : Machine :=
  match e.run ⟨s.vars, outputs⟩ with
  | .ok (a, after) => andThen a after.vars
  | .error (.fault message) => m.fail p s message
  | .error (.output text line v) => m.startSubstitution p s text line v next

/-! ## Names of files -/

/-- The names that a part of a pattern matches in a directory. A name that begins with a dot has to
be asked for. -/
def matchingNames (m : Machine) (directory : Location) (path : String)
    (part : List Shell.Mark) : List String :=
  match m.find directory (if path = "" then "." else path) with
  | .ok (location, .directory _) =>
    let dotted := part.head?.any fun mark => mark.char == '.'
    let names := (if dotted then [".", ".."] else []) ++ m.namesAt location
    let pattern := Shell.Pattern.ofMarks part
    names.filter fun n =>
      (dotted || n.toList.head? != some '.') && Shell.Pattern.matches_ pattern n.toList
  | _ => []

def globParts (m : Machine) (directory : Location) (path : String) :
    List (List Shell.Mark) → List String
  | [] => []
  | [part] =>
    if Shell.Pattern.isPattern part then
      (m.matchingNames directory path part).map (path ++ ·)
    else
      let whole := path ++ Shell.textOfMarks part
      let isThere := if part.isEmpty then m.find directory whole else m.entry directory whole
      if isThere.toOption.isSome then [whole] else []
  | part :: rest =>
    if Shell.Pattern.isPattern part then
      (m.matchingNames directory path part).flatMap fun n =>
        if m.isDirectory directory (path ++ n) then
          globParts m directory (path ++ n ++ "/") rest
        else []
    else globParts m directory (path ++ Shell.textOfMarks part ++ "/") rest

/-- The parts of a pattern between slashes. -/
def splitMarks : List Shell.Mark → List (List Shell.Mark)
  | [] => [[]]
  | mark :: rest =>
    if mark.char = '/' then [] :: splitMarks rest
    else
      match splitMarks rest with
      | [] => [[mark]]
      | part :: parts => (mark :: part) :: parts

/-- The paths that a pattern matches, in order. -/
def glob (m : Machine) (p : Process) (pattern : List Shell.Mark) : List String :=
  (m.globParts p.directory "" (splitMarks pattern)).mergeSort (· ≤ ·)

end SyscallProfiler.Machine
