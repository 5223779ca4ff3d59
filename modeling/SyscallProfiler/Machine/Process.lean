import SyscallProfiler.Files.Basic
import SyscallProfiler.Host.Status
import SyscallProfiler.Shell.Expansion

/-!
# Processes

A process is what it executes, the handles it holds, and how it takes signals. A shell keeps a
stack of frames: what to run next and what to do when that is done.

Texts that processes work on are texts of octets.
-/

namespace SyscallProfiler.Machine

/-- Something that a process can read from or write to. -/
inductive Handle where
  /-- Reading ends at once and writing is lost. -/
  | nothing
  /-- Reading never ends. -/
  | zeros
  /-- A file that has been opened. Handles with one number share their place in it. -/
  | file (opened : Nat)
  | pipeIn (pipe : Nat)
  | pipeOut (pipe : Nat)
deriving DecidableEq, Repr, Inhabited

/-- The handles of a process by descriptor. -/
abbrev Handles := List (Nat × Handle)

namespace Handles

def get? (handles : Handles) (descriptor : Nat) : Option Handle :=
  (handles.find? fun (d, _) => d == descriptor).map (·.2)

def close (handles : Handles) (descriptor : Nat) : Handles :=
  handles.filter fun (d, _) => d != descriptor

def set (handles : Handles) (descriptor : Nat) (handle : Handle) : Handles :=
  (descriptor, handle) :: handles.close descriptor

/-- Descriptors from here on are a shell's own and not handed on. -/
def private_ : Nat := 100

def handedOn (handles : Handles) : Handles := handles.filter fun (d, _) => d < private_

def free (handles : Handles) : Nat :=
  handles.foldl (fun n (d, _) => max n (d + 1)) private_

/-- Puts a descriptor back to what was saved for it. -/
def restore (handles : Handles) (descriptor : Nat) (saved : Option Nat) : Handles :=
  match saved with
  | none => handles.close descriptor
  | some n =>
    match handles.get? n with
    | some handle => (handles.close n).set descriptor handle
    | none => handles.close descriptor

end Handles

/-- Variables as they were before, to be put back. -/
abbrev Saved := List (String × Option Shell.Variable)

/-- How far the options of arguments have been read. -/
structure OptionPlace where
  /-- The number of the argument that is read next. -/
  index : Nat
  /-- The place within the argument before that one, if it has not been read to its end. -/
  offset : Option Nat
deriving DecidableEq, Repr, Inhabited

/-- What a shell waits for when it has been asked to wait. -/
inductive WaitFor where
  /-- For everything in the background. -/
  | all
  /-- For some jobs, one after the other; the status is that of the last one. -/
  | named (targets : List String) (status : Nat)
deriving Repr, Inhabited

/-- What a shell does once what is above it on the stack is done. -/
inductive Frame where
  /-- Reads and runs the rest of a script; `file` says that it comes from a file. -/
  | source (text : List Char) (line : Nat) (file : Bool)
  /-- Reads and runs what comes in on a descriptor; `buffer` has come already. -/
  | input (descriptor : Nat) (buffer : List Char) (line : Nat) (ended : Bool)
  /-- Does not take signals from here on. -/
  | ignoring (signals : List Nat)
  /-- Runs a command; `outputs` are those of the commands in its words, as far as they have run. -/
  | run (t : Shell.Tree) (outputs : List String) (last : Bool)
  /-- Goes on with a command whose words have been expanded and whose descriptors have been
  redirected. -/
  | prepared (c : Shell.Simple) (fields outputs : List String) (last : Bool)
  | sequence (rest : List Shell.Tree) (last : Bool)
  | afterBoth (second : Shell.Tree) (last : Bool)
  | afterEither (second : Shell.Tree) (last : Bool)
  | invert
  | afterCondition (yes no : Shell.Tree) (last : Bool)
  | loopCondition (untilHolds : Bool) (condition body : Shell.Tree) (status : Nat)
  | loopBody (untilHolds : Bool) (condition body : Shell.Tree)
  | eachNext (name : String) (values : List String) (body : Shell.Tree)
  /-- Waits for processes, of which it is known how some have ended; the status is that of the last
  one. -/
  | awaiting (processes : List (Nat × Option ExitStatus))
  /-- Waits as the builtin `wait` does, and may be interrupted. -/
  | waiting (for_ : WaitFor)
  /-- Waits for the output of a command that stands in a word of the next frame. -/
  | substituting (process pipe descriptor : Nat) (next : Frame)
  /-- Reads a line and gives its fields to names; `raw` says that backslashes mean nothing. -/
  | readingLine (names : List String) (raw : Bool) (text : List Shell.Atom)
  /-- Puts descriptors back; `whole` says that they were redirected for a command that is more than
  words. -/
  | restoring (saved : List (Nat × Option Nat)) (whole : Bool)
  /-- Gives variables back what they were before a command. -/
  | puttingBack (saved : Saved)
  /-- The end of a function: gives the shell its arguments, its own variables and its options
  back. -/
  | returning (args : List String) (saved : Saved) (options : Option (List Char))
      (place : OptionPlace)
  /-- The end of commands that a builtin runs: `speaker` is the builtin before, `file` says that a
  return ends here, and `caught` that what cannot be done ends these commands only. -/
  | speaking (speaker : Option String) (file caught : Bool)
  | afterTrap (status : Nat)
  | exiting (status : Nat)
deriving Repr, Inhabited

namespace Frame

/-- Whether what is above the frame is a condition, whose failure is no error. -/
def isCondition : Frame → Bool
  | .afterBoth _ _ => true
  | .afterEither _ _ => true
  | .invert => true
  | .afterCondition _ _ _ => true
  | .loopCondition _ _ _ _ => true
  | _ => false

/-- Whether the shell waits for what it has just started. -/
def isWait : Frame → Bool
  | .awaiting _ => true
  | .substituting _ _ _ _ => true
  | _ => false

def withOutput (output : String) : Frame → Frame
  | .run t outputs last => .run t (outputs ++ [output]) last
  | .prepared c fields outputs last => .prepared c fields (outputs ++ [output]) last
  | frame => frame

end Frame

/-- What a shell has started in the background. -/
structure Job where
  number : Nat
  /-- The processes, and how those that are known to have ended did so. -/
  processes : List (Nat × Option ExitStatus)
  text : String
  /-- Whether somebody has waited for it. -/
  waited : Bool
deriving Repr, Inhabited

namespace Job

/-- Whether all processes are known to have ended. -/
def isDone (j : Job) : Bool := j.processes.all fun (_, status) => status.isSome

def status? (j : Job) : Option ExitStatus := j.processes.getLast?.bind (·.2)

end Job

/-- The state of a shell. -/
structure ShellState where
  vars : Shell.Variables
  functions : List (String × Shell.Tree)
  aliases : List (String × String)
  /-- The commands to run on signals; number zero stands for the end of the shell. -/
  traps : List (Nat × String)
  /-- Signals that were ignored from the beginning and stay so. -/
  deaf : List Nat
  /-- Signals that came and whose commands have not been run. -/
  pending : List Nat
  /-- Whether an interrupt without a command ends the shell only once what it waits for is over. -/
  holdsInterrupts : Bool
  /-- The latest job comes first. -/
  jobs : List Job
  /-- The line of the command that runs. -/
  line : Nat
  /-- The builtin in whose name the shell complains. -/
  speaker : Option String
  /-- The code of the last command that stood in a word. -/
  inner : Nat
  /-- Whether the shell is itself part of a condition. -/
  shielded : Bool
  /-- Whether the shell is itself inside a loop. -/
  looped : Bool
  /-- The directory as the shell was led to it. -/
  place : String
  optionPlace : OptionPlace
  /-- The value that the variable for the number of an option was seen with last. -/
  optionShown : String
  stack : List Frame
deriving Repr, Inhabited

/-- What a filter has read of one source. -/
structure Gathered where
  name : String
  content : List UInt8
  /-- Whether it is a plain file. -/
  plain : Bool
deriving Repr, Inhabited

/-- A program that works through its input. -/
structure Filter where
  name : String
  /-- What the program was called. -/
  called : String
  args : List String
  /-- Files that are still to be read; a hyphen stands for the standard input. -/
  sources : List String
  /-- What is being read. -/
  current : Option Handle
  /-- The source that is being read. -/
  source : String
  /-- What has been read of it, the latest piece first. -/
  chunks : List (List UInt8)
  /-- The sources that have been read, the latest one first. -/
  gathered : List Gathered
  /-- How much of the output has been written. -/
  written : Nat
  status : Nat
deriving Repr, Inhabited

/-- A time limit for a process. -/
structure Limit where
  process : Nat
  /-- When the next signal is sent. -/
  deadline : Option Nat
  signal : Nat
  /-- How long after the first signal the process is killed. -/
  killAfter : Option Nat
  timedOut : Bool
  /-- Whether the status of the process counts even if its time was over. -/
  keepsStatus : Bool
  /-- Whether signals are for the process alone. -/
  foreground : Bool
  /-- Signals that have come and are to be passed on. -/
  came : List Nat
deriving Repr, Inhabited

/-- A program that goes on once others have ended. -/
inductive Watcher where
  /-- Ends with another process, or ends it when the time has come. -/
  | limit (l : Limit)
  /-- Reads what commands are to be built from, the latest piece first. -/
  | collecting (called : String) (args : List String) (chunks : List (List UInt8))
      (environment : List (String × String))
  /-- Runs commands one after the other. -/
  | each (called : String) (rest : List (List String)) (running : Option (Nat × String))
      (status : Nat) (environment : List (String × String))
deriving Repr, Inhabited

/-- What a process executes. -/
inductive Image where
  | tool (name called : String) (args : List String) (environment : List (String × String))
  | shell (s : ShellState)
  | filter (f : Filter)
  | watcher (w : Watcher)
  /-- Ends in good order when it wakes. -/
  | resting
deriving Repr, Inhabited

structure Process where
  pid : Nat
  parent : Nat
  group : Nat
  /-- The process that leads the session. -/
  session : Nat
  directory : Location
  image : Image
  handles : Handles
  ignored : List Nat
  /-- The permissions that new files do not get. -/
  mask : Nat
  /-- The time at which it goes on. -/
  wakeAt : Nat
  /-- Whether it has been stopped. -/
  stopped : Bool
  /-- Signals that wait until it is continued. -/
  held : List Nat
  ended : Option ExitStatus
  /-- Whether somebody has taken notice of its end. -/
  reaped : Bool
deriving Repr, Inhabited

end SyscallProfiler.Machine
