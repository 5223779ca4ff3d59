import SyscallProfiler.Duration
import SyscallProfiler.Files.Tree
import SyscallProfiler.Host.Status
import SyscallProfiler.OsError
import SyscallProfiler.Payload

/-!
# Requests to the host

All that a run wants from the world around it, and what the world may answer. Processes are known
by their numbers. A request never fails silently: where the host may refuse, the answer says so.
-/

namespace SyscallProfiler

/-- Where a session of the collector stands. -/
inductive SessionState where
  | starting
  | active
  | stopping
  | closed
deriving DecidableEq, Repr, Inhabited

/-- Where a run over a workload stands. -/
inductive Stage where
  | idle
  | resolving
  | attachSummary
  | attachFull
  | spawn
  | reporting
deriving DecidableEq, Repr, Inhabited

/-- Something that a run records about itself. -/
inductive Note where
  | session (state : SessionState)
  | stage (stage : Stage)
deriving DecidableEq, Repr

/-- A stream that a process writes to. -/
inductive Stream where
  | output
  | errors
deriving DecidableEq, Repr, Inhabited

/-- A process to be started as the leader of a group of its own. It reads nothing, and what it
writes to `errors` is collected. -/
structure Command where
  program : String
  args : List String
  /-- Whether what it writes to `output` is collected too, instead of being dropped. -/
  collectsOutput : Bool
deriving DecidableEq, Repr, Inhabited

/-- What a look at a process shows. -/
inductive Sight where
  | running
  | ended (status : ExitStatus)
  /-- The host cannot tell. -/
  | unknown (reason : String)
deriving DecidableEq, Repr, Inhabited

/-- Why something could not be written. -/
structure WriteError where
  message : String
deriving DecidableEq, Repr, Inhabited

/-- A request to the host. -/
inductive Request where
  /-- The number of the running program. -/
  | ownPid
  /-- The command that starts the running program. -/
  | ownCommand
  /-- Lets other processes trace the running program. -/
  | grantTracing
  | revokeTracing
  /-- The process that traces a process: zero for none. -/
  | tracerOf (pid : Nat)
  | start (command : Command)
  /-- Looks at a process without waiting for it. -/
  | look (process : Nat)
  /-- Sends an interrupt to a process but not to its group. -/
  | interrupt (process : Nat)
  /-- Kills all processes of a group. -/
  | killGroup (process : Nat)
  | kill (process : Nat)
  /-- Waits for a process and takes notice of its end. -/
  | reap (process : Nat)
  /-- All that was written to a collected stream, as soon as nobody can write to it any more. The
  wait for that has no limit. A stream that somebody keeps open forever is left out: to that there
  is no answer. -/
  | collect (process : Nat) (stream : Stream)
  /-- The time on a clock that never goes back. -/
  | clock
  /-- The wall-clock time in microseconds. -/
  | wallClock
  | sleep (span : Duration)
  /-- Whether there is something at a path. -/
  | exists_ (path : String)
  /-- Creates an empty file where there is none; an existing file keeps its content. -/
  | touch (path : String)
  | makeDirectory (path : String)
  | readText (path : String)
  /-- The tree below a path. -/
  | survey (path : String)
  /-- Creates a file with a fresh name for a script. The answer is its path, or the path that was
  tried. -/
  | createScript (directory : String)
  | writeScript (path text : String)
  | removeScript (path : String)
  /-- Loads code into the running program and calls it. -/
  | load (codePath : String) (input : Payload)
  /-- Passes on what loaded code has written so far. -/
  | flushLoaded
  /-- Writes to the report. -/
  | write (text : String)
  | flush
  /-- Writes to standard error. -/
  | complain (text : String)
  | note (what : Note)

/-- What the host may answer. -/
@[reducible] def Request.Answer : Request → Type
  | .ownPid => Nat
  | .ownCommand => Except OsError String
  | .grantTracing => Bool
  | .revokeTracing => Unit
  | .tracerOf _ => Option Nat
  | .start _ => Except OsError Nat
  | .look _ => Sight
  | .interrupt _ => Bool
  | .killGroup _ => Unit
  | .kill _ => Unit
  | .reap _ => Unit
  | .collect _ _ => String
  | .clock => Duration
  | .wallClock => Nat
  | .sleep _ => Unit
  | .exists_ _ => Bool
  | .touch _ => Except OsError Unit
  | .makeDirectory _ => Except OsError Unit
  | .readText _ => Except OsError String
  | .survey _ => Except (String × OsError) Tree
  | .createScript _ => Except (String × OsError) String
  | .writeScript _ _ => Except OsError Unit
  | .removeScript _ => Except OsError Unit
  | .load _ _ => Except String Json
  | .flushLoaded => Unit
  | .write _ => Except WriteError Unit
  | .flush => Except WriteError Unit
  | .complain _ => Unit
  | .note _ => Unit

end SyscallProfiler
