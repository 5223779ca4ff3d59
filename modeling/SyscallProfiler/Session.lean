import SyscallProfiler.Collector
import SyscallProfiler.Failure
import SyscallProfiler.Host.Watch
import SyscallProfiler.PassResult
import SyscallProfiler.Text.Blank

/-!
# Sessions of an attached collector

A session starts the collector on a running process and waits until it is observing. From then on
the session is active and its window is open. Stopping closes the window, interrupts the collector
and waits for it; a collector that does not react is killed.

A session holds its collector, the complaints of the collector, and the permission to trace. Each
of them is taken out of the session when it is used up. Whatever happens to a session, it is dropped
in the end, and dropping gets rid of all that it still holds. Closing leaves an artifact even if the
collector wrote none, and a session that is closed already is not closed again.

```
starting ──ready──▶ active ──stop──▶ stopping ──ended──▶ closed
    └───────────── did not start up ────────────────────▶┘
```
-/

namespace SyscallProfiler

/-- A collector attached to a process. -/
structure Session where
  granularity : Granularity
  /-- The process that is observed. -/
  pid : Nat
  artifact : String
  state : SessionState
  /-- The collector, until its end was seen or it was taken away to be stopped or killed. -/
  process : Option Nat
  /-- The collector whose complaints have not been collected yet. -/
  complaints : Option Nat
  window : Option Window
  stopTimeout : Duration
  /-- Whether the session lets other processes trace the running program. -/
  granted : Bool
deriving DecidableEq, Repr

namespace Session

/-- Why a collector that was started is not observing. -/
inductive StartError where
  /-- The session has no collector any more. -/
  | absent
  /-- It has ended, and this is what it complained about. -/
  | ended (status : ExitStatus) (complaint : String)
  | unknown (reason : String)
  /-- It did not attach to the process in time. -/
  | late (pid : Nat) (deadline : Duration)
deriving DecidableEq, Repr

def StartError.text : StartError → String
  | .absent => "collector is not running"
  | .ended status complaint =>
    s!"collector exited during start-up ({status.text}): {Text.trimmed complaint}"
  | .unknown reason => reason
  | .late pid deadline => s!"collector did not attach to pid {pid} within {deadline.text}"

def enter (s : Session) (state : SessionState) : Program Session := do
  Program.request (.note (.session state))
  return { s with state }

/-- Collects the complaints of the collector, unless they have been. -/
def collectComplaints (s : Session) : Program (String × Session) :=
  match s.complaints with
  | none => return ("", s)
  | some process => do
    let complaint ← Program.request (.collect process .errors)
    return (complaint, { s with complaints := none })

/-- Makes sure that the collector has not ended, for instance because it may not trace. A collector
whose end was seen is not held any more. -/
def ensureRunning (s : Session) : Program (Except StartError Unit × Session) :=
  match s.process with
  | none => return (.error .absent, s)
  | some process => do
    match ← Program.request (.look process) with
    | .running => return (.ok (), s)
    | .ended status =>
      let (complaint, s) ← { s with process := none }.collectComplaints
      return (.error (.ended status complaint), s)
    | .unknown reason => return (.error (.unknown reason), s)

/-- Asks again and again whether the process is being traced. That the collector has ended is seen
first; being late comes last. At most `fuel` rounds are made. -/
def probe (s : Session) (start deadline : Duration) :
    (fuel : Nat) → Program (Except StartError Unit × Session)
  | 0 => .done (.error (.late s.pid deadline), s)
  | fuel + 1 => do
    match ← s.ensureRunning with
    | (.error e, s) => return (.error e, s)
    | (.ok (), s) =>
      let tracer ← Program.request (.tracerOf s.pid)
      if tracer.getD 0 ≠ 0 then return (.ok (), s)
      else
        let now ← Program.request .clock
        if now.nanos ≥ start.nanos + deadline.nanos then return (.error (.late s.pid deadline), s)
        else
          Program.request (.sleep Watch.interval)
          s.probe start deadline fuel

/-- Waits until the collector is observing. -/
def awaitReady (settings : Settings) (s : Session) :
    Program (Except StartError Unit × Session) := do
  match settings.readiness with
  | .settle =>
    Program.request (.sleep settings.settleDelay)
    s.ensureRunning
  | .probe =>
    let start ← Program.request .clock
    s.probe start settings.attachDeadline (Watch.looks settings.attachDeadline)

/-- Takes back the permission to trace, if it was given. -/
def revoke (granted : Bool) : Program Unit :=
  if granted then Program.request .revokeTracing else .done ()

/-- Closes a session: sees to its artifact and takes back the permission to trace. Nothing is done
if the session is closed. -/
def close (s : Session) : Program Session :=
  if s.state = .closed then return s
  else do
    let _ ← Program.request (.touch s.artifact)
    revoke s.granted
    { s with granted := false }.enter .closed

/-- Kills the collector, if there is one. -/
def kill : Option Nat → Program Unit
  | none => .done ()
  | some process => Watch.destroy process

/-- Gives a session up, in whatever state it is. What it still holds goes with it, and so does a
permission that closing has left. -/
def drop (s : Session) : Program Unit := do
  kill s.process
  let (_, s) ← { s with process := none }.collectComplaints
  let s ← s.close
  revoke s.granted

/-- Lets other processes trace the running program, if that is the one to be traced. -/
def grantFor (pid : Nat) : Program Bool := do
  let own ← Program.request .ownPid
  if pid = own then Program.request .grantTracing else return false

/-- The session of a collector that was just started. -/
def initial (settings : Settings) (pid : Nat) (granularity : Granularity) (artifact : String)
    (process : Nat) (granted : Bool) : Session where
  granularity := granularity
  pid := pid
  artifact := artifact
  state := .starting
  process := some process
  complaints := some process
  window := none
  stopTimeout := settings.stopTimeout
  granted := granted

@[simp] theorem initial_artifact (settings : Settings) (pid : Nat) (granularity : Granularity)
    (artifact : String) (process : Nat) (granted : Bool) :
    (initial settings pid granularity artifact process granted).artifact = artifact := rfl

@[simp] theorem initial_granted (settings : Settings) (pid : Nat) (granularity : Granularity)
    (artifact : String) (process : Nat) (granted : Bool) :
    (initial settings pid granularity artifact process granted).granted = granted := rfl

/-- Opens a session on a collector that was started. -/
def begin_ (settings : Settings) (pid : Nat) (granularity : Granularity) (artifact : String)
    (process : Nat) (granted : Bool) : Program (Except Failure Session) := do
  let s ← (initial settings pid granularity artifact process granted).enter .starting
  match ← s.awaitReady settings with
  | (.error e, s) =>
    s.drop
    return .error (.collector e.text)
  | (.ok (), s) =>
    let s ← s.enter .active
    let now ← Program.request .wallClock
    return .ok { s with window := some (.openAt now) }

/-- Starts the collector on a process and waits until it is observing. -/
def attach (settings : Settings) (pid : Nat) (granularity : Granularity) (artifact : String) :
    Program (Except Failure Session) := do
  let granted ← grantFor pid
  let collector : Collector := ⟨settings.collector, granularity, artifact⟩
  match ← Program.request (.start ⟨collector.program, collector.attachArgs pid, false⟩) with
  | .error e =>
    revoke granted
    return .error (.collector s!"failed to start {collector.program}: {e.message}")
  | .ok process => begin_ settings pid granularity artifact process granted

/-- Interrupts a process and waits for its end; kills it if it does not end in time. The answer is
whether it had to be killed. -/
def interruptAndWait (process : Nat) (timeout : Duration) : Program Bool := do
  let _ ← Program.request (.interrupt process)
  match ← Watch.untilEnd process timeout with
  | some _ => return false
  | none =>
    Watch.destroy process
    return true

/-- Stops the collector, if there is one. The answer is whether it had to be killed. -/
def halt (timeout : Duration) : Option Nat → Program Bool
  | none => .done false
  | some process => interruptAndWait process timeout

/-- Closes a window that is open. -/
def closeWindow : Option Window → Program (Option Window)
  | none => .done none
  | some window => do
    let now ← Program.request .wallClock
    return some (window.closeAt now)

/-- Stops the collector and closes the session: what the collector left behind, and what is left of
the session. -/
def wind (s : Session) : Program (Closure × Session) := do
  let s ← s.enter .stopping
  let window ← closeWindow s.window
  let escalated ← halt s.stopTimeout s.process
  let (_, s) ← { s with window := none, process := none }.collectComplaints
  let s ← s.close
  let closure : Closure :=
    { artifacts := [s.artifact]
      window
      escalated
      stdout := ""
      stderr := "" }
  return (closure, s)

/-- Ends a session in good order. What is left of it is dropped. -/
def stop (s : Session) : Program Closure := do
  let (closure, s) ← s.wind
  s.drop
  return closure

end Session

end SyscallProfiler
