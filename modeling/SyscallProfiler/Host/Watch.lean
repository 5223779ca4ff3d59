import SyscallProfiler.Host.Program

/-!
# Waiting for processes

A process is looked at every ten milliseconds until it has ended or a time is over. The look comes
before the clock, so an end that shows at the very moment at which the time is over still counts.
Since every wait takes at least its span, the number of looks is bounded by the time to wait.
-/

namespace SyscallProfiler

namespace Watch

/-- How long to wait between two looks. -/
def interval : Duration := .ofMillis 10

/-- How many looks fit into a span, with one at each end. -/
def looks (span : Duration) : Nat := (span.nanos + interval.nanos - 1) / interval.nanos + 1

/-- Looks at a process until it has ended, the host cannot tell, or `timeout` is over since
`start`. At most `fuel` looks are taken. -/
def lookUntil (process : Nat) (start timeout : Duration) :
    (fuel : Nat) → Program (Option ExitStatus)
  | 0 => .done none
  | fuel + 1 => do
    match ← Program.request (.look process) with
    | .ended status => return some status
    | .unknown _ => return none
    | .running =>
      let now ← Program.request .clock
      if now.nanos - start.nanos ≥ timeout.nanos then return none
      else
        Program.request (.sleep interval)
        lookUntil process start timeout fuel

/-- How a process ends within a span, if it does. -/
def untilEnd (process : Nat) (timeout : Duration) : Program (Option ExitStatus) := do
  let start ← Program.request .clock
  lookUntil process start timeout (looks timeout)

/-- Kills a process with its whole group and waits for it. -/
def destroy (process : Nat) : Program Unit := do
  Program.request (.killGroup process)
  Program.request (.kill process)
  Program.request (.reap process)

end Watch

end SyscallProfiler
