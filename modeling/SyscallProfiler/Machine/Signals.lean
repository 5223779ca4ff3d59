import SyscallProfiler.Host.Status

/-!
# Signals by name

The names that commands accept for signals, and what shells say about processes that were ended by
them.
-/

namespace SyscallProfiler.Machine

/-- The first of the signals that have no meaning of their own. -/
def firstFree : Nat := 34

def lastSignal : Nat := 64

def signalName (n : Nat) : String :=
  if n = 16 then "16"
  else
    match ExitStatus.signals.find? fun (_, k) => k == n with
    | some (name, _) => name
    | none =>
      if n = firstFree then "RTMIN"
      else if n = lastSignal then "RTMAX"
      else if firstFree < n && n < 50 then s!"RTMIN+{n - firstFree}"
      else if 50 ≤ n && n < lastSignal then s!"RTMAX-{lastSignal - n}"
      else toString n

/-- The signal with a name or a number, whatever the case of the letters is. -/
def signalOf? (text : String) : Option Nat :=
  let name := text.toUpper
  let digits := text.toList
  if !digits.isEmpty && digits.all fun c => '0' ≤ c && c ≤ '9' then
    text.toNat?.filter (· ≤ lastSignal)
  else if name = "EXIT" then some 0
  else
    ((List.range lastSignal).map (· + 1)).find? fun n => signalName n == name

def describeSignal (n : Nat) : String :=
  match n with
  | 1 => "Hangup"
  | 2 => "Interrupt"
  | 3 => "Quit"
  | 4 => "Illegal instruction"
  | 5 => "Trace/breakpoint trap"
  | 6 => "Aborted"
  | 7 => "Bus error"
  | 8 => "Floating point exception"
  | 9 => "Killed"
  | 10 => "User defined signal 1"
  | 11 => "Segmentation fault"
  | 12 => "User defined signal 2"
  | 13 => "Broken pipe"
  | 14 => "Alarm clock"
  | 15 => "Terminated"
  | 16 => "Stack fault"
  | 17 => "Child exited"
  | 18 => "Continued"
  | 19 => "Stopped (signal)"
  | 20 => "Stopped"
  | 21 => "Stopped (tty input)"
  | 22 => "Stopped (tty output)"
  | 23 => "Urgent I/O condition"
  | 24 => "CPU time limit exceeded"
  | 25 => "File size limit exceeded"
  | 26 => "Virtual timer expired"
  | 27 => "Profiling timer expired"
  | 28 => "Window changed"
  | 29 => "I/O possible"
  | 30 => "Power failure"
  | 31 => "Bad system call"
  | n =>
    if firstFree ≤ n && n ≤ lastSignal then s!"Real-time signal {n - firstFree}"
    else s!"Unknown signal {n}"

/-- What a shell says when a process that it waited for was ended by a signal. -/
def deathNotice : ExitStatus → Option String
  | .exited _ => none
  | .killed n => if n = 2 || n = 13 then none else some (describeSignal n)

/-- The signals that do nothing unless a process asks for them. -/
def harmless : List Nat := [17, 18, 23, 28]

def stopping : List Nat := [19, 20, 21, 22]

/-- How an end counts as the status of a command. -/
def codeOf : ExitStatus → Nat
  | .exited code => code
  | .killed signal => 128 + signal

end SyscallProfiler.Machine
