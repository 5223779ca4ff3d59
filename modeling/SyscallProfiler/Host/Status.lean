/-!
# How processes end
-/

namespace SyscallProfiler

/-- How a process ended. -/
inductive ExitStatus where
  /-- By itself, with a code. -/
  | exited (code : Nat)
  /-- By a signal. -/
  | killed (signal : Nat)
deriving DecidableEq, Repr, Inhabited

namespace ExitStatus

def code? : ExitStatus → Option Int
  | .exited code => some code
  | .killed _ => none

def signal? : ExitStatus → Option Int
  | .exited _ => none
  | .killed signal => some signal

/-- The signals by name, without the letters that all names begin with. -/
def signals : List (String × Nat) :=
  [("HUP", 1), ("INT", 2), ("QUIT", 3), ("ILL", 4), ("TRAP", 5), ("ABRT", 6), ("BUS", 7),
    ("FPE", 8), ("KILL", 9), ("USR1", 10), ("SEGV", 11), ("USR2", 12), ("PIPE", 13),
    ("ALRM", 14), ("TERM", 15), ("STKFLT", 16), ("CHLD", 17), ("CONT", 18), ("STOP", 19),
    ("TSTP", 20), ("TTIN", 21), ("TTOU", 22), ("URG", 23), ("XCPU", 24), ("XFSZ", 25),
    ("VTALRM", 26), ("PROF", 27), ("WINCH", 28), ("IO", 29), ("PWR", 30), ("SYS", 31)]

/-- The name of a signal in brackets, for signals that have one. -/
def signalSuffix (signal : Nat) : String :=
  match signals.find? fun (_, n) => n == signal with
  | some (name, _) => s!" (SIG{name})"
  | none => ""

def text : ExitStatus → String
  | .exited code => s!"exit status: {code}"
  | .killed signal => s!"signal: {signal}{signalSuffix signal}"

end ExitStatus

end SyscallProfiler
