import SyscallProfiler.Invocation.Script
import SyscallProfiler.OsError
import SyscallProfiler.Settings

/-!
# Failures

What can go wrong around a workload. A failure never ends a run: it becomes part of the result of
the pass in which it happened.
-/

namespace SyscallProfiler

/-- Something that went wrong. -/
inductive Failure where
  /-- The collector could not be started, ended by itself, or did not attach. -/
  | collector (detail : String)
  | settings (e : SettingsError)
  | script (e : ScriptError)
  /-- The operating system refused something about the file at `path`. `creating` is the file that
  was to be created in the directory `path`, if that was the matter. -/
  | file (path : String) (e : OsError) (creating : Option String)
deriving DecidableEq

namespace Failure

/-- What the operating system had to say, where it was asked. -/
def cause? : Failure → Option String
  | .file _ e none => some e.message
  | .file _ e (some path) => some s!"{e.message} at path {Text.shown path}"
  | _ => none

def message (f : Failure) : String :=
  match f with
  | .collector detail => s!"collector unavailable: {detail}"
  | .settings e => e.message
  | .script e => s!"invalid invocation script: {e.message}"
  | .file path _ _ => s!"I/O error on {path}: " ++ f.cause?.getD ""

end Failure

end SyscallProfiler
