import SyscallProfiler.Session
import SyscallProfiler.Workload.Basic

/-!
# Passes with the collector attached

The workload is loaded and called inside the running program while the collector observes it. What
the workload does never keeps the session from being stopped.
-/

namespace SyscallProfiler

namespace Outcome

/-- The outcome of loading and calling a workload. -/
def ofLoaded : Except String Json → Outcome
  | .ok v => .returned v
  | .error message => .faulted message

end Outcome

namespace Pass

/-- The result of a pass whose session did not come about. It lists the artifact if there is
one. -/
def unattached (unit : Workload) (input : Payload) (granularity : Granularity)
    (artifact : String) (e : Failure) : Program PassResult := do
  let result := PassResult.aborted unit.name (.attached granularity) input e.message
  let left ← Program.request (.exists_ artifact)
  return if left then { result with artifacts := [artifact] } else result

/-- Profiles a workload inside the running program. -/
def runAttached (settings : Settings) (unit : Workload) (input : Payload)
    (granularity : Granularity) : Program PassResult := do
  let artifact := Artifact.path settings.outputDir .attach granularity unit.name
  let pid ← Program.request .ownPid
  match ← Session.attach settings pid granularity artifact with
  | .error e => unattached unit input granularity artifact e
  | .ok session =>
    let loaded ← Program.request (.load unit.codePath input)
    let closure ← session.stop
    return .completed unit.name (.attached granularity) input closure (.ofLoaded loaded)

end Pass

end SyscallProfiler
