import SyscallProfiler.Pass.Attach
import SyscallProfiler.Pass.Spawn
import SyscallProfiler.Proofs.Host.Log

/-!
# What passes ask for

A pass asks for many things, and almost all of them are about the collector. What the
workload is given shows in two requests only: an attached pass makes one call, and a
pass in a fresh process writes one script. The lemmas follow the programs, and so
they hold on every host.
-/

namespace SyscallProfiler

open Program Request

/-! ## Processes -/

/-- A request by which a process is waited for or got rid of. -/
def Request.IsWatch : Request → Prop
  | .look _ | .clock | .sleep _ | .killGroup _ | .kill _ | .reap _ => True
  | _ => False

theorem Request.IsWatch.isInner {r : Request} (h : r.IsWatch) : r.IsInner := by
  cases r <;> trivial

namespace Watch

theorem asks_lookUntil (process : Nat) (start timeout : Duration) (fuel : Nat) :
    (lookUntil process start timeout fuel).Asks IsWatch := by
  induction fuel with
  | zero => trivial
  | succ fuel ih =>
      refine .request_bind trivial fun sight => ?_
      cases sight with
      | running =>
          refine .request_bind trivial fun now => ?_
          split
          · trivial
          · exact .request_bind trivial fun _ => ih
      | ended status => trivial
      | unknown reason => trivial

theorem asks_untilEnd (process : Nat) (timeout : Duration) :
    (untilEnd process timeout).Asks IsWatch :=
  .request_bind trivial fun _ => asks_lookUntil _ _ _ _

theorem asks_destroy (process : Nat) : (destroy process).Asks IsWatch :=
  .request_bind trivial fun _ => .request_bind trivial fun _ => .request trivial

theorem inner_untilEnd (process : Nat) (timeout : Duration) :
    (untilEnd process timeout).Asks IsInner :=
  (asks_untilEnd process timeout).mono fun _ => IsWatch.isInner

theorem inner_destroy (process : Nat) : (destroy process).Asks IsInner :=
  (asks_destroy process).mono fun _ => IsWatch.isInner

end Watch

/-! ## Sessions -/

namespace Session

theorem asks_enter (s : Session) (state : SessionState) : (s.enter state).Asks IsInner :=
  .request_bind trivial fun _ => trivial

theorem asks_collectComplaints (s : Session) : s.collectComplaints.Asks IsInner := by
  rw [collectComplaints]
  split
  · trivial
  · exact .request_bind trivial fun _ => trivial

theorem asks_ensureRunning (s : Session) : s.ensureRunning.Asks IsInner := by
  rw [ensureRunning]
  split
  · trivial
  · refine .request_bind trivial fun sight => ?_
    cases sight with
    | running => trivial
    | ended status => exact .bind (asks_collectComplaints _) fun _ => trivial
    | unknown reason => trivial

theorem asks_probe (s : Session) (start deadline : Duration) (fuel : Nat) :
    (s.probe start deadline fuel).Asks IsInner := by
  induction fuel generalizing s with
  | zero => trivial
  | succ fuel ih =>
      refine .bind (asks_ensureRunning s) ?_
      rintro ⟨running, s⟩
      cases running with
      | error e => trivial
      | ok _ =>
          refine .request_bind trivial fun tracer => ?_
          split
          · trivial
          · refine .request_bind trivial fun now => ?_
            split
            · trivial
            · exact .request_bind trivial fun _ => ih s

theorem asks_awaitReady (settings : Settings) (s : Session) :
    (s.awaitReady settings).Asks IsInner := by
  rw [awaitReady]
  cases settings.readiness with
  | settle => exact .request_bind trivial fun _ => asks_ensureRunning s
  | probe => exact .request_bind trivial fun _ => asks_probe _ _ _ _

theorem asks_revoke (granted : Bool) : (revoke granted).Asks IsInner := by
  cases granted with
  | false => trivial
  | true => exact .request trivial

theorem asks_close (s : Session) : s.close.Asks IsInner := by
  rw [close]
  split
  · trivial
  · exact .request_bind trivial fun _ => .bind (asks_revoke _) fun _ => asks_enter _ _

theorem asks_kill (process? : Option Nat) : (kill process?).Asks IsInner := by
  cases process? with
  | none => trivial
  | some process => exact Watch.inner_destroy process

theorem asks_drop (s : Session) : s.drop.Asks IsInner :=
  .bind (asks_kill s.process) fun _ => .bind (asks_collectComplaints _) fun _ =>
    .bind (asks_close _) fun left => asks_revoke left.granted

theorem asks_grantFor (pid : Nat) : (grantFor pid).Asks IsInner := by
  refine .request_bind trivial fun own => ?_
  split
  · exact .request trivial
  · trivial

theorem asks_begin_ (settings : Settings) (pid : Nat) (granularity : Granularity)
    (artifact : String) (process : Nat) (granted : Bool) :
    (begin_ settings pid granularity artifact process granted).Asks IsInner := by
  refine .bind (asks_enter _ _) fun s => .bind (asks_awaitReady settings s) ?_
  rintro ⟨ready, s⟩
  cases ready with
  | error e => exact .bind (asks_drop s) fun _ => trivial
  | ok _ => exact .bind (asks_enter _ _) fun _ => .request_bind trivial fun _ => trivial

theorem asks_attach (settings : Settings) (pid : Nat) (granularity : Granularity)
    (artifact : String) : (attach settings pid granularity artifact).Asks IsInner := by
  refine .bind (asks_grantFor pid) fun granted => .request_bind trivial fun started => ?_
  cases started with
  | error e => exact .bind (asks_revoke granted) fun _ => trivial
  | ok process => exact asks_begin_ _ _ _ _ _ _

theorem asks_interruptAndWait (process : Nat) (timeout : Duration) :
    (interruptAndWait process timeout).Asks IsInner := by
  refine .request_bind trivial fun _ => .bind (Watch.inner_untilEnd _ _) fun ended => ?_
  cases ended with
  | some status => trivial
  | none => exact .bind (Watch.inner_destroy process) fun _ => trivial

theorem asks_halt (timeout : Duration) (process? : Option Nat) :
    (halt timeout process?).Asks IsInner := by
  cases process? with
  | none => trivial
  | some process => exact asks_interruptAndWait process timeout

theorem asks_closeWindow (window? : Option Window) : (closeWindow window?).Asks IsInner := by
  cases window? with
  | none => trivial
  | some window => exact .request_bind trivial fun _ => trivial

theorem asks_wind (s : Session) : s.wind.Asks IsInner :=
  .bind (asks_enter _ _) fun _ => .bind (asks_closeWindow _) fun _ =>
    .bind (asks_halt _ _) fun _ => .bind (asks_collectComplaints _) fun _ =>
      .bind (asks_close _) fun _ => trivial

theorem asks_stop (s : Session) : s.stop.Asks IsInner :=
  .bind (asks_wind s) fun (_, left) => .bind (asks_drop left) fun _ => trivial

end Session

/-! ## Passes -/

namespace Pass

variable (settings : Settings) (unit : Workload) (input : Payload)

theorem asks_interpreterCommand : settings.interpreterCommand.Asks IsInner := by
  rw [Settings.interpreterCommand]
  split
  · refine .request_bind trivial fun own => ?_
    cases own <;> trivial
  · trivial

theorem asks_runBounded (command : Command) (timeout : Duration) :
    (runBounded command timeout).Asks IsInner := by
  refine .request_bind trivial fun started => ?_
  cases started with
  | error e => trivial
  | ok process =>
      refine .bind (Watch.inner_untilEnd _ _) fun status => ?_
      cases status with
      | some status =>
          exact .request_bind trivial fun _ => .request_bind trivial fun _ => trivial
      | none =>
          exact .bind (Watch.inner_destroy process) fun _ =>
            .request_bind trivial fun _ => .request_bind trivial fun _ => trivial

theorem asks_runAll (job : SpawnJob) (artifacts : List String) (first : Option RunOutput)
    (left : List Granularity) : (job.runAll artifacts first left).Asks IsInner := by
  induction left generalizing artifacts first with
  | nil => exact .request_bind trivial fun _ => trivial
  | cons granularity rest ih =>
      refine .bind (asks_runBounded _ _) fun ran => ?_
      match ran with
      | .error e => trivial
      | .ok none => exact .request_bind trivial fun _ => .request_bind trivial fun _ => trivial
      | .ok (some run) =>
          refine .request_bind trivial fun touched => ?_
          cases touched with
          | error e => trivial
          | ok _ => exact ih _ _

theorem asks_runOnScript (script : String) :
    (runOnScript settings unit input script).Asks IsInner := by
  refine .bind (asks_interpreterCommand settings) fun command => ?_
  cases command with
  | error e => trivial
  | ok interpreter => exact .request_bind trivial fun _ => asks_runAll _ _ _ _

/-- What a pass in a fresh process does after it has asked for its script to be stored. -/
def runStored : Except Failure String → Program PassResult
  | .error e => return .aborted unit.name .spawn input e.message
  | .ok path => do
    let result ← runOnScript settings unit input path
    let _ ← Program.request (.removeScript path)
    match result with
    | .ok result => return result
    | .error e => return .aborted unit.name .spawn input e.message

theorem runSpawned_eq : runSpawned settings unit input =
    ((Script.mk unit.codePath input).writeFresh settings.scriptDir).bind
      (runStored settings unit input) := rfl

theorem asks_runStored (stored : Except Failure String) :
    (runStored settings unit input stored).Asks IsInner := by
  cases stored with
  | error e => trivial
  | ok path =>
      refine .bind (asks_runOnScript _ _ _ _) fun result => .request_bind trivial fun _ => ?_
      cases result <;> trivial

/-- What an attached pass does after it has asked for its session. -/
def runWith (granularity : Granularity) (artifact : String) :
    Except Failure Session → Program PassResult
  | .error e => unattached unit input granularity artifact e
  | .ok session => do
    let loaded ← Program.request (.load unit.codePath input)
    let closure ← session.stop
    return .completed unit.name (.attached granularity) input closure (.ofLoaded loaded)

theorem asks_unattached (granularity : Granularity) (artifact : String) (e : Failure) :
    (unattached unit input granularity artifact e).Asks IsInner := by
  refine .request_bind trivial fun left => ?_
  cases left <;> trivial

variable {σ : Type} (granularity : Granularity) (host : Host σ) (s : σ)

/-- The session that an attached pass asks for, or why there is none. -/
def sessionAsked : Except Failure Session :=
  ((Session.attach settings (host s .ownPid).1 granularity
    (Artifact.path settings.outputDir .attach granularity unit.name)).run host
      (host s .ownPid).2).1

theorem calls_runWith (artifact : String) (session : Except Failure Session) :
    calls ((runWith unit input granularity artifact session).log host s) =
      if session.isOk then [(unit.codePath, input)] else [] := by
  cases session with
  | error e =>
      have plain := (asks_unattached unit input granularity artifact e).mono
        fun _ => IsInner.isPlain
      rw [runWith, plain.calls_eq_nil host s]
      rfl
  | ok session =>
      have plain (loaded : Except String Json) : (session.stop.bind fun closure =>
          .done (PassResult.completed unit.name (.attached granularity) input closure
            (.ofLoaded loaded))).Asks IsPlain :=
        .bind ((Session.asks_stop session).mono fun _ => IsInner.isPlain) fun _ => trivial
      rw [runWith]
      simp only [Program.request, bind_eq, ask_bind, done_bind, pure_eq]
      rw [log_ask, calls_load, (plain _).calls_eq_nil]
      rfl

/-- An attached pass calls the code of its unit on its input if its session has come
about, and calls nothing else. -/
theorem calls_runAttached :
    calls ((runAttached settings unit input granularity).log host s) =
      if (sessionAsked settings unit granularity host s).isOk then [(unit.codePath, input)]
      else [] := by
  have plain := (Session.asks_attach settings (host s .ownPid).1 granularity
    (Artifact.path settings.outputDir .attach granularity unit.name)).mono fun _ => IsInner.isPlain
  have quiet := plain.calls_eq_nil host (host s .ownPid).2
  have hlog : (runAttached settings unit input granularity).log host s =
      ⟨.ownPid, (host s .ownPid).1⟩ :: ((Session.attach settings (host s .ownPid).1 granularity
        (Artifact.path settings.outputDir .attach granularity unit.name)).bind
          (runWith unit input granularity _)).log host (host s .ownPid).2 := rfl
  rw [hlog, log_bind]
  change calls (_ ++ _) = _
  rw [calls_append, quiet, List.nil_append, calls_runWith]
  rfl

/-! ## What does not show outside of a pass -/

theorem asks_runAttached : (runAttached settings unit input granularity).Asks IsSilent := by
  refine .request_bind trivial fun pid =>
    .bind ((Session.asks_attach _ _ _ _).mono fun _ => IsInner.isSilent) fun session => ?_
  cases session with
  | error e => exact (asks_unattached _ _ _ _ _).mono fun _ => IsInner.isSilent
  | ok session =>
      exact .request_bind trivial fun loaded =>
        .bind ((Session.asks_stop session).mono fun _ => IsInner.isSilent) fun _ => trivial

theorem asks_writeFresh (script : Script) (directory : Option String) :
    (script.writeFresh directory).Asks IsSilent := by
  refine .request_bind trivial fun created => ?_
  cases created with
  | error refusal => trivial
  | ok path =>
      refine .request_bind trivial fun stored => ?_
      cases stored with
      | error e => exact .request_bind trivial fun _ => trivial
      | ok _ => trivial

theorem asks_runSpawned : (runSpawned settings unit input).Asks IsSilent :=
  .bind (asks_writeFresh _ _) fun stored =>
    (asks_runStored settings unit input stored).mono fun _ => IsInner.isSilent

end Pass

end SyscallProfiler
