import SyscallProfiler.Proofs.Pass.Requests
import SyscallProfiler.Proofs.Session.Course

/-!
# The courses of passes

Each kind of pass is described once: by a relation between its result and its course,
with one rule for each way in which the pass can go. The relation for the runs on a script
follows the runs that are left. What holds of every pass is proved by cases on these rules,
and nothing has to be known about the programs any more.
-/

namespace SyscallProfiler.Pass

open Watch Session

section Attached

variable (settings : Settings) (unit : Workload) (input : Payload) (granularity : Granularity)

/-- The artifact of a pass with the collector attached. -/
def attachedArtifact : String := Artifact.path settings.outputDir .attach granularity unit.name

/-- How a pass with the collector attached can go: with which session, which result and
which course. -/
inductive AttachedCourse : Except Failure Session → PassResult → List Exchange → Prop where
  /-- There is no session, and nothing is called. -/
  | unattached (pid : Nat) (e : Failure) (before : List Exchange) (left : Bool)
      (attaching : Attaching settings pid granularity (attachedArtifact settings unit granularity)
        (.error e) before) :
      AttachedCourse (.error e)
        { PassResult.aborted unit.name (.attached granularity) input e.message with
          artifacts := if left then [attachedArtifact settings unit granularity] else [] }
        (before ++ [⟨.exists_ (attachedArtifact settings unit granularity), left⟩])
  /-- The workload is called in a session that is then stopped. -/
  | stopped (pid : Nat) (session : Session) (process : Nat) (window : Window)
      (before : List Exchange) (loaded : Except String Json) (closed : Nat) (sent : Bool)
      (sights : List Sight) (status : Option ExitStatus) (touched : Except OsError Unit)
      (attaching : Attaching settings pid granularity (attachedArtifact settings unit granularity)
        (.ok session) before)
      (observing : session.IsObserving process window) (seen : Seen sights status) :
      AttachedCourse (.ok session)
        (.completed unit.name (.attached granularity) input
          ⟨[session.artifact], some (window.closeAt closed), status.isNone, "", ""⟩
          (.ofLoaded loaded))
        (before ++ ⟨.load unit.codePath input, loaded⟩ :: ⟨.note (.session .stopping), ()⟩ ::
          ⟨.wallClock, closed⟩ :: ⟨.interrupt process, sent⟩ ::
            (parting process sights status ++
              closing session.artifact touched session.granted))

/-- A pass goes on according to what came of its session. -/
theorem takes_runWith (pid : Nat) (asked : Except Failure Session) (before : List Exchange)
    (attaching : Attaching settings pid granularity (attachedArtifact settings unit granularity)
      asked before) :
    (runWith unit input granularity (attachedArtifact settings unit granularity) asked).Takes
      fun result c =>
        AttachedCourse settings unit input granularity asked result (before ++ c) := by
  cases asked with
  | error e =>
      refine .request rfl fun left => ?_
      have unattached : AttachedCourse settings unit input granularity (.error e) _ _ :=
        .unattached pid e before left attaching
      cases left with
      | true => exact .done unattached
      | false => exact .done unattached
  | ok session =>
      obtain ⟨process, window, observing⟩ := attaching.exists_isObserving
      refine .request rfl fun loaded => .map ((takes_stop observing).mono ?_)
      rintro _ _ ⟨closed, sent, sights, status, touched, seen, rfl, rfl⟩
      exact .stopped pid session process window before loaded closed sent sights status touched
        attaching observing seen

variable {σ : Type} (host : Host σ) (s : σ)

theorem runAttached_eq :
    runAttached settings unit input granularity = .ask .ownPid fun pid =>
      (attach settings pid granularity (attachedArtifact settings unit granularity)).bind
        (runWith unit input granularity (attachedArtifact settings unit granularity)) := rfl

theorem attachedCourse_run :
    AttachedCourse settings unit input granularity (sessionAsked settings unit granularity host s)
      ((runAttached settings unit input granularity).run host s).1
      (course ((runAttached settings unit input granularity).log host s)) := by
  have attaching := takes_attach settings (host s .ownPid).1 granularity
    (attachedArtifact settings unit granularity) σ host (host s .ownPid).2
  rw [runAttached_eq, Program.run_ask, Program.log_ask, course_cons_of_aside rfl,
    Program.result_bind, Program.log_bind, course_append]
  exact takes_runWith settings unit input granularity _ _ _ attaching σ host _

theorem takes_runAttached :
    (runAttached settings unit input granularity).Takes fun result c =>
      ∃ asked, AttachedCourse settings unit input granularity asked result c :=
  fun _ host s => ⟨_, attachedCourse_run settings unit input granularity host s⟩

end Attached

/-- A collector that was started ends by itself or is killed, and its output is collected
in either case. -/
theorem takes_runBounded (command : Command) (timeout : Duration) :
    (runBounded command timeout).Takes fun result c =>
      (∃ e : OsError, result = .error (.collector s!"failed to start collector: {e.message}") ∧
        c = [⟨.start command, .error e⟩]) ∨
      ∃ (process : Nat) (sights : List Sight) (run : Option RunOutput),
        Seen sights (run.map RunOutput.status) ∧ result = .ok run ∧
          c = ⟨.start command, .ok process⟩ ::
            parting process sights (run.map RunOutput.status) := by
  refine .request rfl fun started => ?_
  cases started with
  | error e => exact .done (Or.inl ⟨e, rfl, rfl⟩)
  | ok process =>
      refine .bind (takes_untilEnd process timeout) ?_
      rintro status _ ⟨sights, seen, rfl⟩
      cases status with
      | some status =>
          exact .aside rfl fun stdout => .aside rfl fun stderr =>
            .done (Or.inr ⟨process, sights, some ⟨status, stdout, stderr⟩, seen, rfl, rfl⟩)
      | none =>
          refine .bind (takes_destroy process) ?_
          rintro _ _ rfl
          refine .aside rfl fun _ => .aside rfl fun _ =>
            .done (Or.inr ⟨process, sights, none, seen, rfl, ?_⟩)
          rw [List.append_nil]
          rfl

namespace SpawnJob

variable (job : SpawnJob)

/-- How the runs that are left can go, after runs that left `artifacts` and `first`. -/
inductive RunsCourse : List String → Option RunOutput → List Granularity →
    Except Failure PassResult → List Exchange → Prop where
  /-- No run is left. -/
  | finished (artifacts : List String) (first : Option RunOutput) (closed : Nat) :
      RunsCourse artifacts first [] (.ok (job.finished artifacts (job.window.closeAt closed) first))
        [⟨.wallClock, closed⟩]
  /-- The collector could not be started. -/
  | refused (artifacts : List String) (first : Option RunOutput) (granularity : Granularity)
      (rest : List Granularity) (e : OsError) :
      RunsCourse artifacts first (granularity :: rest)
        (.error (.collector s!"failed to start collector: {e.message}"))
        [⟨.start (job.command granularity), .error e⟩]
  /-- The run took too long. -/
  | expired (artifacts : List String) (first : Option RunOutput) (granularity : Granularity)
      (rest : List Granularity) (process : Nat) (sights : List Sight) (left : Bool) (closed : Nat)
      (seen : Seen sights none) :
      RunsCourse artifacts first (granularity :: rest)
        (.ok (job.expired (if left then artifacts ++ [job.artifact granularity] else artifacts)
          (job.window.closeAt closed)))
        (⟨.start (job.command granularity), .ok process⟩ :: (parting process sights none ++
          [⟨.exists_ (job.artifact granularity), left⟩, ⟨.wallClock, closed⟩]))
  /-- The run ended, but there could be no artifact of it. -/
  | unlisted (artifacts : List String) (first : Option RunOutput) (granularity : Granularity)
      (rest : List Granularity) (process : Nat) (sights : List Sight) (status : ExitStatus)
      (e : OsError) (seen : Seen sights (some status)) :
      RunsCourse artifacts first (granularity :: rest)
        (.error (.file (job.artifact granularity) e none))
        (⟨.start (job.command granularity), .ok process⟩ :: (parting process sights (some status) ++
          [⟨.touch (job.artifact granularity), .error e⟩]))
  /-- The run ended and left its artifact. -/
  | listed (artifacts : List String) (first : Option RunOutput) (granularity : Granularity)
      (rest : List Granularity) (process : Nat) (sights : List Sight) (run : RunOutput)
      (result : Except Failure PassResult) (after : List Exchange)
      (seen : Seen sights (some run.status))
      (more : RunsCourse (artifacts ++ [job.artifact granularity]) (first.or (some run)) rest
        result after) :
      RunsCourse artifacts first (granularity :: rest) result
        (⟨.start (job.command granularity), .ok process⟩ ::
          (parting process sights (some run.status) ++
            ⟨.touch (job.artifact granularity), .ok ()⟩ :: after))

theorem takes_runAll (artifacts : List String) (first : Option RunOutput)
    (left : List Granularity) :
    (job.runAll artifacts first left).Takes (job.RunsCourse artifacts first left) := by
  induction left generalizing artifacts first with
  | nil => exact .request rfl fun closed => .done (.finished artifacts first closed)
  | cons granularity rest ih =>
      refine .bind (takes_runBounded _ _) ?_
      rintro _ _ (⟨e, rfl, rfl⟩ | ⟨process, sights, run?, seen, rfl, rfl⟩)
      · exact .done (.refused artifacts first granularity rest e)
      · cases run? with
        | none =>
            refine .request rfl fun left => .request rfl fun closed => .done ?_
            exact .expired artifacts first granularity rest process sights left closed seen
        | some run =>
            refine .request rfl fun touched => ?_
            cases touched with
            | error e =>
                exact .done
                  (.unlisted artifacts first granularity rest process sights run.status e seen)
            | ok _ =>
                refine (ih _ _).mono fun result after more => ?_
                exact .listed artifacts first granularity rest process sights run result after
                  seen more

end SpawnJob

section Spawned

variable (settings : Settings) (unit : Workload) (input : Payload)

/-- The result of a pass in a fresh process whose script was made. -/
def spawnedResult : Except Failure PassResult → PassResult
  | .ok result => result
  | .error e => .aborted unit.name .spawn input e.message

/-- The directory for the script of a pass. -/
def scriptDirectory : String := settings.scriptDir.getD Script.commonDirectory

/-- How a pass in a fresh process can go. -/
inductive SpawnedCourse : PassResult → List Exchange → Prop where
  /-- There could be no file for the script. -/
  | uncreated (tried : String) (e : OsError) :
      SpawnedCourse
        (.aborted unit.name .spawn input
          (Failure.file (scriptDirectory settings) e (some tried)).message)
        [⟨.createScript (scriptDirectory settings), .error (tried, e)⟩]
  /-- The script could not be written. -/
  | unwritten (script : String) (e : OsError) (removed : Except OsError Unit) :
      SpawnedCourse
        (.aborted unit.name .spawn input (Failure.script (.unwritten e)).message)
        [⟨.createScript (scriptDirectory settings), .ok script⟩,
          ⟨.writeScript script (Script.text ⟨unit.codePath, input⟩), .error e⟩,
          ⟨.removeScript script, removed⟩]
  /-- There is no interpreter for the script. -/
  | uncommanded (script : String) (e : Failure) (removed : Except OsError Unit) :
      SpawnedCourse (.aborted unit.name .spawn input e.message)
        [⟨.createScript (scriptDirectory settings), .ok script⟩,
          ⟨.writeScript script (Script.text ⟨unit.codePath, input⟩), .ok ()⟩,
          ⟨.removeScript script, removed⟩]
  /-- The script was run on. -/
  | ran (script : String) (interpreter : List String) (opened : Nat)
      (result : Except Failure PassResult) (runs : List Exchange) (removed : Except OsError Unit)
      (ran : SpawnJob.RunsCourse ⟨settings, unit, input, interpreter, script, .openAt opened⟩
        [] none [.summary, .full] result runs) :
      SpawnedCourse (spawnedResult unit input result)
        (⟨.createScript (scriptDirectory settings), .ok script⟩ ::
          ⟨.writeScript script (Script.text ⟨unit.codePath, input⟩), .ok ()⟩ ::
            ⟨.wallClock, opened⟩ :: (runs ++ [⟨.removeScript script, removed⟩]))

theorem takes_interpreterCommand :
    settings.interpreterCommand.Takes fun _ c => c = [] := by
  rw [Settings.interpreterCommand]
  split
  · refine .aside rfl fun own => ?_
    cases own with
    | error e => exact .done rfl
    | ok own => exact .done rfl
  · exact .done rfl

theorem takes_runOnScript (script : String) :
    (runOnScript settings unit input script).Takes fun result c =>
      (∃ e, result = .error e ∧ c = []) ∨
      ∃ (interpreter : List String) (opened : Nat) (runs : List Exchange),
        SpawnJob.RunsCourse ⟨settings, unit, input, interpreter, script, .openAt opened⟩
          [] none [.summary, .full] result runs ∧
        c = ⟨.wallClock, opened⟩ :: runs := by
  refine .bind (takes_interpreterCommand settings) ?_
  rintro command _ rfl
  cases command with
  | error e => exact .done (Or.inl ⟨e, rfl, rfl⟩)
  | ok interpreter =>
      refine .request rfl fun opened => (SpawnJob.takes_runAll _ _ _ _).mono ?_
      exact fun result runs ran => Or.inr ⟨interpreter, opened, runs, ran, rfl⟩

/-- A script that was made is removed after the runs on it, whatever came of them. -/
theorem takes_runStored {script : String} :
    (runStored settings unit input (.ok script)).Takes fun result c =>
      SpawnedCourse settings unit input result
        (⟨.createScript (scriptDirectory settings), .ok script⟩ ::
          ⟨.writeScript script (Script.text ⟨unit.codePath, input⟩), .ok ()⟩ :: c) := by
  refine .bind (takes_runOnScript settings unit input script) ?_
  rintro _ _ (⟨e, rfl, rfl⟩ | ⟨interpreter, opened, runs, ran, rfl⟩)
  · exact .request rfl fun removed => .done (.uncommanded script e removed)
  · refine .request rfl fun removed => ?_
    have course := SpawnedCourse.ran script interpreter opened _ runs removed ran
    split
    · exact .done course
    · exact .done course

theorem takes_runSpawned :
    (runSpawned settings unit input).Takes (SpawnedCourse settings unit input) := by
  rw [runSpawned_eq, Script.writeFresh, Program.bind_eq, Program.bind_assoc]
  refine .request rfl fun created => ?_
  cases created with
  | error refusal => exact .done (.uncreated refusal.1 refusal.2)
  | ok script =>
      dsimp only
      rw [Program.bind_eq, Program.bind_assoc]
      refine .request rfl fun stored => ?_
      cases stored with
      | error e =>
          dsimp only
          rw [Program.bind_eq, Program.bind_assoc]
          exact .request rfl fun removed => .done (.unwritten script e removed)
      | ok _ => exact takes_runStored settings unit input

end Spawned

end SyscallProfiler.Pass
