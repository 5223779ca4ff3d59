import SyscallProfiler.Proofs.Pass.Runs

/-!
# Which artifacts a pass keeps

A pass in fresh processes ensures the artifact of each run that ended, one after the other,
and lists what it has ensured when all went well or a run took too long. If something is denied
to it, it breaks off, and what it has ensured up to then is still there but is not listed.
-/

namespace SyscallProfiler

open Watch

namespace Exchange

/-- A path at which the host accepted that there be a file. -/
def ensured? : Exchange → Option String
  | ⟨.touch path, .ok _⟩ => some path
  | _ => none

/-- A path at which the host said that there is something. -/
def found? : Exchange → Option String
  | ⟨.exists_ path, true⟩ => some path
  | _ => none

theorem ensured?_of_isAside (e : Exchange) (h : e.request.isAside = true) : e.ensured? = none := by
  obtain ⟨request, answer⟩ := e
  cases request <;> first | rfl | cases h

theorem found?_of_isAside (e : Exchange) (h : e.request.isAside = true) : e.found? = none := by
  obtain ⟨request, answer⟩ := e
  cases request <;> first | rfl | cases h

end Exchange

/-- The paths at which the host accepted that there be files, in order. -/
def ensured (log : List Exchange) : List String := log.filterMap Exchange.ensured?

/-- The paths at which the host said that there is something, in order. -/
def found (log : List Exchange) : List String := log.filterMap Exchange.found?

theorem ensured_course (log : List Exchange) : ensured (course log) = ensured log :=
  filterMap_course Exchange.ensured?_of_isAside log

theorem found_course (log : List Exchange) : found (course log) = found log :=
  filterMap_course Exchange.found?_of_isAside log

/-- The artifacts that are listed are those that a log shows to be ensured, and after them those
that it shows to be found. If the log shows a denial, none are listed. -/
def Keeping (listed : List String) (log : List Exchange) : Prop :=
  listed = if denials log = [] then ensured log ++ found log else []

theorem keeping_course {listed : List String} {log : List Exchange} :
    Keeping listed (course log) ↔ Keeping listed log := by
  rw [Keeping, Keeping, denials_course, ensured_course, found_course]

section Run

variable (command : Command) (process : Nat) (sights : List Sight) (status : Option ExitStatus)
variable (more : List Exchange)

/-- The log of a run up to the end of its process. What is collected from it is left out, as
courses have no asides. -/
def running : List Exchange :=
  ⟨.start command, .ok process⟩ :: parting process sights status

/-- What has nothing to do with processes shows in what is asked after a run only. -/
theorem filterMap_running {β : Type} {f : Exchange → Option β}
    (starts : f ⟨.start command, .ok process⟩ = none)
    (looks : ∀ sight, f ⟨.look process, sight⟩ = none)
    (kills : (destruction process).filterMap f = []) :
    (running command process sights status ++ more).filterMap f = more.filterMap f := by
  rw [running, List.cons_append, List.filterMap_cons_none starts, List.filterMap_append,
    filterMap_parting looks kills, List.nil_append]

theorem denials_running :
    denials (running command process sights status ++ more) = denials more :=
  filterMap_running command process sights status more rfl (fun _ => rfl) rfl

theorem ensured_running :
    ensured (running command process sights status ++ more) = ensured more :=
  filterMap_running command process sights status more rfl (fun _ => rfl) rfl

theorem found_running :
    found (running command process sights status ++ more) = found more :=
  filterMap_running command process sights status more rfl (fun _ => rfl) rfl

end Run

namespace Pass

namespace SpawnJob

variable {job : SpawnJob} {artifacts : List String} {first : Option RunOutput}
variable {left : List Granularity} {result : Except Failure PassResult} {r : PassResult}
variable {c : List Exchange}

/-- How the artifacts of the runs that are left are added to those there are already. -/
structure Yields (job : SpawnJob) (artifacts : List String) (left : List Granularity)
    (result : Except Failure PassResult) (c : List Exchange) : Prop where
  early : ensured c <+: left.map job.artifact
  kept : ∀ r, result = .ok r → denials c = [] ∧ r.artifacts = artifacts ++ (ensured c ++ found c)
  broken : ∀ e, result = .error e → denials c ≠ []

/-- What the requests after a run yield, the run and these requests yield. -/
theorem Yields.after_running (command : Command) (process : Nat) (sights : List Sight)
    (status : Option ExitStatus) (h : job.Yields artifacts left result c) :
    job.Yields artifacts left result (running command process sights status ++ c) := by
  obtain ⟨early, kept, broken⟩ := h
  constructor
  · rwa [ensured_running]
  · rwa [denials_running, ensured_running, found_running]
  · rwa [denials_running]

/-- An artifact that is ensured comes before those of the runs that are left. -/
theorem Yields.touched {granularity : Granularity}
    (h : job.Yields (artifacts ++ [job.artifact granularity]) left result c) :
    job.Yields artifacts (granularity :: left) result
      (⟨.touch (job.artifact granularity), .ok ()⟩ :: c) where
  early := (List.prefix_cons_inj _).mpr h.early
  kept r result := by
    obtain ⟨free, listed⟩ := h.kept r result
    rw [List.append_assoc] at listed
    exact ⟨free, listed⟩
  broken := h.broken

/-- What comes before and after the runs on a script has nothing to do with artifacts. -/
theorem Yields.on_script (directory script text : String) (opened : Nat)
    (removed : Except OsError Unit) (h : job.Yields artifacts left result c) :
    job.Yields artifacts left result
      (⟨.createScript directory, .ok script⟩ :: ⟨.writeScript script text, .ok ()⟩ ::
        ⟨.wallClock, opened⟩ :: (c ++ [⟨.removeScript script, removed⟩])) := by
  have hdenials : denials (c ++ [⟨.removeScript script, removed⟩]) = denials c :=
    List.filterMap_append.trans (List.append_nil _)
  have hensured : ensured (c ++ [⟨.removeScript script, removed⟩]) = ensured c :=
    List.filterMap_append.trans (List.append_nil _)
  have hfound : found (c ++ [⟨.removeScript script, removed⟩]) = found c :=
    List.filterMap_append.trans (List.append_nil _)
  obtain ⟨early, kept, broken⟩ := h
  rw [← hensured] at early
  rw [← hdenials, ← hensured, ← hfound] at kept
  rw [← hdenials] at broken
  exact ⟨early, kept, broken⟩

/-- Nothing is ensured any more, and what is found is listed. -/
theorem Yields.of_ok (nothing : ensured c = []) (free : denials c = [])
    (listed : r.artifacts = artifacts ++ found c) : job.Yields artifacts left (.ok r) c where
  early := by rw [nothing]; exact List.nil_prefix
  kept r' result := by
    cases result
    rw [nothing, List.nil_append]
    exact ⟨free, listed⟩
  broken _ result := by cases result

/-- Nothing is ensured any more, and something is denied. -/
theorem Yields.of_error (e : Failure) (nothing : ensured c = []) (denied : denials c ≠ []) :
    job.Yields artifacts left (.error e) c where
  early := by rw [nothing]; exact List.nil_prefix
  kept _ result := by cases result
  broken _ _ := denied

theorem RunsCourse.yields (h : job.RunsCourse artifacts first left result c) :
    job.Yields artifacts left result c := by
  induction h with
  | finished artifacts first closed =>
      refine .of_ok rfl rfl ?_
      cases first <;> exact (List.append_nil _).symm
  | refused artifacts first granularity rest e => exact .of_error _ rfl (List.cons_ne_nil e [])
  | expired artifacts first granularity rest process sights left closed seen =>
      refine Yields.after_running _ process sights none (.of_ok rfl rfl ?_)
      cases left with
      | true => rfl
      | false => exact (List.append_nil _).symm
  | unlisted artifacts first granularity rest process sights status e seen =>
      exact Yields.after_running _ process sights (some status)
        (.of_error _ rfl (List.cons_ne_nil e []))
  | listed artifacts first granularity rest process sights run result after seen more ih =>
      exact Yields.after_running _ process sights (some run.status) ih.touched

end SpawnJob

variable {settings : Settings} {unit : Workload} {input : Payload} {r : PassResult}
variable {c : List Exchange}

theorem SpawnedCourse.keeping (h : SpawnedCourse settings unit input r c) :
    Keeping r.artifacts c ∧ ensured c <+: spawnedArtifacts settings unit := by
  cases h with
  | uncreated => exact ⟨rfl, List.nil_prefix⟩
  | unwritten => exact ⟨rfl, List.nil_prefix⟩
  | uncommanded => exact ⟨rfl, List.nil_prefix⟩
  | ran script interpreter opened result runs removed ran =>
      obtain ⟨early, kept, broken⟩ := ran.yields.on_script (scriptDirectory settings) script
        (Script.text ⟨unit.codePath, input⟩) opened removed
      refine ⟨?_, early⟩
      cases result with
      | error e => exact (if_neg (broken e rfl)).symm
      | ok r =>
          obtain ⟨free, listed⟩ := kept r rfl
          rw [Keeping, if_pos free]
          exact listed

variable (settings unit input) {σ : Type} (host : Host σ) (s : σ)

/-- A pass lists all artifacts that it has ensured, the summary before the full record, and
after them the one that it has found of a run that took too long; but once something is denied to
it, it lists nothing. -/
theorem runSpawned_artifacts :
    let pass := runSpawned settings unit input
    let r := (pass.run host s).1
    let log := pass.log host s
    r.artifacts = (if denials log = [] then ensured log ++ found log else []) ∧
      ensured log <+: [Artifact.path settings.outputDir .spawn .summary unit.name,
        Artifact.path settings.outputDir .spawn .full unit.name] := by
  intro pass r log
  obtain ⟨keeping, early⟩ := (takes_runSpawned settings unit input σ host s).keeping
  refine ⟨keeping_course.mp keeping, ?_⟩
  rwa [ensured_course] at early

/-- A disk on a host that starts one process and then no other. -/
def once : Host (Bool × List String)
  | (started, files), .start _ => (if started then .error .noSuchFile else .ok 3, (true, files))
  | (started, files), r => ((disk true files r).1, (started, (disk true files r).2))

/-- A pass lists nothing when its second run could not be started, although the artifact of the
first was ensured and is there. -/
theorem summary_unlisted_once :
    let pass := runSpawned brief sample default
    let ran := pass.run once (false, [])
    let log := pass.log once (false, [])
    started log = [3] ∧ (shownRuns log).map Option.isSome = [true] ∧
      ∃ artifact ∈ ensured log, artifact ∈ ran.2.2 ∧ artifact ∉ ran.1.artifacts := by
  decide

end Pass

end SyscallProfiler
