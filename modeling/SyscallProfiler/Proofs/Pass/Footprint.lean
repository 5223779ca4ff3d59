import SyscallProfiler.Proofs.Host.Directory
import SyscallProfiler.Proofs.Pass.Artifacts
import SyscallProfiler.Proofs.Pass.Custody
import SyscallProfiler.Proofs.Pass.Results

/-!
# What a pass leaves where its script was

A pass in fresh processes makes one script, runs on it, and removes it on every path on which it
made one. While there is a collector the script is there. In the end the directory for scripts
holds what it held before; only the artifacts of the pass may have come to be there, if they go
into the same directory.
-/

namespace SyscallProfiler

open Custody Watch

/-- A request that may be made while there is a script. It runs on no other script, and touches
nothing but artifacts. -/
def Request.RunsOn (script : String) (artifacts : List String) : Request → Prop
  | .createScript _ | .removeScript _ | .makeDirectory _ | .load _ _ => False
  | .touch path => path ∈ artifacts
  | .start command => command.args.getLast? = some script
  | _ => True

namespace Request

variable {F : Type} {file : String → F} {f : F} {r : Request} {script : String}
variable {artifacts : List String}

theorem runsOn_of_isAside (h : r.isAside = true) (script : String) (artifacts : List String) :
    r.RunsOn script artifacts := by
  cases r <;> trivial

theorem RunsOn.not_mayChange (h : r.RunsOn script artifacts)
    (other : ¬∃ path, r = .touch path ∧ file path = f) : ¬r.MayChange file f := by
  cases r with
  | touch path => exact fun same => other ⟨path, rfl, same⟩
  | createScript directory => exact h.elim
  | removeScript removed => exact h.elim
  | makeDirectory made => exact h.elim
  | load codePath input => exact h.elim
  | _ => exact not_false

theorem RunsOn.mem_of_touch {path : String} (h : r.RunsOn script artifacts)
    (touch : r = .touch path) : path ∈ artifacts := by
  rw [touch] at h
  exact h

end Request

namespace Pass

/-! ## The log of a pass -/

/-- What is asked for on a script: runs on it one after the other, with nothing left to see to. -/
structure OnScript (script : String) (artifacts : List String) (log : List Exchange) : Prop where
  runs : ∀ e ∈ log, e.request.RunsOn script artifacts
  leads : Leads free log free

/-- What is asked for while there is a script, with its making and its removal. -/
def withScript (directory script : String) (between : List Exchange)
    (removed : Except OsError Unit) : List Exchange :=
  ⟨.createScript directory, .ok script⟩ :: (between ++ [⟨.removeScript script, removed⟩])

/-- How the log of a pass in a fresh process encloses the time in which there is a script. -/
inductive ScriptLog (directory : String) (artifacts : List String) : List Exchange → Prop where
  /-- There never is a script. -/
  | refused (refusal : String × OsError) :
      ScriptLog directory artifacts [⟨.createScript directory, .error refusal⟩]
  /-- The script is made first and removed last. -/
  | enclosed (script : String) (between : List Exchange) (removed : Except OsError Unit)
      (on : OnScript script artifacts between) :
      ScriptLog directory artifacts (withScript directory script between removed)

namespace OnScript

variable {script directory : String} {artifacts : List String} {between before : List Exchange}
variable {removed : Except OsError Unit} (on : OnScript script artifacts between)

include on

/-- All collectors are given the script. -/
theorem getLast?_args_of_start :
    ∀ e ∈ withScript directory script between removed, ∀ command, e.request = .start command →
      command.args.getLast? = some script := by
  have given (e : Exchange) (he : e ∈ between) (command : Command)
      (start : e.request = .start command) : command.args.getLast? = some script := by
    have runs := on.runs e he
    rwa [start] at runs
  exact List.forall_mem_cons.mpr ⟨nofun, List.forall_mem_append.mpr
    ⟨given, List.forall_mem_singleton.mpr nofun⟩⟩

/-- There is a collector only after the script is made and before it is removed. -/
theorem eq_cons_of_charged (initial : before <+: withScript directory script between removed)
    (charged : (free.along before).charges ≠ []) :
    ∃ during, during <+: between ∧ before = ⟨.createScript directory, .ok script⟩ :: during := by
  have settled : free.along (withScript directory script between removed) = free :=
    Leads.along_eq (.pass trivial rfl (on.leads.append (.single trivial)))
  rcases List.prefix_cons_iff.mp initial with rfl | ⟨during, rfl, further⟩
  · exact absurd rfl charged
  · rcases List.prefix_concat_iff.mp further with rfl | part
    · rw [← withScript, settled] at charged
      exact absurd rfl charged
    · exact ⟨during, part, rfl⟩

end OnScript

theorem runsOn_parting {script : String} {artifacts : List String} (process : Nat)
    (sights : List Sight) (status : Option ExitStatus) :
    ∀ e ∈ parting process sights status, e.request.RunsOn script artifacts := by
  refine List.forall_mem_append.mpr ⟨fun e he => ?_, ?_⟩
  · obtain ⟨sight, -, rfl⟩ := List.mem_map.mp he
    trivial
  · cases status with
    | some status => exact fun e he => absurd he List.not_mem_nil
    | none =>
        exact List.forall_mem_cons.mpr ⟨trivial, List.forall_mem_cons.mpr
          ⟨trivial, List.forall_mem_singleton.mpr trivial⟩⟩

namespace SpawnJob

variable {job : SpawnJob}

/-- A run is given the script as the last of its arguments. -/
theorem getLast?_args (granularity : Granularity) :
    (job.command granularity).args.getLast? = some job.script := by
  rw [command, Collector.spawnArgs, List.getLast?_concat]

theorem RunsCourse.runsOn {artifacts all : List String} {first : Option RunOutput}
    {left : List Granularity} {result : Except Failure PassResult} {c : List Exchange}
    (h : job.RunsCourse artifacts first left result c)
    (among : ∀ granularity ∈ left, job.artifact granularity ∈ all) :
    ∀ e ∈ c, e.request.RunsOn job.script all := by
  have started (granularity : Granularity) :
      (Request.start (job.command granularity)).RunsOn job.script all := getLast?_args granularity
  induction h with
  | finished => exact List.forall_mem_singleton.mpr trivial
  | refused artifacts first granularity rest e =>
      exact List.forall_mem_singleton.mpr (started granularity)
  | expired artifacts first granularity rest process sights left closed seen =>
      exact List.forall_mem_cons.mpr ⟨started granularity, List.forall_mem_append.mpr
        ⟨runsOn_parting _ _ _, List.forall_mem_cons.mpr
          ⟨trivial, List.forall_mem_singleton.mpr trivial⟩⟩⟩
  | unlisted artifacts first granularity rest process sights status e seen =>
      exact List.forall_mem_cons.mpr ⟨started granularity, List.forall_mem_append.mpr
        ⟨runsOn_parting _ _ _, List.forall_mem_singleton.mpr (among granularity (.head _))⟩⟩
  | listed artifacts first granularity rest process sights run result after seen more ih =>
      obtain ⟨here, later⟩ := List.forall_mem_cons.mp among
      exact List.forall_mem_cons.mpr ⟨started granularity, List.forall_mem_append.mpr
        ⟨runsOn_parting _ _ _, List.forall_mem_cons.mpr ⟨here, ih later⟩⟩⟩

end SpawnJob

variable (settings : Settings) (unit : Workload) (input : Payload)

theorem logs_runOnScript (script : String) :
    (runOnScript settings unit input script).Logs fun _ log =>
      OnScript script (spawnedArtifacts settings unit) log := by
  intro σ host s
  have going := takes_runOnScript settings unit input script σ host s
  suffices on : OnScript script (spawnedArtifacts settings unit)
      (course ((runOnScript settings unit input script).log host s)) by
    refine ⟨fun e he => ?_, leads_course.mp on.leads⟩
    cases aside : e.request.isAside with
    | true => exact Request.runsOn_of_isAside aside _ _
    | false => exact on.runs e (mem_course.mpr ⟨he, aside⟩)
  rcases going with ⟨e, -, nothing⟩ | ⟨interpreter, opened, runs, ran, whole⟩
  · rw [nothing]
    exact ⟨fun e he => absurd he List.not_mem_nil, .nil _⟩
  · rw [whole]
    refine ⟨List.forall_mem_cons.mpr ⟨trivial, ran.runsOn fun granularity left => ?_⟩,
      .pass trivial rfl ran.leads⟩
    exact List.mem_map_of_mem left

/-- A script that was made is removed after the runs on it, whatever came of them. -/
theorem logs_runStored (script : String) :
    (runStored settings unit input (.ok script)).Logs fun _ log =>
      ∃ between removed, OnScript script (spawnedArtifacts settings unit) between ∧
        log = between ++ [⟨.removeScript script, removed⟩] := by
  refine .bind (logs_runOnScript settings unit input script) fun result log on => ?_
  refine .ask fun removed => ?_
  cases result with
  | error e => exact .done ⟨log, removed, on, rfl⟩
  | ok r => exact .done ⟨log, removed, on, rfl⟩

theorem logs_runSpawned :
    (runSpawned settings unit input).Logs fun _ log =>
      ScriptLog (scriptDirectory settings) (spawnedArtifacts settings unit) log := by
  rw [runSpawned_eq, Script.writeFresh, Program.bind_eq, Program.bind_assoc]
  refine .ask fun created => ?_
  cases created with
  | error refusal => exact .done (.refused refusal)
  | ok script =>
      refine .ask fun stored => ?_
      cases stored with
      | error e =>
          refine .ask fun removed => .done (.enclosed script [_] removed ⟨?_, .single trivial⟩)
          exact List.forall_mem_singleton.mpr trivial
      | ok _ =>
          change (runStored settings unit input (.ok script)).Logs _
          refine (logs_runStored settings unit input script).mono ?_
          rintro _ _ ⟨between, removed, on, rfl⟩
          exact .enclosed script (_ :: between) removed
            ⟨List.forall_mem_cons.mpr ⟨trivial, on.runs⟩, .pass trivial rfl on.leads⟩

/-! ## What becomes of the directory -/

section Directory

variable {settings unit input} {directory : String} {artifacts : List String} {log : List Exchange}
variable {σ F : Type} {host : Host σ} {file : String → F} {present : σ → F → Prop}
variable {inside : F → Prop} {s : σ} {f : F}
variable (alone : host.LeavesAlone file present directory inside)

include alone

/-- Nothing is taken away while there is a script, the script least of all. -/
theorem present_of_runsOn {script : String} {during : List Exchange}
    (runs : ∀ e ∈ during, e.request.RunsOn script artifacts) (among : inside f)
    (there : present s f) : present (host.along s during) f :=
  alone.present_along among there fun e he =>
    (Classical.em (∃ path, e.request = .touch path ∧ file path = f)).imp_right
      (runs e he).not_mayChange

/-- What becomes of a file while a script is made, run on and removed. The script is none of the
files that were there, so it takes none of them with it. -/
theorem OnScript.present_enclosed {script : String} {between : List Exchange}
    (on : OnScript script artifacts between)
    (created : (host s (.createScript directory)).1 = .ok script) (removed : Except OsError Unit)
    (among : inside f) :
    let after := host.along s (withScript directory script between removed)
    ((∀ path ∈ artifacts, file path ≠ f) → (present after f ↔ present s f)) ∧
      (present s f → present after f) := by
  intro after
  obtain ⟨own, fresh, there⟩ := alone.created created
  have final : after =
      (host (host.along (host s (.createScript directory)).2 between) (.removeScript script)).2 :=
    host.along_append (host s (.createScript directory)).2 between [_]
  rw [final]
  -- The script comes and goes. Every other file is left alone when it is made and removed, so
  -- all that can happen to one is that it is touched in between.
  by_cases same : file script = f
  · rw [← same]
    have gone := alone.removed created between (present_of_runsOn alone on.runs own there)
    exact ⟨fun _ => iff_of_false gone fresh, fun before => absurd before fresh⟩
  · have begun : present (host s (.createScript directory)).2 f ↔ present s f := by
      refine alone.createdOnly among fun script' h => ?_
      rwa [Except.ok.inj (h.symm.trans created)]
    have ended {s : σ} : present (host s (.removeScript script)).2 f ↔ present s f :=
      alone.spared among same
    constructor
    · intro apart
      refine ended.trans ((alone.present_along_iff among fun e he => ?_).trans begun)
      refine (on.runs e he).not_mayChange ?_
      rintro ⟨path, touch, leads⟩
      exact apart path ((on.runs e he).mem_of_touch touch) leads
    · intro before
      exact ended.mpr (present_of_runsOn alone on.runs among (begun.mpr before))

/-- A file of the directory after a pass. Only artifacts may have come to be there. -/
theorem ScriptLog.present_along (h : ScriptLog directory artifacts log)
    (answered : ∀ {r a rest}, log = ⟨r, a⟩ :: rest → (host s r).1 = a) (among : inside f) :
    ((∀ path ∈ artifacts, file path ≠ f) → (present (host.along s log) f ↔ present s f)) ∧
      (present s f → present (host.along s log) f) := by
  cases h with
  | refused refusal =>
      have same : present (host s (.createScript directory)).2 f ↔ present s f := by
        refine alone.createdOnly among fun script h => ?_
        rw [answered rfl] at h
        cases h
      exact ⟨fun _ => same, same.mpr⟩
  | enclosed script between removed on =>
      exact on.present_enclosed alone (answered rfl) removed among

/-- Whenever there is a collector, the script is there that all collectors are given. -/
theorem ScriptLog.present_script (h : ScriptLog directory artifacts log)
    (answered : ∀ {r a rest}, log = ⟨r, a⟩ :: rest → (host s r).1 = a) :
    ∃ script, (∀ e ∈ log, ∀ command, e.request = .start command →
        command.args.getLast? = some script) ∧
      ∀ before, before <+: log → (free.along before).charges ≠ [] →
        present (host.along s before) (file script) := by
  cases h with
  | refused refusal =>
      refine ⟨"", List.forall_mem_singleton.mpr nofun, fun before initial charged => ?_⟩
      rcases List.prefix_cons_iff.mp initial with rfl | ⟨rest, rfl, further⟩
      · exact absurd rfl charged
      · rw [List.prefix_nil.mp further] at charged
        exact absurd rfl charged
  | enclosed script between removed on =>
      obtain ⟨own, -, there⟩ := alone.created (answered rfl)
      refine ⟨script, on.getLast?_args_of_start, fun before initial charged => ?_⟩
      obtain ⟨during, ⟨rest, rfl⟩, rfl⟩ := on.eq_cons_of_charged initial charged
      have still : present (host.along (host s (.createScript directory)).2 during)
          (file script) :=
        present_of_runsOn alone (List.forall_mem_append.mp on.runs).1 own there
      exact still

end Directory

variable (settings : Settings) (unit : Workload) (input : Payload)

/-- A pass in fresh processes, on a host that leaves the directory for scripts alone but may do
whatever it likes to the pass itself. In the end that directory holds the files that it held
before, and none but them, except for artifacts of the pass that go there. Every collector is
given one and the same script, and as long as there is a collector, the script is there. -/
theorem runSpawned_footprint {σ F : Type} {host : Host σ} {file : String → F}
    {present : σ → F → Prop} {inside : F → Prop}
    (alone : host.LeavesAlone file present (scriptDirectory settings) inside) (s : σ) :
    let log := (runSpawned settings unit input).log host s
    let after := ((runSpawned settings unit input).run host s).2
    (∀ f, inside f →
        ((∀ path ∈ spawnedArtifacts settings unit, file path ≠ f) →
          (present after f ↔ present s f)) ∧
        (present s f → present after f)) ∧
      ∃ script, (∀ e ∈ log, ∀ command, e.request = .start command →
          command.args.getLast? = some script) ∧
        ∀ before, before <+: log → (free.along before).charges ≠ [] →
          present (host.along s before) (file script) := by
  intro log after
  have shape : ScriptLog (scriptDirectory settings) (spawnedArtifacts settings unit) log :=
    logs_runSpawned settings unit input σ host s
  have final : host.along s log = after := Host.along_log _ s
  rw [← final]
  exact ⟨fun f among => shape.present_along alone Host.answer_of_log_eq_cons among,
    shape.present_script alone Host.answer_of_log_eq_cons⟩

/-! ## A host with a shelf -/

/-- A host with files on which no file is created in the place of another. -/
def shelf : Host (List String)
  | files, .createScript directory =>
      if directory ++ "/script.json" ∈ files then
        (.error (directory ++ "/script.json", .exists_), files)
      else (.ok (directory ++ "/script.json"), (directory ++ "/script.json") :: files)
  | files, r => disk true files r

/-- The paths of the files in a directory. -/
def IsIn (directory path : String) : Prop := ∃ name, path = directory ++ "/" ++ name

theorem shelf_leavesAlone (directory : String) :
    shelf.LeavesAlone id (fun files path => path ∈ files) directory (IsIn directory) where
  created {files script} h := by
    by_cases taken : directory ++ "/script.json" ∈ files
    · simp [shelf, taken] at h
    · simp only [shelf, if_neg taken, Except.ok.injEq] at h ⊢
      subst h
      exact ⟨⟨"script.json", by simp [String.append_assoc]⟩, taken, .head _⟩
  createdOnly {files path} among h := by
    by_cases taken : directory ++ "/script.json" ∈ files
    · simp [shelf, taken]
    · have other : path ≠ directory ++ "/script.json" := by
        rintro rfl
        exact h _ (by simp only [shelf, if_neg taken]) rfl
      simp [shelf, taken, other]
  removed {files script} created log := by simp [shelf, disk]
  touched {files path} there := .tail _ there
  spared {files r path} among h := by
    cases r with
    | createScript directory => exact absurd trivial h
    | makeDirectory made => exact absurd trivial h
    | load codePath input => exact absurd trivial h
    | touch touched =>
        have other : path ≠ touched := fun same => h same.symm
        simp [shelf, disk, other]
    | removeScript removed =>
        have other : path ≠ removed := fun same => h same.symm
        simp [shelf, disk, other]
    | _ => exact Iff.rfl

/-- A directory for scripts in which there is another file. The collector is run twice, and the
directory is as it was before. -/
theorem runSpawned_footprint_shelf :
    let settings : Settings := { brief with scriptDir := some "scripts" }
    let pass := runSpawned settings sample default
    let after := (pass.run shelf ["scripts/kept"]).2
    shelf.LeavesAlone id (fun files path => path ∈ files) (scriptDirectory settings)
        (IsIn "scripts") ∧
      ((pass.log shelf ["scripts/kept"]).filterMap Exchange.started?).length = 2 ∧
      "scripts/kept" ∈ after ∧ "scripts/script.json" ∉ after := by
  intro settings pass after
  have alone := shelf_leavesAlone "scripts"
  obtain ⟨same, -⟩ := runSpawned_footprint settings sample default alone ["scripts/kept"]
  have kept := (same "scripts/kept" ⟨"kept", by decide⟩).2 (.head _)
  have gone := (same "scripts/script.json" ⟨"script.json", by decide⟩).1 (by decide)
  exact ⟨alone, by decide, kept, fun there => absurd (gone.mp there) (by decide)⟩

/-- The directory for scripts is not as it was if artifacts go there: the pass makes them itself. -/
theorem artifact_left_on_shelf :
    let settings : Settings := { brief with scriptDir := some "out" }
    let after := ((runSpawned settings sample default).run shelf []).2
    shelf.LeavesAlone id (fun files path => path ∈ files) (scriptDirectory settings)
        (IsIn "out") ∧
      ∃ path, IsIn "out" path ∧ path ∈ after ∧ path ∉ ([] : List String) :=
  ⟨shelf_leavesAlone "out", "out/fullpython_summary_w.txt",
    ⟨"fullpython_summary_w.txt", by decide⟩, by decide, by decide⟩

end Pass

end SyscallProfiler
