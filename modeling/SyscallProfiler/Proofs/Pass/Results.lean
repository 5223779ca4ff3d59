import SyscallProfiler.Proofs.Outcome
import SyscallProfiler.Proofs.Pass.Course
import SyscallProfiler.Proofs.Window

/-!
# Results of passes are well formed

The fields of a result are filled in at several places, and what reads a result relies on
them to agree: a result that has a window has an outcome, one that has an error has no
artifacts that were not made, and so on. `WellFormed` lists what the fields have to do with
each other in every pass. Which artifacts are listed differs between the kinds of passes.
-/

namespace SyscallProfiler

theorem Outcome.isTimedOut_ofLoaded (loaded : Except String Json) :
    (Outcome.ofLoaded loaded).isTimedOut = false := by
  cases loaded <;> rfl

theorem Outcome.isTimedOut_eq_false_iff (o : Outcome) :
    o.isTimedOut = false ↔ (∃ v, o = .returned v) ∨ ∃ m, o = .faulted m := by
  cases o <;> simp [isTimedOut]

namespace PassResult

/-- How the fields of a result of a pass over a unit agree, however the pass went. -/
structure WellFormed (unit : Workload) (input : Payload) (pass : Pass) (r : PassResult) :
    Prop where
  workload_eq : r.workload = unit.name
  input_eq : r.input = input
  pass_eq : r.pass = pass
  /-- Success is the absence of an error. -/
  success_iff : r.success = true ↔ r.error = none
  /-- There is no error exactly if the workload ran to its end. -/
  error_iff : r.error = none ↔
    (∃ v, r.outcome = some (.returned v)) ∨ ∃ m, r.outcome = some (.faulted m)
  outcome_of_failure : r.success = false → r.outcome = none ∨ r.outcome = some .timedOut
  /-- Nothing but a process of its own can be stopped for taking too long. -/
  spawn_of_timedOut : r.outcome = some .timedOut → pass = .spawn
  outcome_iff : r.outcome = none ↔ r.window = none
  ordered : ∀ w, r.window = some w → w.startedAt ≤ w.endedAt
  streams : r.stdout ≠ "" ∨ r.stderr ≠ "" → r.success = true ∧ pass = .spawn
  escalated : r.escalated = true → r.success = true ∧ pass ≠ .spawn

/-- Which artifacts an attached pass lists: its own if it succeeded, and at most its own if it
failed. -/
def ListsOne (artifact : String) (r : PassResult) : Prop :=
  (r.success = true → r.artifacts = [artifact]) ∧
    (r.success = false → r.artifacts = [] ∨ r.artifacts = [artifact])

/-- Which artifacts a pass in fresh processes lists: all of them if it succeeded, the first of
them if it took too long, and otherwise none. -/
def ListsInOrder (artifacts : List String) (r : PassResult) : Prop :=
  (r.success = true → r.artifacts = artifacts) ∧
    (r.outcome = some .timedOut → r.artifacts <+: artifacts) ∧
    (r.success = false → r.outcome ≠ some .timedOut → r.artifacts = [])

variable {unit : Workload} {input : Payload} {pass : Pass}

/-- A pass that broke off may still list what it left. -/
theorem wellFormed_aborted (error : String) (artifacts : List String) :
    WellFormed unit input pass { aborted unit.name pass input error with artifacts } := by
  constructor <;> simp [aborted]

theorem wellFormed_completed {closure : Closure} {outcome : Outcome} {w : Window}
    (ends : outcome.isTimedOut = false) (window : closure.window = some w)
    (ordered : w.startedAt ≤ w.endedAt)
    (streams : closure.stdout ≠ "" ∨ closure.stderr ≠ "" → pass = .spawn)
    (escalated : closure.escalated = true → pass ≠ .spawn) :
    WellFormed unit input pass (completed unit.name pass input closure outcome) where
  workload_eq := rfl
  input_eq := rfl
  pass_eq := rfl
  success_iff := by simp [completed, ends]
  error_iff := by
    have settled := outcome.isTimedOut_eq_false_iff.mp ends
    simpa [completed, ends] using settled
  outcome_of_failure := by simp [completed, ends]
  spawn_of_timedOut := by
    intro h
    cases Option.some.inj h
    cases ends
  outcome_iff := by simp [completed, window]
  ordered := by
    intro v hv
    obtain rfl : w = v := Option.some.inj (window.symm.trans hv)
    exact ordered
  streams h := ⟨by simp [completed, ends], streams h⟩
  escalated h := ⟨by simp [completed, ends], escalated h⟩

theorem completed_listsInOrder (workload : String) {closure : Closure} {outcome : Outcome}
    (ends : outcome.isTimedOut = false) :
    (completed workload pass input closure outcome).ListsInOrder closure.artifacts := by
  refine ⟨fun _ => rfl, fun late => ?_, fun failed => ?_⟩
  · cases Option.some.inj late
    cases ends
  · simp [completed, ends] at failed

end PassResult

namespace Pass.SpawnJob

variable {job : SpawnJob}

theorem finished_wellFormed (artifacts : List String) (now : Nat) (first : Option RunOutput) :
    let r := job.finished artifacts (job.window.closeAt now) first
    r.WellFormed job.unit job.input .spawn ∧ r.ListsInOrder artifacts := by
  cases first with
  | some run =>
      have ends :=
        Outcome.isTimedOut_ofRun run.status.code? run.status.signal? run.stdout run.stderr
      exact ⟨PassResult.wellFormed_completed ends rfl (Window.startedAt_le_closeAt _ _)
        (fun _ => rfl) nofun, PassResult.completed_listsInOrder _ ends⟩
  | none =>
      exact ⟨PassResult.wellFormed_completed rfl rfl (Window.startedAt_le_closeAt _ _)
        (fun _ => rfl) nofun, PassResult.completed_listsInOrder _ rfl⟩

theorem expired_wellFormed (artifacts : List String) (now : Nat) :
    (job.expired artifacts (job.window.closeAt now)).WellFormed job.unit job.input .spawn where
  workload_eq := rfl
  input_eq := rfl
  pass_eq := rfl
  success_iff := by simp [expired, PassResult.completed, Outcome.isTimedOut]
  error_iff := by simp [expired, PassResult.completed]
  outcome_of_failure _ := Or.inr rfl
  spawn_of_timedOut _ := rfl
  outcome_iff := by simp [expired, PassResult.completed]
  ordered := by
    rintro w ⟨⟩
    exact Window.startedAt_le_closeAt _ _
  streams := by simp [expired, PassResult.completed]
  escalated := by simp [expired, PassResult.completed]

/-- The runs that are left add their artifacts to those that are listed, in order. -/
theorem RunsCourse.result_wellFormed {artifacts : List String} {first : Option RunOutput}
    {left : List Granularity} {result : Except Failure PassResult} {c : List Exchange}
    (h : job.RunsCourse artifacts first left result c) {r : PassResult} (hr : result = .ok r) :
    r.WellFormed job.unit job.input .spawn ∧
      r.ListsInOrder (artifacts ++ left.map job.artifact) := by
  induction h with
  | finished artifacts first closed =>
      cases hr
      rw [List.map_nil, List.append_nil]
      exact finished_wellFormed artifacts closed first
  | refused => cases hr
  | expired artifacts first granularity rest process sights left closed seen =>
      cases hr
      refine ⟨expired_wellFormed _ closed, nofun, fun _ => ?_,
        fun _ untimely => absurd rfl untimely⟩
      cases left with
      | true => exact ⟨rest.map job.artifact, by simp [SpawnJob.expired, PassResult.completed]⟩
      | false => exact List.prefix_append _ _
  | unlisted => cases hr
  | listed artifacts first granularity rest process sights run result after seen more ih =>
      rw [List.map_cons, List.append_cons]
      exact ih hr

end Pass.SpawnJob

namespace Pass

variable {settings : Settings} {unit : Workload} {input : Payload}

theorem AttachedCourse.result_wellFormed {granularity : Granularity}
    {asked : Except Failure Session} {r : PassResult} {c : List Exchange}
    (h : AttachedCourse settings unit input granularity asked r c) :
    r.WellFormed unit input (.attached granularity) ∧
      r.ListsOne (attachedArtifact settings unit granularity) := by
  cases h with
  | unattached pid e before left attaching =>
      refine ⟨PassResult.wellFormed_aborted e.message _, nofun, fun _ => ?_⟩
      cases left with
      | true => exact Or.inr rfl
      | false => exact Or.inl rfl
  | stopped pid session process window before loaded closed sent sights status touched attaching
      observing seen =>
      cases attaching
      have ends := Outcome.isTimedOut_ofLoaded loaded
      have notSpawn : Pass.attached granularity ≠ .spawn := by cases granularity <;> nofun
      refine ⟨PassResult.wellFormed_completed ends rfl (Window.startedAt_le_closeAt _ _)
        (by simp) fun _ => notSpawn, fun _ => rfl, fun failed => ?_⟩
      simp [PassResult.completed, ends] at failed

/-- The artifacts of a pass in fresh processes. -/
def spawnedArtifacts (settings : Settings) (unit : Workload) : List String :=
  [Granularity.summary, Granularity.full].map fun granularity =>
    Artifact.path settings.outputDir .spawn granularity unit.name

theorem aborted_wellFormed (error : String) :
    let r := PassResult.aborted unit.name .spawn input error
    r.WellFormed unit input .spawn ∧ r.ListsInOrder (spawnedArtifacts settings unit) :=
  ⟨PassResult.wellFormed_aborted error [], nofun, nofun, fun _ _ => rfl⟩

theorem SpawnedCourse.result_wellFormed {r : PassResult} {c : List Exchange}
    (h : SpawnedCourse settings unit input r c) :
    r.WellFormed unit input .spawn ∧ r.ListsInOrder (spawnedArtifacts settings unit) := by
  cases h with
  | uncreated => exact aborted_wellFormed _
  | unwritten => exact aborted_wellFormed _
  | uncommanded => exact aborted_wellFormed _
  | ran script interpreter opened result runs removed ran =>
      cases result with
      | error e => exact aborted_wellFormed _
      | ok r => exact ran.result_wellFormed rfl

variable (settings unit input) {σ : Type} (host : Host σ) (s : σ)

/-- Every pass returns a result that is well formed and lists the artifacts that it should. -/
theorem run_wellFormed :
    (∀ granularity,
      let r := ((runAttached settings unit input granularity).run host s).1
      r.WellFormed unit input (.attached granularity) ∧
        r.ListsOne (Artifact.path settings.outputDir .attach granularity unit.name)) ∧
    let r := ((runSpawned settings unit input).run host s).1
    r.WellFormed unit input .spawn ∧
      r.ListsInOrder [Artifact.path settings.outputDir .spawn .summary unit.name,
        Artifact.path settings.outputDir .spawn .full unit.name] :=
  ⟨fun granularity =>
      (attachedCourse_run settings unit input granularity host s).result_wellFormed,
    (takes_runSpawned settings unit input σ host s).result_wellFormed⟩

end Pass

end SyscallProfiler
