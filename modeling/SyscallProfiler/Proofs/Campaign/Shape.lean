import SyscallProfiler.Proofs.Campaign.Course
import SyscallProfiler.Proofs.Pass.Artifacts
import SyscallProfiler.Proofs.Pass.Results

/-!
# The shape of runs over workloads

A run whose report is accepted comes to an end, whatever becomes of its passes. If there is a
workload, all three passes are made, in order and each on its stage, and each of them leaves one
result about the same workload and the same input. If there is none, nothing is done but to say
so.
-/

namespace SyscallProfiler

/-- A request that writes to the report or goes on to a stage. -/
def Request.IsReporting : Request → Prop
  | .write _ | .note (.stage _) => True
  | _ => False

/-! ## The stages in pieces of logs -/

theorem stages_entering (stage : Stage) (log : List Exchange) :
    stages (entering stage :: log) = stage :: stages log := rfl

theorem stages_writing (pieces : List String) : stages (writing pieces) = [] := by
  rw [stages, writing, List.filterMap_map]
  exact List.filterMap_eq_nil_iff.mpr fun _ _ => rfl

theorem isReporting_of_mem_writing {pieces : List String} :
    ∀ e ∈ writing pieces, e.request.IsReporting := by
  intro e he
  obtain ⟨piece, -, rfl⟩ := List.mem_map.mp he
  trivial

namespace Campaign

theorem stages_said (format : ReportFormat) (pieces : List String) :
    stages (said format pieces) = [] := by
  cases format with
  | text => exact stages_writing pieces
  | json => rfl

theorem stages_announced (title : String) (unit : Workload) (input : Payload)
    (format : ReportFormat) : stages (announced title unit input format) = [] := by
  cases format with
  | text => rw [announced, stages_append, stages_writing]; rfl
  | json => rfl

theorem isReporting_of_mem_said {format : ReportFormat} {pieces : List String} :
    ∀ e ∈ said format pieces, e.request.IsReporting := by
  cases format with
  | text => exact isReporting_of_mem_writing
  | json => exact fun e he => absurd he List.not_mem_nil

section PassesLog

variable {format : ReportFormat} {unit : Workload} {input : Payload} {log : List Exchange}
variable {passes : List (Stage × String × Program PassResult)} {results : List PassResult}

/-- No pass hides a stage, and none goes on to a stage of its own. -/
theorem PassesLog.stages_eq (h : PassesLog format unit input passes results log)
    (silent : ∀ pass ∈ passes, pass.2.2.Asks Request.IsSilent) :
    stages log = passes.map (·.1) := by
  induction h with
  | nil => rfl
  | cons ran rest ih =>
      obtain ⟨first, later⟩ := List.forall_mem_cons.mp silent
      rw [List.cons_append, stages_entering, stages_append, stages_append, stages_append,
        stages_announced, ran.stages_eq_nil first, stages_said, ih later]
      rfl

end PassesLog

variable (c : Campaign) (format : ReportFormat) (query : String)

theorem passes_silent (unit : Workload) (input : Payload) :
    ∀ pass ∈ c.passes unit input, pass.2.2.Asks Request.IsSilent :=
  c.forall_mem_passes (Pass.asks_runAttached c.settings unit input)
    (Pass.asks_runSpawned c.settings unit input)

theorem stages_reported (f : Findings) :
    stages (c.reported format query f) = [.reporting, .idle] := by
  rw [reported, stages_entering, stages_append, stages_writing]
  rfl

end Campaign

/-! ## The results of passes -/

namespace Pass

variable {settings : Settings} {unit : Workload} {input : Payload} {r : PassResult}
variable {log : List Exchange}

theorem wellFormed_of_ran_attached {granularity : Granularity}
    (ran : (runAttached settings unit input granularity).Ran r log) :
    r.WellFormed unit input (.attached granularity) := by
  obtain ⟨asked, going⟩ := (takes_runAttached settings unit input granularity).of_ran ran
  exact going.result_wellFormed.1

theorem wellFormed_of_ran_spawned (ran : (runSpawned settings unit input).Ran r log) :
    r.WellFormed unit input .spawn :=
  ((takes_runSpawned settings unit input).of_ran ran).result_wellFormed.1

end Pass

namespace Campaign

variable (c : Campaign) (format : ReportFormat) (query : String)

/-- Each of the three passes is made and leaves one result. -/
theorem PassesLog.exists_ran {unit : Workload} {input : Payload} {results : List PassResult}
    {log : List Exchange} (h : PassesLog format unit input (c.passes unit input) results log) :
    ∃ summary full spawned log₁ log₂ log₃, results = [summary, full, spawned] ∧
      (Pass.runAttached c.settings unit input .summary).Ran summary log₁ ∧
        (Pass.runAttached c.settings unit input .full).Ran full log₂ ∧
          (Pass.runSpawned c.settings unit input).Ran spawned log₃ := by
  -- There are three passes, so there are three steps to the log and no more.
  change PassesLog format unit input [_, _, _] results log at h
  cases h with
  | cons ran₁ rest => cases rest with
    | cons ran₂ rest => cases rest with
      | cons ran₃ rest =>
          cases rest
          exact ⟨_, _, _, _, _, _, rfl, ran₁, ran₂, ran₃⟩

/-- However the passes went, their results are well formed. -/
theorem PassesLog.results_eq {unit : Workload} {input : Payload} {results : List PassResult}
    {log : List Exchange} (h : PassesLog format unit input (c.passes unit input) results log) :
    ∃ summary full spawned : PassResult, results = [summary, full, spawned] ∧
      summary.WellFormed unit input .attachSummary ∧ full.WellFormed unit input .attachFull ∧
        spawned.WellFormed unit input .spawn := by
  obtain ⟨summary, full, spawned, _, _, _, rfl, ran₁, ran₂, ran₃⟩ := h.exists_ran
  exact ⟨summary, full, spawned, rfl, Pass.wellFormed_of_ran_attached ran₁,
    Pass.wellFormed_of_ran_attached ran₂, Pass.wellFormed_of_ran_spawned ran₃⟩

section RunLog

variable {c format query} {f : Findings} {log : List Exchange}

theorem RunLog.stages_eq (h : c.RunLog format query f log) :
    stages log = .resolving :: ((if f.workload.isSome then [.attachSummary, .attachFull, .spawn]
      else []) ++ [.reporting, .idle]) := by
  cases h with
  | unresolved missing =>
      rw [stages_append, stages_said, stages_entering, stages_reported]
      rfl
  | resolved unit made results log found ran =>
      rw [stages_append, stages_said, stages_entering, stages_append, stages_append, stages_said,
        stages_reported]
      change _ :: (stages log ++ _) = _
      rw [ran.stages_eq (c.passes_silent unit _)]
      rfl

/-- Where there is no workload, nothing is asked for but to report that. -/
theorem RunLog.isReporting (h : c.RunLog format query f log) (missing : f.workload = none) :
    ∀ e ∈ log, e.request.IsReporting := by
  cases h with
  | unresolved _ =>
      exact List.forall_mem_append.mpr ⟨isReporting_of_mem_said, List.forall_mem_cons.mpr
        ⟨trivial, List.forall_mem_cons.mpr ⟨trivial, List.forall_mem_append.mpr
          ⟨isReporting_of_mem_writing, List.forall_mem_singleton.mpr trivial⟩⟩⟩⟩
  | resolved => cases missing

theorem RunLog.results_eq (h : c.RunLog format query f log) (unit : Workload)
    (found : f.workload = some unit) :
    f.results.map (·.pass) = [.attachSummary, .attachFull, .spawn] ∧
      ∀ r ∈ f.results, r.workload = unit.name ∧ r.input = c.registry.inputOf unit.name := by
  cases h with
  | unresolved => cases found
  | resolved _ made results inner _ ran =>
      cases found
      obtain ⟨summary, full, spawned, rfl, hsummary, hfull, hspawned⟩ := ran.results_eq
      constructor
      · rw [List.map_cons, List.map_cons, List.map_singleton, hsummary.pass_eq, hfull.pass_eq,
          hspawned.pass_eq]
      · simp only [List.forall_mem_cons, List.not_mem_nil, false_implies, implies_true, and_true]
        exact ⟨⟨hsummary.workload_eq, hsummary.input_eq⟩, ⟨hfull.workload_eq, hfull.input_eq⟩,
          hspawned.workload_eq, hspawned.input_eq⟩

theorem RunLog.workload_eq (h : c.RunLog format query f log) :
    f.workload = c.registry.resolve? query ∧ (f.workload = none → f.results = []) := by
  cases h with
  | unresolved missing => exact ⟨missing.symm, fun _ => rfl⟩
  | resolved unit made results inner found ran => exact ⟨found.symm, nofun⟩

end RunLog

/-- A run whose report is accepted, on any host and whatever becomes of its passes. It comes to
an end and is idle then. If there is no such workload, there are no results, nothing was asked
for but to write the report, and no stage of a pass was entered. If there is one, there are three
results about it and its input, one for each pass, and the stages of the passes were entered in
their order. -/
theorem runFrom_shape (stage : Stage) {σ : Type} (host : Host σ) (s : σ)
    (accepted : Accepted ((c.runFrom stage query format).log host s)) :
    let run := c.runFrom stage query format
    let log := run.log host s
    ∃ f : Findings, (run.run host s).1 = (.ok f, .idle) ∧
      f.workload = c.registry.resolve? query ∧
      (f.workload = none →
        f.results = [] ∧ (∀ e ∈ log, e.request.IsReporting) ∧
          stages log = [.resolving, .reporting, .idle]) ∧
      ∀ unit, f.workload = some unit →
        (f.results.map (·.pass) = [.attachSummary, .attachFull, .spawn] ∧
          ∀ r ∈ f.results, r.workload = unit.name ∧ r.input = c.registry.inputOf unit.name) ∧
        stages log = [.resolving, .attachSummary, .attachFull, .spawn, .reporting, .idle] := by
  intro run log
  obtain ⟨f, _, hrun, rfl, going⟩ := (c.goes_run format query).of_accepted host s accepted
  obtain ⟨found, empty⟩ := going.workload_eq
  have entered : stages log = _ := going.stages_eq
  refine ⟨f, hrun, found, fun missing => ⟨empty missing, going.isReporting missing, ?_⟩,
    fun unit resolved => ⟨going.results_eq unit resolved, ?_⟩⟩
  · rw [entered, missing]
    rfl
  · rw [entered, resolved]
    rfl

/-- What a host that refuses nothing is told is accepted. -/
theorem accepted_log {α σ : Type} {host : Host σ}
    (h : ∀ s r, Exchange.refusal? ⟨r, (host s r).1⟩ = none) (p : Program α) (s : σ) :
    Accepted (p.log host s) := by
  rintro ⟨r, a⟩ he
  obtain ⟨s', rfl⟩ := Program.exists_state_of_mem_log he
  exact h s' r

/-- A run over one unit where nothing can be stored. All passes are made. -/
theorem runFrom_shape_disk :
    let c : Campaign := ⟨Pass.brief, ⟨[Pass.sample], []⟩⟩
    let run := c.runFrom .idle "w" .text
    Accepted (run.log (Pass.disk false) []) ∧
      ∃ f : Findings, (run.run (Pass.disk false) []).1 = (.ok f, .idle) ∧
        f.workload = some Pass.sample ∧
        f.results.map (·.pass) = [.attachSummary, .attachFull, .spawn] := by
  intro c run
  have accepted : Accepted (run.log (Pass.disk false) []) :=
    accepted_log (fun s r => by cases r <;> rfl) run []
  obtain ⟨f, hrun, found, -, shape⟩ := runFrom_shape c .text "w" .idle (Pass.disk false) [] accepted
  have resolved : f.workload = some Pass.sample := found.trans (by decide)
  exact ⟨accepted, f, hrun, resolved, (shape _ resolved).1.1⟩

end Campaign

end SyscallProfiler
