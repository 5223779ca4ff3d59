import SyscallProfiler.Proofs.Campaign.Shape

/-!
# The stage between runs

The stage is kept from one run to the next. A run that comes to a result is idle again, and so
is one whose report is refused. But what is written for people before the report may be refused
too, and a run that breaks off there stays on the last stage that it entered, or on the stage of
the run before it if it has entered none.

`Enters` says which stages a part of a run enters. Other than `Goes`, it also knows the stage of
a part that breaks off.
-/

namespace SyscallProfiler

theorem lastStage_append (entered more : List Stage) (stage : Stage) :
    (entered ++ more).getLastD stage = more.getLastD (entered.getLastD stage) := by
  simp only [List.getLastD_eq_getLast?, List.getLast?_append, Option.getD_or]

namespace Staged

variable {α β : Type} {way way' : List Stage} {broken : List Stage → Prop}

/-- On whatever stage it is begun, a part ends on the last stage that it enters. It enters those
of `way` if it comes to a result, and some of which `broken` is true if it breaks off. -/
def Enters (part : Staged α) (way : List Stage) (broken : List Stage → Prop) : Prop :=
  ∀ stage, (part.run.run stage).Logs fun ended log =>
    ended.2 = (stages log).getLastD stage ∧
      match ended.1 with
      | .ok _ => stages log = way
      | .error _ => broken (stages log)

namespace Enters

theorem pure (a : α) : (Pure.pure a : Staged α).Enters [] broken := fun _ => .done ⟨rfl, rfl⟩

theorem throw (e : WriteError) (h : broken []) :
    (MonadExcept.throw e : Staged α).Enters way broken := fun _ => .done ⟨rfl, h⟩

/-- What follows a part goes on from the stage that the part ends on, or is not made at all. -/
theorem bind {part : Staged α} {f : α → Staged β} (hp : part.Enters way broken)
    (hf : ∀ a, (f a).Enters way' fun entered => broken (way ++ entered)) :
    (part >>= f).Enters (way ++ way') broken := by
  intro stage
  refine Program.Logs.bind (hp stage) ?_
  rintro ⟨result, stage'⟩ log ⟨last, reached⟩
  cases result with
  | error e =>
      refine .done ?_
      rw [List.append_nil]
      exact ⟨last, reached⟩
  | ok a =>
      obtain rfl : stage' = (stages log).getLastD stage := last
      have entered : stages log = way := reached
      refine Program.Logs.mono (hf a _) ?_
      rintro ⟨result, stage''⟩ more ⟨last', reached'⟩
      constructor
      · rw [stages_append, lastStage_append]
        exact last'
      · rw [stages_append, entered]
        cases result with
        | ok b => exact congrArg (way ++ ·) reached'
        | error e => exact reached'

/-- A part that enters no stage, and what follows it. -/
theorem quiet_bind {part : Staged α} {f : α → Staged β} (hp : part.Enters [] broken)
    (hf : ∀ a, (f a).Enters way broken) : (part >>= f).Enters way broken :=
  bind hp hf

theorem bind_pure {part : Staged α} (g : α → β) (hp : part.Enters way broken) :
    (part >>= fun a => Pure.pure (g a)).Enters way broken := by
  have bound := bind hp fun a => pure (g a)
  rwa [List.append_nil] at bound

theorem enter_bind {stage : Stage} {f : Unit → Staged β}
    (hf : (f ()).Enters way fun entered => broken (stage :: entered)) :
    (enter stage >>= f).Enters (stage :: way) broken := by
  have entered : (enter stage).Enters [stage] broken := fun _ => .ask fun _ => .done ⟨rfl, rfl⟩
  exact entered.bind fun _ => hf

/-- A program that hides no stage. -/
theorem lift {p : Program α} (silent : p.Asks Request.IsSilent) :
    (Staged.lift p).Enters [] broken := by
  intro stage
  refine Program.Logs.mono (logs_lift p) ?_
  rintro _ log ⟨a, rfl, ran⟩
  have quiet : stages log = [] := ran.stages_eq_nil silent
  rw [quiet]
  exact ⟨rfl, rfl⟩

end Enters

theorem enters_write (piece : String) (h : broken []) : (write piece).Enters [] broken := by
  refine fun _ => .ask fun written => ?_
  cases written with
  | ok _ => exact .done ⟨rfl, rfl⟩
  | error e => exact .done ⟨rfl, h⟩

theorem enters_flush (h : broken []) : flush.Enters [] broken := by
  refine fun _ => .ask fun flushed => ?_
  cases flushed with
  | ok _ => exact .done ⟨rfl, rfl⟩
  | error e => exact .done ⟨rfl, h⟩

theorem enters_writeAll (pieces : List String) (h : broken []) :
    (writeAll pieces).Enters [] broken := by
  induction pieces with
  | nil => exact .pure _
  | cons piece rest ih => exact .quiet_bind (enters_write piece h) fun _ => ih

end Staged

namespace Campaign

open Staged

variable (c : Campaign) (format : ReportFormat) (query : String)
variable {way : List Stage} {broken : List Stage → Prop}

/-! ## The stages that a run enters -/

theorem enters_say (pieces : List String) (h : format = .text → broken []) :
    (say format pieces).Enters [] broken := by
  cases format with
  | text => exact enters_writeAll pieces (h rfl)
  | json => exact .pure _

theorem enters_announce (title : String) (unit : Workload) (input : Payload)
    (h : format = .text → broken []) : (announce format title unit input).Enters [] broken := by
  cases format with
  | text => exact .quiet_bind (enters_writeAll _ (h rfl)) fun _ => enters_flush (h rfl)
  | json => exact .pure _

theorem enters_makePass (stage : Stage) (title : String) (unit : Workload) (input : Payload)
    {pass : Program PassResult} (silent : pass.Asks Request.IsSilent)
    (h : format = .text → broken [stage]) :
    (makePass format stage title unit input pass).Enters [stage] broken :=
  .enter_bind (.quiet_bind (enters_announce format title unit input h) fun _ =>
    .quiet_bind (.lift silent) fun result =>
      .quiet_bind (enters_say format (Report.progress result) h) fun _ => .pure result)

/-- The induction is on the passes that are left to be made. Passes that have been made only add
to what the run has entered when it breaks off. -/
theorem enters_makeAttached (unit : Workload) (input : Payload)
    (left : List (Stage × Granularity × String))
    (h : format = .text → ∀ entered, entered <+: left.map (·.1) → broken entered) :
    (c.makeAttached format unit input left).Enters (left.map (·.1)) broken := by
  induction left generalizing broken with
  | nil => exact .pure _
  | cons pass rest ih =>
      obtain ⟨stage, granularity, title⟩ := pass
      have silent := Pass.asks_runAttached c.settings unit input granularity
      have made := enters_makePass format stage title unit input silent fun text =>
        h text [stage] (List.prefix_append [stage] _)
      have later : (c.makeAttached format unit input rest).Enters (rest.map (·.1)) fun entered =>
          broken (stage :: entered) :=
        ih fun text entered first => h text _ ((List.prefix_cons_inj stage).mpr first)
      exact made.bind fun result => later.bind_pure (result :: ·)

theorem enters_profile (unit : Workload)
    (h : format = .text → ∀ entered, entered <+: [.attachSummary, .attachFull, .spawn] →
      broken entered) :
    (c.profile format unit).Enters [.attachSummary, .attachFull, .spawn] broken := by
  have quiet (text : format = .text) : broken [] := h text _ List.nil_prefix
  have directory : (Staged.request (.makeDirectory c.settings.outputDir)).Enters [] broken :=
    .lift (.request trivial)
  have attached := c.enters_makeAttached format unit (c.registry.inputOf unit.name)
    attachedPasses fun text entered first =>
      h text entered (first.trans (List.prefix_append _ [Stage.spawn]))
  refine .quiet_bind (enters_say format _ quiet) fun _ => .quiet_bind directory fun _ =>
    attached.bind fun results => ?_
  have silent := Pass.asks_runSpawned c.settings unit (c.registry.inputOf unit.name)
  exact .bind_pure (results ++ [·])
    (enters_makePass format .spawn spawnTitle unit _ silent fun text => h text _ List.prefix_rfl)

/-- The outcome of a part that enters the same stages whether it breaks off or not. -/
theorem enters_observing {part : Staged Unit} (hp : part.Enters way (· = way)) :
    (report.observing part).Enters way broken := by
  intro stage
  refine Program.Logs.bind (hp stage) ?_
  rintro ⟨result, stage'⟩ log ⟨last, reached⟩
  refine .done ?_
  rw [List.append_nil]
  cases result with
  | ok _ => exact ⟨last, reached⟩
  | error e => exact ⟨last, reached⟩

/-- The report is over in any case, so the run is idle even if it was refused. -/
theorem enters_report (f : Findings) (h : broken [.reporting, .idle]) :
    (c.report format query f).Enters [.reporting, .idle] broken := by
  refine .enter_bind (.quiet_bind (enters_observing (enters_writeAll _ rfl)) fun written =>
    .enter_bind ?_)
  cases written with
  | ok _ => exact .pure _
  | error e => exact .throw e h

/-- The stages of a run before its report. -/
def approach : List Stage :=
  .resolving :: if (c.registry.resolve? query).isSome then [.attachSummary, .attachFull, .spawn]
    else []

/-- A run enters all its stages, unless it breaks off before its report. For that, something must
be written before the report, which is so in the format for people only. -/
theorem enters_run :
    (c.run query format).Enters (c.approach query ++ [.reporting, .idle]) fun entered =>
      entered = c.approach query ++ [.reporting, .idle] ∨
        format = .text ∧ entered <+: c.approach query := by
  -- With or without a workload, the end of a run is to report what was found and to return it.
  have reported (f : Findings) {broken : List Stage → Prop} (h : broken [.reporting, .idle]) :
      ((Pure.pure f : Staged Findings) >>= fun f => c.report format query f >>= fun _ =>
        Pure.pure f).Enters [.reporting, .idle] broken :=
    .quiet_bind (.pure f) fun f => .bind_pure (fun _ => f) (c.enters_report format query f h)
  refine .quiet_bind (enters_say format _ fun text => .inr ⟨text, List.nil_prefix⟩) fun _ =>
    .enter_bind ?_
  unfold approach
  cases c.registry.resolve? query with
  | none => exact reported ⟨none, []⟩ (.inl rfl)
  | some unit =>
      refine .bind (c.enters_profile format unit fun text entered first => .inr ⟨text, ?_⟩)
        fun results => reported ⟨some unit, results⟩ (.inl rfl)
      exact (List.prefix_cons_inj _).mpr first

/-! ## Runs one after the other -/

/-- One of several runs that follow each other: what was asked for, from which stage, and how it
went. -/
structure Turn where
  query : String
  format : ReportFormat
  start : Stage
  result : Except WriteError Findings
  /-- The stage after the run. -/
  stage : Stage
  log : List Exchange

section Turns

variable {σ : Type} (host : Host σ)

/-- A run from a stage. -/
def turn (start : Stage) (s : σ) (query : String) (format : ReportFormat) : Turn :=
  let run := c.runFrom start query format
  let ended := (run.run host s).1
  ⟨query, format, start, ended.1, ended.2, run.log host s⟩

/-- Runs that follow each other, each from the stage after the one before it. -/
def turns (c : Campaign) (host : Host σ) (start : Stage) (s : σ) :
    List (String × ReportFormat) → List Turn
  | [] => []
  | (query, format) :: rest =>
    let first := c.turn host start s query format
    first :: c.turns host first.stage ((c.runFrom start query format).run host s).2 rest

theorem length_turns (start : Stage) (s : σ) (asked : List (String × ReportFormat)) :
    (c.turns host start s asked).length = asked.length := by
  induction asked generalizing start s with
  | nil => rfl
  | cons first rest ih => exact congrArg Nat.succ (ih _ _)

/-- A run that ends on the last stage that it enters, and that enters all its stages unless it
breaks off before its report. -/
structure Turn.Regular (turn : Turn) : Prop where
  stage_eq : turn.stage = (stages turn.log).getLastD turn.start
  stages_eq_or : stages turn.log = c.approach turn.query ++ [.reporting, .idle] ∨
    turn.format = .text ∧ (∃ e, turn.result = .error e) ∧
      stages turn.log <+: c.approach turn.query

theorem regular_turn (start : Stage) (s : σ) :
    (c.turn host start s query format).Regular c := by
  obtain ⟨last, entered⟩ := c.enters_run format query start σ host s
  refine ⟨last, ?_⟩
  cases result : (((c.run query format).run.run start).run host s).1.1 with
  | ok f =>
      rw [result] at entered
      exact .inl entered
  | error e =>
      rw [result] at entered
      exact entered.imp_right fun ⟨text, first⟩ => ⟨text, ⟨e, result⟩, first⟩

variable {c host}

/-- The induction is on the runs that are left to be made, on whatever stage the ones before have
left them. -/
theorem regular_of_mem_turns {turn : Turn} {start : Stage} {s : σ}
    {asked : List (String × ReportFormat)} (h : turn ∈ c.turns host start s asked) :
    turn.Regular c := by
  induction asked generalizing start s with
  | nil => exact absurd h List.not_mem_nil
  | cons first rest ih =>
      rcases List.mem_cons.mp h with rfl | later
      · exact c.regular_turn first.2 first.1 host start s
      · exact ih later

end Turns

/-! ## Idle runs -/

theorem ne_idle_of_mem_approach {stage : Stage} (h : stage ∈ c.approach query) :
    stage ≠ .idle ∧ stage ≠ .reporting := by
  have passing : stage ∈ [.resolving, .attachSummary, .attachFull, .spawn] := by
    refine List.Sublist.mem h (.cons_cons _ ?_)
    split
    · exact .refl _
    · exact List.nil_sublist _
  constructor
  all_goals
    rintro rfl
    revert passing
    decide

namespace Turn.Regular

variable {c} {turn : Turn} (h : turn.Regular c)
include h

/-- A run that breaks off before its report is idle only if it was from the start. -/
theorem stage_eq_idle_iff :
    turn.stage = .idle ↔
      .reporting ∈ stages turn.log ∨ stages turn.log = [] ∧ turn.start = .idle := by
  rw [h.stage_eq]
  rcases h.stages_eq_or with whole | ⟨-, -, first⟩
  · rw [whole, lastStage_append]
    simp
  · have busy : ∀ stage ∈ stages turn.log, stage ≠ .idle ∧ stage ≠ .reporting :=
      fun stage among => c.ne_idle_of_mem_approach turn.query (first.subset among)
    have unreported : .reporting ∉ stages turn.log := fun among => (busy _ among).2 rfl
    rw [or_iff_right unreported]
    cases entered : stages turn.log with
    | nil => simp
    | cons stage more =>
        rw [entered] at busy
        have last : (stage :: more).getLastD turn.start ∈ stage :: more := by
          rw [List.getLastD_cons]
          exact List.getLastD_mem_cons
        exact iff_of_false (busy _ last).1 fun unentered => List.cons_ne_nil _ _ unentered.1

/-- Only in the format for people can a run stay on another stage, and only if it breaks off. -/
theorem of_stage_ne_idle (left : turn.stage ≠ .idle) :
    turn.format = .text ∧ ∃ e, turn.result = .error e := by
  rcases h.stages_eq_or with whole | ⟨text, failed, -⟩
  · have reported : .reporting ∈ stages turn.log := by
      rw [whole]
      exact List.mem_append_right _ (.head _)
    exact absurd (h.stage_eq_idle_iff.mpr (.inl reported)) left
  · exact ⟨text, failed⟩

end Turn.Regular

variable {c} {σ : Type} {host : Host σ}

/-- Runs that get to their reports whenever they enter a stage are idle in between. -/
theorem idle_of_mem_turns {s : σ} {asked : List (String × ReportFormat)}
    (reports : ∀ turn ∈ c.turns host .idle s asked,
      stages turn.log ≠ [] → .reporting ∈ stages turn.log) :
    ∀ turn ∈ c.turns host .idle s asked, turn.stage = .idle := by
  induction asked generalizing s with
  | nil => exact fun turn among => absurd among List.not_mem_nil
  | cons first rest ih =>
      obtain ⟨query, format⟩ := first
      obtain ⟨reportsFirst, reportsLater⟩ := List.forall_mem_cons.mp reports
      have idle : (c.turn host .idle s query format).stage = .idle := by
        refine (c.regular_turn format query host .idle s).stage_eq_idle_iff.mpr ?_
        by_cases none : stages (c.turn host .idle s query format).log = []
        · exact .inr ⟨none, rfl⟩
        · exact .inl (reportsFirst none)
      refine List.forall_mem_cons.mpr ⟨idle, ?_⟩
      rw [idle] at reportsLater ⊢
      exact ih reportsLater

variable (c host)

/-- Runs one after the other, idle at the start, on any host and whatever it refuses. Each of them
ends on the last stage that it entered, or on the stage of the run before if it entered none. It is
idle again exactly if it got to its report, be that refused or not, or if it entered no stage and
was idle before. So a run that is not idle has broken off, and was to write for people. All runs
are idle in the end exactly if each that entered a stage got to its report. -/
theorem turns_idle (s : σ) (asked : List (String × ReportFormat)) :
    let turns := c.turns host .idle s asked
    turns.length = asked.length ∧
      (∀ turn ∈ turns,
        turn.stage = (stages turn.log).getLastD turn.start ∧
          (turn.stage = .idle ↔
            .reporting ∈ stages turn.log ∨ stages turn.log = [] ∧ turn.start = .idle) ∧
          (turn.stage ≠ .idle → turn.format = .text ∧ ∃ e, turn.result = .error e)) ∧
      ((∀ turn ∈ turns, turn.stage = .idle) ↔
        ∀ turn ∈ turns, stages turn.log ≠ [] → .reporting ∈ stages turn.log) := by
  intro turns
  refine ⟨c.length_turns host .idle s asked, fun turn among => ?_, ?_, idle_of_mem_turns⟩
  · have regular := regular_of_mem_turns among
    exact ⟨regular.stage_eq, regular.stage_eq_idle_iff, regular.of_stage_ne_idle⟩
  · intro idle turn among entered
    have reported := (regular_of_mem_turns among).stage_eq_idle_iff.mp (idle turn among)
    exact reported.resolve_right fun unentered => entered unentered.1

/-- A host that accepts some more pieces of a report and refuses all others. -/
def spent : Host Nat
  | 0, .write _ => (.error ⟨"Broken pipe"⟩, 0)
  | left + 1, .write _ => (.ok (), left)
  | left, .flush => (.ok (), left)
  | left, r => ((Pass.disk false [] r).1, left)

/-- When the heading of its first pass is refused, a run stays on the stage of that pass. The next
one cannot even write its banner, and so it does not leave that stage either. -/
theorem turns_left_busy :
    let c : Campaign := ⟨Pass.brief, ⟨[Pass.sample], []⟩⟩
    let turns := c.turns spent .idle 6 [("w", .text), ("w", .text)]
    turns.map (fun turn => (turn.result.isOk, turn.stage)) =
        [(false, .attachSummary), (false, .attachSummary)] ∧
      ¬ ∀ turn ∈ turns, turn.stage = .idle := by
  decide

end Campaign

end SyscallProfiler
