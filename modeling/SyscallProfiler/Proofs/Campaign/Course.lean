import SyscallProfiler.Campaign
import SyscallProfiler.Proofs.Host.Log

/-!
# The logs of runs over workloads

A part of a run either comes to a result or breaks off, and it breaks off only because something
that it wrote was refused. `Goes` says with which result, on which stage and with which log a
part can end, and has one rule for each way in which parts are made from others. In the end
`RunLog` describes whole runs: what they write, where the stages are entered, and where the logs
of their passes stand. What holds of every run is proved from it.
-/

namespace SyscallProfiler

namespace Staged

variable {α β : Type} {stage stage' : Stage}

/-- What is known of a part that has ended: `post` if it came to a result, and why it broke off
if it did not. -/
def Ended (post : α → Stage → List Exchange → Prop) :
    Except WriteError α × Stage → List Exchange → Prop
  | (.ok a, stage), log => post a stage log
  | (.error e, _), log => ∃ x ∈ log, x.refusal? = some e

/-- Begun on a stage, a part ends with a result, a stage and a log of which `post` is true, or
breaks off because something was refused. -/
def Goes (part : Staged α) (stage : Stage) (post : α → Stage → List Exchange → Prop) : Prop :=
  (part.run.run stage).Logs (Ended post)

theorem Ended.mono {post post' : α → Stage → List Exchange → Prop}
    {ended : Except WriteError α × Stage} {log : List Exchange} (h : Ended post ended log)
    (imp : ∀ a stage, post a stage log → post' a stage log) : Ended post' ended log := by
  match ended with
  | (.ok a, stage) => exact imp a stage h
  | (.error e, _) => exact h

/-- What follows a log keeps a part broken off. -/
theorem Ended.after {post : α → Stage → List Exchange → Prop} (before : List Exchange)
    {ended : Except WriteError α × Stage} {log : List Exchange}
    (h : Ended (fun a stage log => post a stage (before ++ log)) ended log) :
    Ended post ended (before ++ log) := by
  match ended with
  | (.ok a, stage) => exact h
  | (.error e, _) =>
      obtain ⟨x, hx, refused⟩ := h
      exact ⟨x, List.mem_append_right before hx, refused⟩

/-- A program that cannot fail comes to its result, and the stage stays as it is. -/
theorem logs_lift (p : Program α) :
    ((Staged.lift p).run.run stage).Logs fun ended log =>
      ∃ a, ended = (.ok a, stage) ∧ p.Ran a log := by
  have staged : (p.bind fun a => .done (a, stage)).Logs fun ended log =>
      ∃ a, ended = (a, stage) ∧ p.Ran a log := by
    refine .bind p.logs_ran fun a log ran => .done ?_
    rw [List.append_nil]
    exact ⟨a, rfl, ran⟩
  refine Program.Logs.bind staged ?_
  rintro _ log ⟨a, rfl, ran⟩
  refine .done ?_
  rw [List.append_nil]
  exact ⟨a, rfl, ran⟩

namespace Goes

variable {post post' : α → Stage → List Exchange → Prop}

theorem mono {part : Staged α} (h : part.Goes stage post)
    (imp : ∀ a stage log, post a stage log → post' a stage log) : part.Goes stage post' :=
  Program.Logs.mono h fun _ log ended => ended.mono fun a stage => imp a stage log

theorem pure {a : α} (h : post a stage []) : (Pure.pure a : Staged α).Goes stage post :=
  .done h

/-- What follows a part is made on the stage that the part goes on to, or not at all. It may
break off because of what was refused in the part. -/
theorem bind_logs {part : Staged α} {f : α → Staged β} {mid : α → Stage → List Exchange → Prop}
    {post : β → Stage → List Exchange → Prop} (hp : part.Goes stage mid)
    (hf : ∀ a stage' log, mid a stage' log →
      ((f a).run.run stage').Logs fun ended more => Ended post ended (log ++ more)) :
    (part >>= f).Goes stage post := by
  refine Program.Logs.bind hp ?_
  rintro ⟨result, stage'⟩ log ended
  cases result with
  | error e =>
      refine .done ?_
      rw [List.append_nil]
      exact ended
  | ok a => exact hf a stage' log ended

theorem bind {part : Staged α} {f : α → Staged β} {mid : α → Stage → List Exchange → Prop}
    {post : β → Stage → List Exchange → Prop} (hp : part.Goes stage mid)
    (hf : ∀ a stage' log, mid a stage' log →
      (f a).Goes stage' fun b stage'' more => post b stage'' (log ++ more)) :
    (part >>= f).Goes stage post :=
  bind_logs hp fun a stage' log reached =>
    Program.Logs.mono (hf a stage' log reached) fun _ _ => Ended.after log

/-- A part that only adds a known log and goes on to a known stage, and what follows it. -/
theorem then_ {part : Staged Unit} {f : Unit → Staged β} {log : List Exchange}
    {post : β → Stage → List Exchange → Prop}
    (hp : part.Goes stage fun _ ended more => ended = stage' ∧ more = log)
    (hf : (f ()).Goes stage' fun b stage'' more => post b stage'' (log ++ more)) :
    (part >>= f).Goes stage post := by
  refine bind hp ?_
  rintro _ _ _ ⟨rfl, rfl⟩
  exact hf

/-- A program that cannot fail. -/
theorem lift {p : Program α} (h : ∀ a log, p.Ran a log → post a stage log) :
    (Staged.lift p).Goes stage post := by
  refine Program.Logs.mono (logs_lift p) ?_
  rintro _ log ⟨a, rfl, ran⟩
  exact h a log ran

/-- A request whose answer may break the part off. -/
theorem request_bind_logs {r : Request} {f : r.Answer → Staged α}
    (h : ∀ answer, ((f answer).run.run stage).Logs fun ended log =>
      Ended post ended (⟨r, answer⟩ :: log)) :
    (Staged.request r >>= f).Goes stage post :=
  Program.Logs.ask h

/-- A request whose answer never breaks the part off. -/
theorem request_bind {r : Request} {f : r.Answer → Staged α}
    (h : ∀ answer, (f answer).Goes stage fun a stage' log => post a stage' (⟨r, answer⟩ :: log)) :
    (Staged.request r >>= f).Goes stage post :=
  request_bind_logs fun answer => Program.Logs.mono (h answer) fun _ _ => Ended.after [⟨r, answer⟩]

theorem of_ended {part : Staged α} (h : part.Goes stage post) {σ : Type} {host : Host σ} {s : σ}
    {a : α} {stage' : Stage} (ended : ((part.run.run stage).run host s).1 = (.ok a, stage')) :
    post a stage' ((part.run.run stage).log host s) := by
  have known := h σ host s
  rwa [ended] at known

/-- A run that is accepted as a whole comes to a result. -/
theorem of_accepted {part : Staged α} (h : part.Goes stage post) {σ : Type} (host : Host σ) (s : σ)
    (accepted : Accepted ((part.run.run stage).log host s)) :
    ∃ a stage', ((part.run.run stage).run host s).1 = (.ok a, stage') ∧
      post a stage' ((part.run.run stage).log host s) := by
  have ended := h σ host s
  match hrun : ((part.run.run stage).run host s).1 with
  | (.ok a, stage') =>
      rw [hrun] at ended
      exact ⟨a, stage', rfl, ended⟩
  | (.error e, _) =>
      rw [hrun] at ended
      obtain ⟨x, hx, refused⟩ := ended
      rw [accepted x hx] at refused
      cases refused

end Goes

end Staged

/-! ## Pieces of logs -/

/-- What is asked for to go on to a stage. -/
def entering (stage : Stage) : Exchange := ⟨.note (.stage stage), ()⟩

/-- Pieces of a report that were accepted. -/
def writing (pieces : List String) : List Exchange :=
  pieces.map fun piece => ⟨.write piece, .ok ()⟩

namespace Staged

variable {stage : Stage}

theorem goes_enter (entered : Stage) :
    (enter entered).Goes stage fun _ stage' log => stage' = entered ∧ log = [entering entered] :=
  .request_bind fun _ => .pure ⟨rfl, rfl⟩

theorem goes_write (piece : String) :
    (write piece).Goes stage fun _ stage' log => stage' = stage ∧ log = writing [piece] := by
  refine .request_bind_logs fun written => ?_
  cases written with
  | ok _ => exact .done ⟨rfl, rfl⟩
  | error e => exact .done ⟨_, .head _, rfl⟩

theorem goes_flush :
    flush.Goes stage fun _ stage' log => stage' = stage ∧ log = [⟨.flush, .ok ()⟩] := by
  refine .request_bind_logs fun flushed => ?_
  cases flushed with
  | ok _ => exact .done ⟨rfl, rfl⟩
  | error e => exact .done ⟨_, .head _, rfl⟩

theorem goes_writeAll (pieces : List String) :
    (writeAll pieces).Goes stage fun _ stage' log => stage' = stage ∧ log = writing pieces := by
  induction pieces with
  | nil => exact .pure ⟨rfl, rfl⟩
  | cons piece rest ih =>
      refine .then_ (goes_write piece) (ih.mono ?_)
      rintro _ _ _ ⟨rfl, rfl⟩
      exact ⟨rfl, rfl⟩

end Staged

namespace Campaign

open Staged

/-! ## Logs of the parts of a run -/

/-- What is written for people only. -/
def said : ReportFormat → List String → List Exchange
  | .text, pieces => writing pieces
  | .json, _ => []

/-- The announcement of a pass. -/
def announced (title : String) (unit : Workload) (input : Payload) :
    ReportFormat → List Exchange
  | .text => writing (Report.heading title unit input) ++ [⟨.flush, .ok ()⟩]
  | .json => []

/-- How passes go that are made one after the other: with which results and which log. -/
inductive PassesLog (format : ReportFormat) (unit : Workload) (input : Payload) :
    List (Stage × String × Program PassResult) → List PassResult → List Exchange → Prop where
  | nil : PassesLog format unit input [] [] []
  | cons {stage : Stage} {title : String} {pass : Program PassResult} {result : PassResult}
      {inner : List Exchange} {passes : List (Stage × String × Program PassResult)}
      {results : List PassResult} {log : List Exchange} (ran : pass.Ran result inner)
      (rest : PassesLog format unit input passes results log) :
      PassesLog format unit input ((stage, title, pass) :: passes) (result :: results)
        (entering stage :: (announced title unit input format ++
          (inner ++ said format (Report.progress result))) ++ log)

variable (c : Campaign) (format : ReportFormat) (query : String)

/-- A pass with the collector attached, with its stage and its heading. -/
def attachedPass (unit : Workload) (input : Payload) :
    Stage × Granularity × String → Stage × String × Program PassResult
  | (stage, granularity, title) =>
    (stage, title, Pass.runAttached c.settings unit input granularity)

/-- The passes over a unit, each with its stage and its heading. -/
def passes (unit : Workload) (input : Payload) : List (Stage × String × Program PassResult) :=
  attachedPasses.map (c.attachedPass unit input) ++
    [(.spawn, spawnTitle, Pass.runSpawned c.settings unit input)]

/-- All passes over a unit are attached ones but the last. -/
theorem forall_mem_passes {unit : Workload} {input : Payload} {P : Program PassResult → Prop}
    (attached : ∀ granularity, P (Pass.runAttached c.settings unit input granularity))
    (spawned : P (Pass.runSpawned c.settings unit input)) :
    ∀ pass ∈ c.passes unit input, P pass.2.2 := by
  refine List.forall_mem_append.mpr ⟨fun pass among => ?_, List.forall_mem_singleton.mpr spawned⟩
  obtain ⟨⟨stage, granularity, title⟩, -, rfl⟩ := List.mem_map.mp among
  exact attached granularity

/-- The log of the report at the end of a run. -/
def reported (f : Findings) : List Exchange :=
  entering .reporting :: (writing (c.finalReport format query f) ++ [entering .idle])

/-- How a run over a workload goes that does not break off. -/
inductive RunLog : Findings → List Exchange → Prop where
  /-- There is no such workload. -/
  | unresolved (missing : c.registry.resolve? query = none) :
      RunLog ⟨none, []⟩
        (said format Report.banner ++ entering .resolving :: c.reported format query ⟨none, []⟩)
  /-- All passes are made. -/
  | resolved (unit : Workload) (made : Except OsError Unit) (results : List PassResult)
      (log : List Exchange) (found : c.registry.resolve? query = some unit)
      (ran : PassesLog format unit (c.registry.inputOf unit.name)
        (c.passes unit (c.registry.inputOf unit.name)) results log) :
      RunLog ⟨some unit, results⟩
        (said format Report.banner ++ entering .resolving ::
          ((said format (Report.ofLines [s!"Testing with function: {unit.name}"]) ++
            ⟨.makeDirectory c.settings.outputDir, made⟩ :: log) ++
              c.reported format query ⟨some unit, results⟩))

/-- What the passes of a run do stands in its log in one piece. -/
theorem RunLog.passesLog {c : Campaign} {format : ReportFormat} {query : String} {f : Findings}
    {log : List Exchange} (h : c.RunLog format query f log) :
    f.results = [] ∨ ∃ unit input made,
      PassesLog format unit input (c.passes unit input) f.results made ∧ made <:+: log := by
  cases h with
  | unresolved => exact Or.inl rfl
  | resolved unit created results made found ran =>
      refine Or.inr ⟨unit, _, made, ran, ?_⟩
      rw [List.append_cons _ _ made]
      exact (List.infix_append _ made _).trans
        ((List.suffix_cons _ _).trans (List.suffix_append _ _)).isInfix

/-! ## How the parts of a run go -/

variable {stage : Stage}

theorem goes_say (pieces : List String) :
    (say format pieces).Goes stage fun _ stage' log =>
      stage' = stage ∧ log = said format pieces := by
  cases format with
  | text => exact goes_writeAll pieces
  | json => exact .pure ⟨rfl, rfl⟩

theorem goes_announce (title : String) (unit : Workload) (input : Payload) :
    (announce format title unit input).Goes stage fun _ stage' log =>
      stage' = stage ∧ log = announced title unit input format := by
  cases format with
  | text =>
      refine .then_ (goes_writeAll _) (goes_flush.mono ?_)
      rintro _ _ _ ⟨rfl, rfl⟩
      exact ⟨rfl, rfl⟩
  | json => exact .pure ⟨rfl, rfl⟩

theorem goes_makePass (entered : Stage) (title : String) (unit : Workload) (input : Payload)
    (pass : Program PassResult) :
    (makePass format entered title unit input pass).Goes stage fun result stage' log =>
      stage' = entered ∧ ∃ inner, pass.Ran result inner ∧
        log = entering entered :: (announced title unit input format ++
          (inner ++ said format (Report.progress result))) := by
  have made : (Staged.lift pass).Goes entered fun result stage' inner =>
      stage' = entered ∧ pass.Ran result inner := .lift fun _ _ ran => ⟨rfl, ran⟩
  refine .then_ (goes_enter entered) (.then_ (goes_announce format title unit input) ?_)
  refine .bind made ?_
  rintro result _ inner ⟨rfl, ran⟩
  refine .then_ (goes_say format _) (.pure ⟨rfl, inner, ran, ?_⟩)
  rw [List.append_nil]
  rfl

theorem PassesLog.append {format : ReportFormat} {unit : Workload} {input : Payload}
    {passes more : List (Stage × String × Program PassResult)} {results results' : List PassResult}
    {log log' : List Exchange} (h : PassesLog format unit input passes results log)
    (h' : PassesLog format unit input more results' log') :
    PassesLog format unit input (passes ++ more) (results ++ results') (log ++ log') := by
  induction h with
  | nil => exact h'
  | cons ran rest ih =>
      rw [List.append_assoc]
      exact .cons ran ih

/-- The induction is on the passes that are left to be made. -/
theorem goes_makeAttached (unit : Workload) (input : Payload)
    (left : List (Stage × Granularity × String)) :
    (c.makeAttached format unit input left).Goes stage fun results _ log =>
      PassesLog format unit input (left.map (c.attachedPass unit input)) results log := by
  induction left generalizing stage with
  | nil => exact .pure .nil
  | cons pass rest ih =>
      obtain ⟨entered, granularity, title⟩ := pass
      refine .bind (goes_makePass format entered title unit input _) ?_
      rintro result _ _ ⟨rfl, inner, ran, rfl⟩
      refine .bind ih fun results stage' log made => .pure ?_
      rw [List.append_nil]
      exact .cons ran made

theorem goes_profile (unit : Workload) :
    (c.profile format unit).Goes stage fun results _ log =>
      ∃ made inner, PassesLog format unit (c.registry.inputOf unit.name)
          (c.passes unit (c.registry.inputOf unit.name)) results inner ∧
        log = said format (Report.ofLines [s!"Testing with function: {unit.name}"]) ++
          ⟨.makeDirectory c.settings.outputDir, made⟩ :: inner := by
  refine .then_ (goes_say format _) (.request_bind fun made => ?_)
  refine .bind (c.goes_makeAttached format unit _ attachedPasses) fun attached _ log first => ?_
  refine .bind (goes_makePass format .spawn spawnTitle unit _ _) ?_
  rintro spawned _ _ ⟨rfl, inner, ran, rfl⟩
  refine .pure ⟨made, _, first.append (.cons ran .nil), ?_⟩
  rw [List.append_nil]

/-- The outcome of a part is observed, whether the part broke off or not. -/
theorem goes_observing {part : Staged Unit} {post : Unit → Stage → List Exchange → Prop}
    (hp : part.Goes stage post) :
    (report.observing part).Goes stage fun written stage' log =>
      Ended post (written, stage') log := by
  refine Program.Logs.bind hp fun ended log reached => .done ?_
  rw [List.append_nil]
  exact reached

theorem goes_report (f : Findings) :
    (c.report format query f).Goes stage fun _ stage' log =>
      stage' = .idle ∧ log = c.reported format query f := by
  refine .then_ (goes_enter _) (.bind_logs (goes_observing (goes_writeAll _)) ?_)
  intro written stage' log observed
  cases written with
  | ok _ =>
      obtain ⟨rfl, rfl⟩ := observed
      exact .ask fun _ => .done ⟨rfl, rfl⟩
  | error e =>
      obtain ⟨x, hx, refused⟩ := observed
      exact .ask fun _ => .done ⟨x, List.mem_append_left _ hx, refused⟩

/-- A run that does not break off is idle in the end. -/
theorem goes_run :
    (c.run query format).Goes stage fun f stage' log =>
      stage' = .idle ∧ c.RunLog format query f log := by
  -- With or without a workload, the end of a run is to report what was found and to return it.
  have reported (f : Findings) {stage : Stage} :
      ((Pure.pure f : Staged Findings) >>= fun f => c.report format query f >>= fun _ =>
        Pure.pure f).Goes stage fun f' stage' log =>
          f' = f ∧ stage' = .idle ∧ log = c.reported format query f := by
    refine .then_ (c.goes_report format query f) (.pure ⟨rfl, rfl, ?_⟩)
    rw [List.append_nil]
  refine .then_ (goes_say format _) (.then_ (goes_enter _) ?_)
  cases resolved : c.registry.resolve? query with
  | none =>
      refine (reported ⟨none, []⟩).mono ?_
      rintro _ _ _ ⟨rfl, rfl, rfl⟩
      exact ⟨rfl, .unresolved resolved⟩
  | some unit =>
      refine .bind (c.goes_profile format unit) ?_
      rintro results _ _ ⟨made, inner, ran, rfl⟩
      refine (reported ⟨some unit, results⟩).mono ?_
      rintro _ _ _ ⟨rfl, rfl, rfl⟩
      exact ⟨rfl, .resolved unit made results inner resolved ran⟩

end Campaign

end SyscallProfiler
