import SyscallProfiler.Campaign
import SyscallProfiler.Proofs.Pass.Custody

/-!
# No collector is left behind

A run over a workload makes its passes one after the other, and reports in between. Each part
of it starts and ends with nothing to see to, also one that breaks off because it cannot
write. So there never are two collectors at once, none outlasts its pass, and none is killed
whose end was seen.
-/

namespace SyscallProfiler

open Custody

namespace Staged

variable {α β : Type}

/-- A part of a run that starts and ends with nothing to see to, on every stage. -/
def Frees (part : Staged α) : Prop :=
  ∀ stage, (part.run.run stage).Takes fun _ c => Leads free c free

namespace Frees

theorem pure (a : α) : (Pure.pure a : Staged α).Frees := fun _ => .done (.nil _)

theorem throw (e : WriteError) : (MonadExcept.throw e : Staged α).Frees := fun _ => .done (.nil _)

/-- What follows a part is made on the stage that the part goes on to, or not at all. -/
theorem bind {part : Staged α} {f : α → Staged β} (hp : part.Frees) (hf : ∀ a, (f a).Frees) :
    (part >>= f).Frees := by
  intro stage
  refine Program.Takes.bind (hp stage) ?_
  rintro ⟨result, stage'⟩ c first
  cases result with
  | error e =>
      refine .done ?_
      rw [List.append_nil]
      exact first
  | ok a => exact (hf a stage').mono fun _ _ second => first.append second

/-- A part that cannot fail. -/
theorem lift_state {part : StateT Stage Program α}
    (hp : ∀ stage, (part.run stage).Takes fun _ c => Leads free c free) :
    Frees (ExceptT.lift part : Staged α) := fun stage => .map (hp stage)

theorem lift {p : Program α} (hp : p.Takes fun _ c => Leads free c free) :
    (Staged.lift p).Frees :=
  lift_state fun stage => Program.Takes.map (f := fun a => (a, stage)) hp

/-- A request that is in order when nothing is left to be seen to, and leaves nothing. -/
theorem request {r : Request} (admitted : free.Admits r)
    (idle : ∀ a, free.after ⟨r, a⟩ = free) : (Staged.request r).Frees := by
  refine lift (.ask fun answer => .done ?_)
  rw [List.append_nil, leads_course]
  exact .pass admitted (idle answer) (.nil _)

end Frees

theorem frees_enter (stage : Stage) : (enter stage).Frees :=
  .bind (.request rfl fun _ => rfl) fun _ => fun _ => .done (.nil _)

theorem frees_write (piece : String) : (write piece).Frees := by
  refine .bind (.request trivial fun _ => rfl) fun written => ?_
  cases written with
  | ok _ => exact .pure _
  | error e => exact .throw e

theorem frees_flush : flush.Frees := by
  refine .bind (.request trivial fun _ => rfl) fun flushed => ?_
  cases flushed with
  | ok _ => exact .pure _
  | error e => exact .throw e

theorem frees_writeAll (pieces : List String) : (writeAll pieces).Frees := by
  induction pieces with
  | nil => exact .pure _
  | cons piece rest ih => exact .bind (frees_write piece) fun _ => ih

end Staged

namespace Campaign

open Staged

theorem frees_say (format : ReportFormat) (pieces : List String) : (say format pieces).Frees := by
  cases format with
  | text => exact frees_writeAll pieces
  | json => exact .pure _

theorem frees_announce (format : ReportFormat) (title : String) (unit : Workload)
    (input : Payload) : (announce format title unit input).Frees := by
  cases format with
  | text => exact .bind (frees_writeAll _) fun _ => frees_flush
  | json => exact .pure _

theorem frees_observing {part : Staged Unit} (hp : part.Frees) :
    (report.observing part).Frees := .lift_state hp

variable (c : Campaign) (format : ReportFormat) (query : String)

theorem frees_report (f : Findings) : (c.report format query f).Frees := by
  refine .bind (frees_enter _) fun _ => .bind (frees_observing (frees_writeAll _)) fun written =>
    .bind (frees_enter _) fun _ => ?_
  cases written with
  | ok _ => exact .pure _
  | error e => exact .throw e

/-- A pass that leaves nothing to be seen to leaves nothing with what is said about it. -/
theorem frees_makePass (stage : Stage) (title : String) (unit : Workload) (input : Payload)
    {pass : Program PassResult} (hp : pass.Takes fun _ c => Leads free c free) :
    (makePass format stage title unit input pass).Frees :=
  .bind (frees_enter stage) fun _ => .bind (frees_announce _ _ _ _) fun _ =>
    .bind (.lift hp) fun _ => .bind (frees_say _ _) fun _ => .pure _

/-- The induction is on the passes that are left to be made. -/
theorem frees_makeAttached (unit : Workload) (input : Payload)
    (passes : List (Stage × Granularity × String)) :
    (c.makeAttached format unit input passes).Frees := by
  induction passes with
  | nil => exact .pure _
  | cons pass rest ih =>
      obtain ⟨stage, granularity, title⟩ := pass
      exact .bind (frees_makePass _ _ _ _ _ (Pass.takes_runAttached_free _ _ _ _)) fun _ =>
        .bind ih fun _ => .pure _

theorem frees_profile (unit : Workload) : (c.profile format unit).Frees :=
  .bind (frees_say _ _) fun _ => .bind (.request trivial fun _ => rfl) fun _ =>
    .bind (frees_makeAttached _ _ _ _ _) fun _ =>
      .bind (frees_makePass _ _ _ _ _ (Pass.takes_runSpawned_free _ _ _)) fun _ => .pure _

theorem frees_run : (c.run query format).Frees := by
  have reported (f : Findings) : (c.report format query f >>= fun _ => pure f).Frees :=
    .bind (frees_report c format query f) fun _ => .pure f
  refine .bind (frees_say _ _) fun _ => .bind (frees_enter _) fun _ => ?_
  cases c.registry.resolve? query with
  | none => exact .bind (.pure _) reported
  | some unit => exact .bind (frees_profile c format unit) fun _ => .bind (.pure _) reported

/-- A run over a workload, whatever its host does. Nothing is left to be seen to when it ends.
Never is there more than one process that was started and not got rid of. Each request is in
order: a collector is started only when none is left, and killed only if its end was not
seen, and a new stage is entered only when no collector and no permission to trace is left
from the stage before. A permission that is given for an attached pass is taken back exactly
once in that pass. -/
theorem runFrom_custody (stage : Stage) {σ : Type} (host : Host σ) (s : σ) :
    let log := (c.runFrom stage query format).log host s
    free.along log = free ∧
      (∀ before, before <+: log → (free.along before).charges.length ≤ 1) ∧
      (∀ before e after, log = before ++ e :: after →
        (free.along before).Admits e.request) ∧
      ∀ unit input granularity (s' : σ), ∃ given : Bool,
        permissions ((Pass.runAttached c.settings unit input granularity).log host s') =
          if given then [.given, .revoked] else [] := by
  intro log
  have orderly : Leads free log free := leads_course.mp (frees_run c format query stage σ host s)
  refine ⟨orderly.along_eq, ?_, ?_, ?_⟩
  · intro before initial
    exact orderly.length_charges_le (Nat.zero_le 1) initial
  · intro before e after split
    exact orderly.admits split
  · intro unit input granularity s'
    have going := Pass.attachedCourse_run c.settings unit input granularity host s'
    rw [← permissions_course]
    exact going.permissions_eq

end Campaign

end SyscallProfiler
