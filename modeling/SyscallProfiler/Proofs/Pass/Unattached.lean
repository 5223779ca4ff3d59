import SyscallProfiler.Proofs.Pass.Kept

/-!
# Attached passes without a session

When its session does not come about, an attached pass looks whether its artifact is there, and
lists it if it is. A collector that was started has left one, as closing the session sees to it.
One that could not be started has not; but what is found then is what an earlier pass has left,
and it is listed all the same.
-/

namespace SyscallProfiler

open Session

namespace Session

theorem logs_revoke (granted : Bool) : (revoke granted).Logs fun _ log => Idle log := by
  cases granted with
  | false => exact .done .nil
  | true => exact .request fun _ => .done (.cons trivial .nil)

theorem logs_grantFor (pid : Nat) : (grantFor pid).Logs fun _ log => Idle log := by
  refine .request fun own => ?_
  split
  · exact .request fun _ => .done (.cons trivial (.cons trivial .nil))
  · exact .done (.cons trivial .nil)

/-- As long as the collector is not started, attaching it changes nothing. -/
theorem logs_attach (settings : Settings) (pid : Nat) (granularity : Granularity)
    (artifact : String) :
    (attach settings pid granularity artifact).Logs fun _ log => started log = [] → Idle log := by
  refine .bind (logs_grantFor pid) ?_
  intro granted before idle
  refine .request fun answer => ?_
  cases answer with
  | error e =>
      refine .bind (logs_revoke granted) ?_
      intro _ after idleAfter
      refine .done fun _ => ?_
      rw [List.append_nil]
      exact idle.append (.cons trivial idleAfter)
  | ok process =>
      intro σ host s nothing
      rw [started, List.filterMap_append, List.append_eq_nil_iff] at nothing
      cases nothing.2

end Session

namespace Pass

section Ask

variable (settings : Settings) (unit : Workload) (input : Payload) (granularity : Granularity)

/-- How an attached pass asks for its session. -/
def askSession : Program (Except Failure Session) :=
  .ask .ownPid fun pid =>
    Session.attach settings pid granularity (attachedArtifact settings unit granularity)

theorem runAttached_eq_bind :
    runAttached settings unit input granularity =
      (askSession settings unit granularity).bind
        (runWith unit input granularity (attachedArtifact settings unit granularity)) := rfl

theorem takes_askSession :
    (askSession settings unit granularity).Takes fun asked c =>
      ∃ pid, Attaching settings pid granularity (attachedArtifact settings unit granularity)
        asked c := by
  refine .aside rfl fun pid => (takes_attach settings pid granularity _).mono ?_
  intro asked c attaching
  exact ⟨pid, attaching⟩

theorem logs_askSession :
    (askSession settings unit granularity).Logs fun _ log => started log = [] → Idle log := by
  refine .request fun pid => (logs_attach settings pid granularity _).mono ?_
  intro asked log idle nothing
  exact .cons trivial (idle nothing)

end Ask

variable {settings : Settings} {unit : Workload} {input : Payload} {granularity : Granularity}
variable {σ : Type} {host : Host σ} {present : σ → String → Prop} {s : σ}

/-- A collector that was started but did not come to observe leaves an artifact, unless none can
be created. -/
theorem present_of_started (honest : host.Honest present) {e : Failure}
    (failed : ((askSession settings unit granularity).run host s).1 = .error e)
    (creatable : ∀ refusal, ⟨.touch (attachedArtifact settings unit granularity), .error refusal⟩ ∉
      (askSession settings unit granularity).log host s)
    (going : started ((askSession settings unit granularity).log host s) ≠ []) :
    present ((askSession settings unit granularity).run host s).2
      (attachedArtifact settings unit granularity) := by
  obtain ⟨pid, attaching⟩ := takes_askSession settings unit granularity σ host s
  rw [← started_course] at going
  refine Program.present_of_leaves honest (Leaves.of_course ?_)
  generalize hlog : course ((askSession settings unit granularity).log host s) = c at *
  rw [failed] at attaching
  -- Either nothing was started, or the session was begun and its closing sees to the artifact.
  cases attaching with
  | refused asked e =>
      refine absurd ?_ going
      rw [started, List.filterMap_append, filterMap_asking fun _ => rfl, List.nil_append,
        List.filterMap_cons_none rfl, filterMap_revocation rfl]
  | unready asked process sights e touched seen =>
      cases touched with
      | error refusal =>
          refine absurd (mem_course.mp ?_).1 (creatable refusal)
          rw [hlog]
          simp [closing]
      | ok _ =>
          exact Leaves.after _ (.later (.later (Leaves.after _ (leaves_closing _))))

theorem artifacts_unattached (artifact : String) (e : Failure) :
    ((unattached unit input granularity artifact e).run host s).1.artifacts =
      if (host s (.exists_ artifact)).1 then [artifact] else [] := by
  simp only [unattached, Program.request, Program.bind_eq, Program.ask_bind, Program.done_bind,
    Program.run_ask]
  cases (host s (.exists_ artifact)).1 with
  | true => rfl
  | false => rfl

theorem log_unattached (artifact : String) (e : Failure) :
    (unattached unit input granularity artifact e).log host s =
      [⟨.exists_ artifact, (host s (.exists_ artifact)).1⟩] := by
  simp only [unattached, Program.request, Program.bind_eq, Program.ask_bind, Program.done_bind,
    Program.log_ask]
  cases (host s (.exists_ artifact)).1 with
  | true => rfl
  | false => rfl

variable (input) in
/-- After its session has failed, all that a pass does is one look for its artifact. -/
theorem run_of_failed {e : Failure}
    (failed : ((askSession settings unit granularity).run host s).1 = .error e) :
    let artifact := attachedArtifact settings unit granularity
    let asked := (askSession settings unit granularity).run host s
    let left := (host asked.2 (.exists_ artifact)).1
    ((runAttached settings unit input granularity).run host s).1.artifacts =
        (if left then [artifact] else []) ∧
      (runAttached settings unit input granularity).log host s =
        (askSession settings unit granularity).log host s ++ [⟨.exists_ artifact, left⟩] := by
  intro artifact asked left
  rw [runAttached_eq_bind, Program.result_bind, Program.log_bind, failed]
  constructor
  · exact artifacts_unattached artifact e
  · rw [runWith, log_unattached]

variable (settings unit input granularity) in
/-- On a host whose answers about files are true, an attached pass without a session lists its
artifact if its collector was started and the artifact can be created. If the collector was not
started, it lists the artifact exactly if there was one before the pass. -/
theorem unattached_artifacts (truthful : host.Truthful present) {e : Failure}
    (failed : sessionAsked settings unit granularity host s = .error e)
    (creatable : ∀ refusal, ⟨.touch (attachedArtifact settings unit granularity), .error refusal⟩ ∉
      (runAttached settings unit input granularity).log host s) :
    let artifact := attachedArtifact settings unit granularity
    let listed := ((runAttached settings unit input granularity).run host s).1.artifacts
    let going := started ((runAttached settings unit input granularity).log host s)
    (going ≠ [] → listed = [artifact]) ∧
      (going = [] → present s artifact → listed = [artifact]) ∧
      (going = [] → ¬present s artifact → listed = []) := by
  obtain ⟨hlisted, hlog⟩ := run_of_failed input failed
  have hgoing : started ((runAttached settings unit input granularity).log host s) =
      started ((askSession settings unit granularity).log host s) := by
    rw [hlog, started, List.filterMap_append]
    exact List.append_nil _
  have idle := logs_askSession settings unit granularity σ host s
  rw [hlog] at creatable
  dsimp only
  rw [hgoing, hlisted]
  refine ⟨?_, ?_, ?_⟩
  · intro going
    have there := present_of_started truthful.toHonest failed ?_ going
    · rw [truthful.found there, if_pos rfl]
    · intro refusal denied
      exact creatable refusal (List.mem_append_left _ denied)
  · intro nothing there
    have kept := (Program.present_iff_of_idle truthful (idle nothing)).mpr there
    rw [truthful.found kept, if_pos rfl]
  · intro nothing absent
    have still := mt (Program.present_iff_of_idle truthful (idle nothing)).mp absent
    rw [if_neg (mt truthful.exists_iff.mp still)]

theorem once_truthful : once.Truthful fun state path => path ∈ state.2 where
  shown {state r path} shows := by
    cases r with
    | start command => cases shows
    | _ => exact (disk_honest true).shown shows
  kept {state r path} there harmless := by
    cases r with
    | start command => exact there
    | _ => exact (disk_honest true).kept there harmless
  script {state directory script} created :=
    (disk_honest true).script (s := state.2) created
  found there := List.contains_iff_mem.mpr there
  vacant {state r path} absent idle := by
    cases r with
    | ownPid => exact absent
    | grantTracing => exact absent
    | revokeTracing => exact absent
    | exists_ seen => exact absent
    | start command => exact absent
    | _ => exact idle.elim

theorem creatable_once {α : Type} (p : Program α) (state : Bool × List String) (path : String)
    (refusal : OsError) : ⟨.touch path, .error refusal⟩ ∉ p.log once state := by
  intro denied
  obtain ⟨before, answered⟩ := Program.exists_state_of_mem_log denied
  cases answered

/-- A collector that ends at once leaves an artifact, and one that is not started leaves none. -/
theorem unattached_artifacts_once :
    let pass := runAttached brief sample default .full
    (pass.run once (false, [])).1.artifacts = [attachedArtifact brief sample .full] ∧
      (pass.run once (true, [])).1.artifacts = [] := by
  intro pass
  have ended := unattached_artifacts brief sample default .full once_truthful
    (s := (false, [])) rfl (creatable_once _ _ _)
  have refused := unattached_artifacts brief sample default .full once_truthful
    (s := (true, [])) rfl (creatable_once _ _ _)
  exact ⟨ended.1 (by decide), refused.2.2 (by decide) (by decide)⟩

/-- What an earlier pass has left is listed by a pass whose collector could not be started. -/
theorem leftover_listed_once :
    let artifact := attachedArtifact brief sample .full
    let pass := runAttached brief sample default .full
    (sessionAsked brief sample .full once (true, [artifact])).isOk = false ∧
      started (pass.log once (true, [artifact])) = [] ∧
      (pass.run once (true, [artifact])).1.artifacts = [artifact] := by
  decide

end Pass

end SyscallProfiler
