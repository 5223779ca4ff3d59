import SyscallProfiler.Proofs.Pass.Course

/-!
# The protocol of an attached pass

The workload is called once the collector is observing, inside the window of the session
and before the collector is interrupted. Whatever comes of the call, the session is stopped
and closed. A session whose collector does not come to observe is closed at once. In either
case closing is the one attempt to create the artifact.
-/

namespace SyscallProfiler

/-- The state that a session enters. -/
@[simp] def Request.entered? : Request → Option SessionState
  | .note (.session state) => some state
  | _ => none

/-- The path at which there is to be a file. -/
@[simp] def Request.touched? : Request → Option String
  | .touch path => some path
  | _ => none

/-- The states that sessions entered, in order. -/
def states (log : List Exchange) : List SessionState := log.filterMap (·.request.entered?)

/-- The paths at which there were to be files, in order. -/
def touches (log : List Exchange) : List String := log.filterMap (·.request.touched?)

theorem states_course (log : List Exchange) : states (course log) = states log := by
  refine filterMap_course (fun e h => ?_) log
  cases hr : e.request with
  | note what => rw [hr] at h; cases h
  | _ => rfl

theorem touches_course (log : List Exchange) : touches (course log) = touches log := by
  refine filterMap_course (fun e h => ?_) log
  cases hr : e.request with
  | touch path => rw [hr] at h; cases h
  | _ => rfl

namespace Pass

open Watch Session

variable {settings : Settings} {unit : Workload} {input : Payload} {granularity : Granularity}
variable {asked : Except Failure Session} {r : PassResult} {c : List Exchange}

/-- The states that the session of a pass goes through, after `processes` were started for it. -/
def statesOf (processes : List Nat) : Except Failure Session → List SessionState
  | .ok _ => [.starting, .active, .stopping, .closed]
  | .error _ => if processes = [] then [] else [.starting, .closed]

theorem AttachedCourse.states_eq (h : AttachedCourse settings unit input granularity asked r c) :
    states c = statesOf (started c) asked ∧
      touches c = (started c).map (fun _ => attachedArtifact settings unit granularity) ∧
      (started c).length ≤ 1 := by
  cases h with
  | unattached pid e before left attaching =>
      cases attaching with
      | refused permission e =>
          simp [states, started, touches, statesOf, List.filterMap_cons]
      | unready permission process sights e touched seen =>
          simp [states, started, touches, statesOf, destruction, closing, List.filterMap_cons]
  | stopped pid session process window before loaded closed sent sights status touched attaching
      observing seen =>
      cases attaching with
      | active permission _ watched opened seen =>
          obtain ⟨⟨⟩, ⟨⟩⟩ := observing
          simp [states, started, touches, statesOf, destruction, closing, List.filterMap_cons]

/-- The order of a pass whose workload is called in a session. The collector is started and
watched until it is observing. The window is opened before the call, and it is closed after
the call and before the collector is interrupted. The collector is waited for and killed if
its end was not seen, and only then is the session closed. -/
def InOrder (settings : Settings) (unit : Workload) (input : Payload) (granularity : Granularity)
    (session : Session) (r : PassResult) (c : List Exchange) : Prop :=
  ∃ (pid process : Nat) (permission : Option Bool) (watched : List Sight) (opened : Nat)
    (loaded : Except String Json) (closed : Nat) (sent : Bool) (sights : List Sight)
    (status : Option ExitStatus) (touched : Except OsError Unit),
    session.state = .active ∧ session.process = some process ∧
    session.window = some (.openAt opened) ∧ Seen watched none ∧ Seen sights status ∧
    c = asking permission ++
      ⟨.start (attachCommand settings pid granularity (attachedArtifact settings unit granularity)),
          .ok process⟩ ::
        ⟨.note (.session .starting), ()⟩ :: (sightings process watched ++
          ⟨.note (.session .active), ()⟩ :: ⟨.wallClock, opened⟩ ::
            ⟨.load unit.codePath input, loaded⟩ ::
              ⟨.note (.session .stopping), ()⟩ :: ⟨.wallClock, closed⟩ ::
                ⟨.interrupt process, sent⟩ ::
                  (parting process sights status ++
                    closing (attachedArtifact settings unit granularity) touched
                      (permission.getD false))) ∧
    r.outcome = some (.ofLoaded loaded) ∧
    r.window = some ⟨opened, max closed opened⟩ ∧
    r.escalated = status.isNone

theorem AttachedCourse.inOrder {session : Session}
    (h : AttachedCourse settings unit input granularity (.ok session) r c) :
    InOrder settings unit input granularity session r c := by
  cases h with
  | stopped pid _ process window before loaded closed sent sights status touched attaching observing
      seen =>
      cases attaching with
      | active permission _ watched opened watching =>
          obtain ⟨⟨⟩, ⟨⟩⟩ := observing
          refine ⟨pid, process, permission, watched, opened, loaded, closed, sent, sights, status,
            touched, rfl, rfl, rfl, watching, seen, ?_, rfl, rfl, rfl⟩
          simp

theorem AttachedCourse.outcome_eq_none {e : Failure}
    (h : AttachedCourse settings unit input granularity (.error e) r c) :
    r.outcome = none ∧ r.window = none := by
  cases h
  exact ⟨rfl, rfl⟩

/-- An attached pass calls its workload exactly if its session has come about, once, and in
order, whatever the call comes to. Its session goes through all four states then, and
otherwise, if the collector was started at all, from the first to the last. Each collector
that was started has its artifact seen to once: a session that is stopped is closed and holds
nothing when the rest of it is dropped, in whatever state it was and whatever it held, and so
nothing is done about it any more. -/
theorem attached_protocol (settings : Settings) (unit : Workload) (input : Payload)
    (granularity : Granularity) {σ : Type} (host : Host σ) (s : σ) :
    let log := (runAttached settings unit input granularity).log host s
    let r := ((runAttached settings unit input granularity).run host s).1
    let asked := sessionAsked settings unit granularity host s
    let artifact := Artifact.path settings.outputDir .attach granularity unit.name
    calls log = (if asked.isOk then [(unit.codePath, input)] else []) ∧
      states log = statesOf (started log) asked ∧
      touches log = (started log).map (fun _ => artifact) ∧
      (started log).length ≤ 1 ∧
      (match asked with
        | .ok session => InOrder settings unit input granularity session r (course log)
        | .error _ => r.outcome = none ∧ r.window = none) ∧
      ∀ (session : Session) (before : σ),
        let left := (session.wind.run host before).1.2
        left.IsOver ∧ left.drop = .done () := by
  intro log r asked artifact
  have going : AttachedCourse settings unit input granularity asked r (course log) :=
    attachedCourse_run settings unit input granularity host s
  obtain ⟨hstates, htouches, hstarted⟩ := going.states_eq
  rw [states_course, started_course] at hstates
  rw [touches_course, started_course] at htouches
  rw [started_course] at hstarted
  refine ⟨calls_runAttached settings unit input granularity host s, hstates, htouches,
    hstarted, ?_, fun session before => ?_⟩
  · cases h : asked with
    | ok session =>
        rw [h] at going
        exact going.inOrder
    | error e =>
        rw [h] at going
        exact going.outcome_eq_none
  · have done := takes_wind_isOver session σ host before
    exact ⟨done, done.drop_eq⟩

end Pass

end SyscallProfiler
