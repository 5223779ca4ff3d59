import SyscallProfiler.Proofs.Host.Watch
import SyscallProfiler.Session

/-!
# The course of a session

A session is attached in one of three ways: the collector is not started, it is started
but does not come to observe, or it observes. In the second case the session is closed at
once, and in the third the caller has to stop it. Each way has one course, up to what is
seen of the collector.
-/

namespace SyscallProfiler.Session

open Watch

/-- How the collector was seen to end during start-up, if that is why it is not observing. -/
def StartError.status? : StartError → Option ExitStatus
  | .absent => none
  | .ended status _ => some status
  | .unknown _ => none
  | .late _ _ => none

/-- How the collector was seen to end before it was observing, if it was. -/
def endSeen : Except StartError Unit → Option ExitStatus
  | .ok () => none
  | .error e => e.status?

/-- What a session holds after its collector was looked at: not the collector if its end was seen,
nor then its complaints. -/
def after (s : Session) : Except StartError Unit → Session
  | .error (.ended _ _) => { s with process := none, complaints := none }
  | _ => s

/-- What a look during start-up means. -/
inductive Means : Sight → Except StartError Unit → Prop where
  | running : Means .running (.ok ())
  | ended (status : ExitStatus) (complaint : String) :
      Means (.ended status) (.error (.ended status complaint))
  | unknown (reason : String) : Means (.unknown reason) (.error (.unknown reason))

/-- The request for permission to be traced, if one is made, with its answer. -/
def asking : Option Bool → List Exchange
  | none => []
  | some granted => [⟨.grantTracing, granted⟩]

/-- The end of a permission to be traced. -/
def revocation (granted : Bool) : List Exchange :=
  if granted then [⟨.revokeTracing, ()⟩] else []

/-- How a session is closed, with the answer to the attempt to create its artifact. -/
def closing (artifact : String) (touched : Except OsError Unit) (granted : Bool) :
    List Exchange :=
  ⟨.touch artifact, touched⟩ :: (revocation granted ++ [⟨.note (.session .closed), ()⟩])

section Pieces

variable {β : Type} {f : Exchange → Option β}

@[simp] theorem filterMap_asking (grants : ∀ granted, f ⟨.grantTracing, granted⟩ = none)
    (permission : Option Bool) : (asking permission).filterMap f = [] := by
  cases permission with
  | none => rfl
  | some granted => exact List.filterMap_cons_none (grants granted)

@[simp] theorem filterMap_revocation (revokes : f ⟨.revokeTracing, ()⟩ = none) (granted : Bool) :
    (revocation granted).filterMap f = [] := by
  cases granted with
  | false => rfl
  | true => exact List.filterMap_cons_none revokes

end Pieces

section Held

variable {s : Session} {process : Nat}

theorem takes_collectComplaints (s : Session) :
    s.collectComplaints.Takes fun (_, left) c => left = { s with complaints := none } ∧ c = [] := by
  rw [collectComplaints]
  split
  · rename_i collected
    exact .done ⟨collected ▸ rfl, rfl⟩
  · exact .aside rfl fun complaint => .done ⟨rfl, rfl⟩

theorem takes_ensureRunning (held : s.process = some process) :
    s.ensureRunning.Takes fun (ready, left) c =>
      left = s.after ready ∧ ∃ sight, Means sight ready ∧ c = [⟨.look process, sight⟩] := by
  rw [ensureRunning, held]
  refine .request rfl fun sight => ?_
  cases sight with
  | running => exact .done ⟨rfl, _, .running, rfl⟩
  | ended status =>
      refine .bind (takes_collectComplaints _) ?_
      rintro ⟨complaint, _⟩ _ ⟨rfl, rfl⟩
      exact .done ⟨rfl, _, .ended status complaint, rfl⟩
  | unknown reason => exact .done ⟨rfl, _, .unknown reason, rfl⟩

theorem takes_probe (held : s.process = some process) (start deadline : Duration) (fuel : Nat) :
    (s.probe start deadline fuel).Takes fun (ready, left) c =>
      left = s.after ready ∧ ((fuel = 0 ∧ endSeen ready = none ∧ c = []) ∨
        ∃ sights, Seen sights (endSeen ready) ∧ c = sightings process sights) := by
  induction fuel with
  | zero => exact .done ⟨rfl, Or.inl ⟨rfl, rfl, rfl⟩⟩
  | succ fuel ih =>
      refine .bind (takes_ensureRunning held) ?_
      rintro ⟨_, _⟩ _ ⟨rfl, _, ended | ended | reason, rfl⟩
      · refine .aside rfl fun tracer => ?_
        split
        · exact .done ⟨rfl, Or.inr ⟨_, .running, rfl⟩⟩
        · refine .aside rfl fun now => ?_
          split
          · exact .done ⟨rfl, Or.inr ⟨_, .running, rfl⟩⟩
          · refine .aside rfl fun _ => ih.mono ?_
            rintro ⟨ready, _⟩ c ⟨left, ⟨-, unseen, rfl⟩ | ⟨sights, seen, rfl⟩⟩
            · exact ⟨left, Or.inr ⟨_, unseen.symm ▸ Seen.running, rfl⟩⟩
            · exact ⟨left, Or.inr ⟨_, .again seen, rfl⟩⟩
      · exact .done ⟨rfl, Or.inr ⟨_, .ended _, rfl⟩⟩
      · exact .done ⟨rfl, Or.inr ⟨_, .unknown _, rfl⟩⟩

/-- In either readiness mode the collector is looked at until it is observing or is not
going to. -/
theorem takes_awaitReady (settings : Settings) (held : s.process = some process) :
    (s.awaitReady settings).Takes fun (ready, left) c =>
      left = s.after ready ∧
        ∃ sights, Seen sights (endSeen ready) ∧ c = sightings process sights := by
  rw [awaitReady]
  cases settings.readiness with
  | settle =>
      refine .aside rfl fun _ => (takes_ensureRunning held).mono ?_
      rintro ⟨_, _⟩ _ ⟨rfl, _, ended | ended | reason, rfl⟩
      · exact ⟨rfl, _, .running, rfl⟩
      · exact ⟨rfl, _, .ended _, rfl⟩
      · exact ⟨rfl, _, .unknown _, rfl⟩
  | probe =>
      refine .aside rfl fun start => (takes_probe held start _ _).mono ?_
      rintro ⟨ready, _⟩ c ⟨left, ⟨nothing, -, -⟩ | watched⟩
      · exact absurd nothing (looks_ne_zero _)
      · exact ⟨left, watched⟩

end Held

/-! ## Closing and dropping -/

theorem takes_revoke (granted : Bool) :
    (revoke granted).Takes fun _ c => c = revocation granted := by
  cases granted with
  | false => exact .done rfl
  | true => exact .request rfl fun _ => .done rfl

theorem takes_kill (process? : Option Nat) :
    (kill process?).Takes fun _ c => c = process?.elim [] destruction := by
  cases process? with
  | none => exact .done rfl
  | some process => exact takes_destroy process

section Closing

variable {s : Session}

theorem takes_close (unclosed : s.state ≠ .closed) :
    s.close.Takes fun left c => left = { s with granted := false, state := .closed } ∧
      ∃ touched, c = closing s.artifact touched s.granted := by
  rw [close, if_neg unclosed]
  refine .request rfl fun touched => .bind (takes_revoke s.granted) ?_
  rintro _ _ rfl
  exact .request rfl fun _ => .done ⟨rfl, touched, rfl⟩

/-- A session that is given up loses its collector and is closed. -/
theorem takes_drop (unclosed : s.state ≠ .closed) :
    s.drop.Takes fun _ c => ∃ touched,
      c = s.process.elim [] destruction ++ closing s.artifact touched s.granted := by
  refine .bind (takes_kill s.process) ?_
  rintro _ _ rfl
  refine .bind (takes_collectComplaints _) ?_
  rintro ⟨_, _⟩ _ ⟨rfl, rfl⟩
  refine .bind (takes_close unclosed) ?_
  rintro _ _ ⟨rfl, touched, rfl⟩
  exact .done ⟨touched, by simp⟩

/-- A session whose collector does not come to observe is given up. The collector is still held, and
so it is killed, unless its end was seen. -/
theorem takes_drop_after {process : Nat} (held : s.process = some process)
    (unclosed : s.state ≠ .closed) (e : StartError) :
    (s.after (.error e)).drop.Takes fun _ c => ∃ touched,
      c = (if e.status?.isNone then destruction process else []) ++
        closing s.artifact touched s.granted := by
  have kept : (s.after (.error e)).state = s.state ∧ (s.after (.error e)).artifact = s.artifact ∧
      (s.after (.error e)).granted = s.granted := by
    cases e <;> exact ⟨rfl, rfl, rfl⟩
  have left : (s.after (.error e)).process = if e.status?.isNone then some process else none := by
    cases e with
    | ended status complaint => rfl
    | _ => exact held
  refine (takes_drop (kept.1 ▸ unclosed)).mono ?_
  rintro _ _ ⟨touched, rfl⟩
  refine ⟨touched, ?_⟩
  rw [kept.2.1, kept.2.2, left]
  split <;> rfl

/-- A session that is closed and holds nothing any more. -/
structure IsOver (s : Session) : Prop where
  closed : s.state = .closed
  process_eq_none : s.process = none
  complaints_eq_none : s.complaints = none
  not_granted : s.granted = false

/-- Nothing is done about a session that is over. -/
theorem IsOver.drop_eq (h : s.IsOver) : s.drop = .done () := by
  obtain ⟨_, _, _, state, process, complaints, _, _, granted⟩ := s
  obtain ⟨rfl, rfl, rfl, rfl⟩ := h
  rfl

end Closing

/-! ## Attaching -/

theorem takes_grantFor (pid : Nat) :
    (grantFor pid).Takes fun granted c =>
      ∃ asked, granted = asked.getD false ∧ c = asking asked := by
  refine .aside rfl fun own => ?_
  split
  · exact .request rfl fun granted => .done ⟨some granted, rfl, rfl⟩
  · exact .done ⟨none, rfl, rfl⟩

/-- The command that attaches the collector. -/
def attachCommand (settings : Settings) (pid : Nat) (granularity : Granularity)
    (artifact : String) : Command :=
  ⟨settings.collector, Collector.attachArgs ⟨settings.collector, granularity, artifact⟩ pid, false⟩

/-- How attaching a session can go: with which result, and by which course. -/
inductive Attaching (settings : Settings) (pid : Nat) (granularity : Granularity)
    (artifact : String) : Except Failure Session → List Exchange → Prop where
  /-- The collector could not be started. -/
  | refused (asked : Option Bool) (e : OsError) :
      Attaching settings pid granularity artifact
        (.error (.collector s!"failed to start {settings.collector}: {e.message}"))
        (asking asked ++
          ⟨.start (attachCommand settings pid granularity artifact), .error e⟩ ::
            revocation (asked.getD false))
  /-- The collector was started but did not come to observe. -/
  | unready (asked : Option Bool) (process : Nat) (sights : List Sight) (e : StartError)
      (touched : Except OsError Unit) (seen : Seen sights e.status?) :
      Attaching settings pid granularity artifact (.error (.collector e.text))
        (asking asked ++
          ⟨.start (attachCommand settings pid granularity artifact), .ok process⟩ ::
            ⟨.note (.session .starting), ()⟩ ::
              (parting process sights e.status? ++ closing artifact touched (asked.getD false)))
  /-- The collector is observing. -/
  | active (asked : Option Bool) (process : Nat) (sights : List Sight) (opened : Nat)
      (seen : Seen sights none) :
      Attaching settings pid granularity artifact
        (.ok { initial settings pid granularity artifact process (asked.getD false) with
               state := .active
               window := some (.openAt opened) })
        (asking asked ++
          ⟨.start (attachCommand settings pid granularity artifact), .ok process⟩ ::
            ⟨.note (.session .starting), ()⟩ ::
              (sightings process sights ++
                [⟨.note (.session .active), ()⟩, ⟨.wallClock, opened⟩]))

/-- A session whose collector is observing. -/
structure IsObserving (s : Session) (process : Nat) (window : Window) : Prop where
  process_eq : s.process = some process
  window_eq : s.window = some window

theorem Attaching.exists_isObserving {settings : Settings} {pid : Nat} {granularity : Granularity}
    {artifact : String} {s : Session} {c : List Exchange}
    (h : Attaching settings pid granularity artifact (.ok s) c) :
    ∃ process window, s.IsObserving process window := by
  cases h with
  | active asked process sights opened seen => exact ⟨process, .openAt opened, rfl, rfl⟩

section Attach

variable (settings : Settings) (pid : Nat) (granularity : Granularity) (artifact : String)

/-- A collector that was started either comes to observe or is got rid of. -/
theorem takes_begin_ (asked : Option Bool) (process : Nat) :
    (begin_ settings pid granularity artifact process (asked.getD false)).Takes fun result c =>
      Attaching settings pid granularity artifact result
        (asking asked ++
          ⟨.start (attachCommand settings pid granularity artifact), .ok process⟩ :: c) := by
  have held : (initial settings pid granularity artifact process (asked.getD false)).process =
      some process := rfl
  refine .request rfl fun _ => .bind (takes_awaitReady settings held) ?_
  rintro ⟨ready, _⟩ _ ⟨rfl, sights, seen, rfl⟩
  cases ready with
  | ok _ =>
      exact .request rfl fun _ => .request rfl fun opened =>
        .done (.active asked process sights opened seen)
  | error e =>
      have unready (touched : Except OsError Unit) :
          Attaching settings pid granularity artifact (.error (.collector e.text)) _ :=
        .unready asked process sights e touched seen
      have unclosed : SessionState.starting ≠ .closed := nofun
      refine .map ((takes_drop_after rfl unclosed e).mono ?_)
      rintro _ _ ⟨touched, rfl⟩
      simpa [parting, initial] using unready touched

theorem takes_attach :
    (attach settings pid granularity artifact).Takes
      (Attaching settings pid granularity artifact) := by
  refine .bind (takes_grantFor pid) ?_
  rintro _ _ ⟨asked, rfl, rfl⟩
  refine .request rfl fun started => ?_
  cases started with
  | error e =>
      refine .map ((takes_revoke _).mono ?_)
      rintro _ _ rfl
      exact .refused asked e
  | ok process => exact takes_begin_ settings pid granularity artifact asked process

end Attach

/-- A collector that was interrupted is waited for, and killed if its end was not seen. -/
theorem takes_interruptAndWait (process : Nat) (timeout : Duration) :
    (interruptAndWait process timeout).Takes fun escalated c =>
      ∃ sent sights status, Seen sights status ∧ escalated = status.isNone ∧
        c = ⟨.interrupt process, sent⟩ :: parting process sights status := by
  refine .request rfl fun sent => .bind (takes_untilEnd process timeout) ?_
  rintro status _ ⟨sights, seen, rfl⟩
  cases status with
  | some status => exact .done ⟨sent, sights, _, seen, rfl, rfl⟩
  | none =>
      refine .map ((takes_destroy process).mono ?_)
      rintro _ _ rfl
      exact ⟨sent, sights, none, seen, rfl, rfl⟩

section Stop

variable {s : Session} {process : Nat} {window : Window}

/-- Stopping a session closes its window before the collector is interrupted, and the
session after the collector is gone. Nothing is left of the session then. -/
theorem takes_wind (observing : s.IsObserving process window) :
    s.wind.Takes fun (closure, left) c => left.IsOver ∧ ∃ closed sent sights status touched,
      Seen sights status ∧
      closure = ⟨[s.artifact], some (window.closeAt closed), status.isNone, "", ""⟩ ∧
      c = ⟨.note (.session .stopping), ()⟩ :: ⟨.wallClock, closed⟩ ::
        ⟨.interrupt process, sent⟩ :: (parting process sights status ++
          closing s.artifact touched s.granted) := by
  rw [wind]
  refine .request rfl fun _ => ?_
  dsimp only [Program.pure_eq, Program.done_bind]
  rw [observing.window_eq, observing.process_eq]
  refine .request rfl fun closed => .bind (takes_interruptAndWait process s.stopTimeout) ?_
  rintro _ _ ⟨sent, sights, status, seen, rfl, rfl⟩
  refine .bind (takes_collectComplaints _) ?_
  rintro ⟨_, _⟩ _ ⟨rfl, rfl⟩
  have unclosed : SessionState.stopping ≠ .closed := nofun
  refine .map ((takes_close unclosed).mono ?_)
  rintro _ _ ⟨rfl, touched, rfl⟩
  exact ⟨⟨rfl, rfl, rfl, rfl⟩, closed, sent, sights, status, touched, seen, rfl, rfl⟩

/-- A session that was stopped is over, in whatever state it was and whatever it held. -/
theorem takes_wind_isOver (s : Session) : s.wind.Takes fun (_, left) _ => left.IsOver := by
  refine .request rfl fun _ => .bind (.any _) fun window _ _ => ?_
  refine .bind (.any _) fun escalated _ _ => .bind (takes_collectComplaints _) ?_
  rintro ⟨_, _⟩ _ ⟨rfl, -⟩
  have unclosed : SessionState.stopping ≠ .closed := nofun
  refine .map ((takes_close unclosed).mono ?_)
  rintro _ _ ⟨rfl, -⟩
  exact ⟨rfl, rfl, rfl, rfl⟩

/-- Dropping what is left of a session that was stopped does not show in the course. -/
theorem takes_stop (observing : s.IsObserving process window) :
    s.stop.Takes fun closure c => ∃ closed sent sights status touched,
      Seen sights status ∧
      closure = ⟨[s.artifact], some (window.closeAt closed), status.isNone, "", ""⟩ ∧
      c = ⟨.note (.session .stopping), ()⟩ :: ⟨.wallClock, closed⟩ ::
        ⟨.interrupt process, sent⟩ :: (parting process sights status ++
          closing s.artifact touched s.granted) := by
  refine .bind (takes_wind observing) ?_
  rintro ⟨closure, left⟩ c ⟨done, stopped⟩
  dsimp only
  rw [done.drop_eq]
  exact .done (by simpa using stopped)

end Stop

end SyscallProfiler.Session
