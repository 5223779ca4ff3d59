import SyscallProfiler.Proofs.Session.Escalation

/-!
# Waiting for an observer

A collector is probed until it is observing, and three things can put an end to that at the same
poll: the collector is not running any more, it traces the process, or the time for it is over. They
count in this order.
-/

namespace SyscallProfiler.Session

open Watch

/-- What is asked for in a round that decides nothing. -/
def probeRound (process pid : Nat) : List Request :=
  [.look process, .tracerOf pid, .clock, .sleep interval]

/-- What a poll finds, whether or not all of it is asked for. -/
structure Probe where
  sight : Sight
  /-- What the collector has complained about. -/
  complaint : String
  tracer : Option Nat
  now : Duration

namespace Probe

/-- It could be read which process traces the observed one, and there is one. -/
def IsTraced (p : Probe) : Prop := ∃ tracer, p.tracer = some tracer ∧ tracer ≠ 0

/-- The poll decides nothing. -/
def Pending (due : Nat) (p : Probe) : Prop :=
  p.sight = .running ∧ ¬p.IsTraced ∧ p.now.nanos < due

/-- How a poll decides whether the collector observes the process `pid`, in a wait that began at
`start`. -/
inductive Decides (p : Probe) (pid : Nat) (start deadline : Duration) :
    Except StartError Unit → Prop where
  /-- Whatever the tracer and the time. -/
  | ended {status : ExitStatus} (seen : p.sight = .ended status) :
      p.Decides pid start deadline (.error (.ended status p.complaint))
  | unknown {reason : String} (seen : p.sight = .unknown reason) :
      p.Decides pid start deadline (.error (.unknown reason))
  /-- Whatever the time. -/
  | traced (running : p.sight = .running) (traced : p.IsTraced) :
      p.Decides pid start deadline (.ok ())
  | late (running : p.sight = .running) (untraced : ¬p.IsTraced)
      (expired : start.nanos + deadline.nanos ≤ p.now.nanos) :
      p.Decides pid start deadline (.error (.late pid deadline))

theorem isTraced_iff {p : Probe} : p.IsTraced ↔ p.tracer.getD 0 ≠ 0 := by
  rw [IsTraced]
  cases p.tracer with
  | none => exact ⟨nofun, fun traced => absurd rfl traced⟩
  | some tracer =>
      constructor
      · rintro ⟨other, same, traced⟩
        cases same
        exact traced
      · intro traced
        exact ⟨tracer, rfl, traced⟩

namespace Decides

variable {p : Probe} {pid : Nat} {start deadline : Duration}
variable {answer other : Except StartError Unit}

/-- One rule applies at most. -/
theorem unique (h : p.Decides pid start deadline answer)
    (h' : p.Decides pid start deadline other) : answer = other := by
  -- Two rules differ in the sight, and the last two in the tracer.
  cases h <;> cases h' <;> simp_all

theorem not_pending (h : p.Decides pid start deadline answer) :
    ¬p.Pending (start.nanos + deadline.nanos) := by
  rintro ⟨running, untraced, inTime⟩
  cases h with
  | ended seen => rw [seen] at running; cases running
  | unknown seen => rw [seen] at running; cases running
  | traced _ traced => exact untraced traced
  | late _ _ expired => exact absurd inTime (Nat.not_lt.mpr expired)

/-- The answer is good exactly if the collector was seen to be running and the process traced. -/
theorem ok_iff (h : p.Decides pid start deadline answer) :
    answer = .ok () ↔ p.sight = .running ∧ p.IsTraced := by
  constructor
  · rintro rfl
    cases h with
    | traced running traced => exact ⟨running, traced⟩
  · rintro ⟨running, traced⟩
    exact h.unique (.traced running traced)

end Decides

end Probe

section Loop

variable {σ : Type}

/-- The poll of a host in some state. -/
def probeAt (host : Host σ) (process pid : Nat) (s : σ) : Probe where
  sight := (host s (.look process)).1
  complaint := (host (host.after [.look process] s) (.collect process .errors)).1
  tracer := (host (host.after [.look process] s) (.tracerOf pid)).1
  now := (host (host.after [.look process, .tracerOf pid] s) .clock).1

/-- A round asks whether the collector is running before it asks whether it traces, and for the
time only if it does not. -/
theorem polls_probe (host : Host σ) {session : Session} {process : Nat}
    (held : session.process = some process) (unheard : session.complaints = some process)
    (start deadline : Duration) :
    Polls host process (probeRound process session.pid)
      (fun s => (probeAt host process session.pid s).Pending (start.nanos + deadline.nanos))
      (fun s (answer, left) =>
        (probeAt host process session.pid s).Decides session.pid start deadline answer ∧
          left = session.after answer)
      (session.probe start deadline) where
  again s pending := by
    obtain ⟨running, untraced, inTime⟩ := pending
    rw [Probe.isTraced_iff] at untraced
    change (host s (.look process)).1 = .running at running
    have other : ¬(host (host s (.look process)).2 (.tracerOf session.pid)).1.getD 0 ≠ 0 := untraced
    have left : ¬(host (host (host s (.look process)).2 (.tracerOf session.pid)).2 .clock).1.nanos ≥
        start.nanos + deadline.nanos := Nat.not_le.mpr inTime
    refine ⟨[⟨.look process, .running⟩,
      ⟨.tracerOf session.pid, (probeAt host process session.pid s).tracer⟩,
      ⟨.clock, (probeAt host process session.pid s).now⟩, ⟨.sleep interval, ()⟩],
      by rw [running]; rfl, fun fuel => ?_⟩
    rw [probe]
    simp only [ensureRunning, held, Program.request, Program.bind_eq, Program.ask_bind,
      Program.done_bind, Program.pure_eq, Program.run_ask, Program.log_ask, running,
      if_neg other, if_neg left]
    exact ⟨rfl, rfl⟩
  ends s decides := by
    simp only [probe, ensureRunning, held, collectComplaints, unheard, Program.request,
      Program.bind_eq, Program.ask_bind, Program.done_bind, Program.pure_eq, Program.run_ask,
      Program.log_ask]
    cases seen : (host s (.look process)).1 with
    | ended status =>
        exact ⟨_, _, [⟨.look process, .ended status⟩, ⟨.collect process .errors, _⟩],
          ⟨.ended seen, rfl⟩, rfl, fun fuel => ⟨rfl, rfl⟩⟩
    | unknown reason =>
        exact ⟨_, _, [⟨.look process, .unknown reason⟩], ⟨.unknown seen, rfl⟩, rfl,
          fun fuel => ⟨rfl, rfl⟩⟩
    | running =>
        by_cases traced : (probeAt host process session.pid s).IsTraced
        · have tracer : (host (host s (.look process)).2 (.tracerOf session.pid)).1.getD 0 ≠ 0 :=
            Probe.isTraced_iff.mp traced
          simp only [Program.done_bind, Program.run_ask, Program.log_ask, if_pos tracer]
          exact ⟨_, _, _, ⟨.traced seen traced, rfl⟩, rfl, fun fuel => ⟨rfl, rfl⟩⟩
        · have other : ¬(host (host s (.look process)).2 (.tracerOf session.pid)).1.getD 0 ≠ 0 :=
            fun tracer => traced (Probe.isTraced_iff.mpr tracer)
          have expired :
              (host (host (host s (.look process)).2 (.tracerOf session.pid)).2 .clock).1.nanos ≥
                start.nanos + deadline.nanos := by
            by_contra left
            exact decides ⟨seen, traced, Nat.not_le.mp left⟩
          simp only [Program.done_bind, Program.run_ask, Program.log_ask, if_neg other,
            if_pos expired]
          exact ⟨_, _, _, ⟨.late seen traced expired, rfl⟩, rfl, fun fuel => ⟨rfl, rfl⟩⟩

/-- The polls of a wait that begins in some state. -/
def probes (host : Host σ) (process pid : Nat) (s : σ) (k : Nat) : Probe :=
  probeAt host process pid ((host.after (probeRound process pid))^[k] (host s .clock).2)

/-- The time from which on a collector is late, if the wait for it begins in some state. -/
def due (host : Host σ) (settings : Settings) (s : σ) : Nat :=
  (host s .clock).1.nanos + settings.attachDeadline.nanos

end Loop

section Ready

variable {σ : Type} {host : Host σ} {settings : Settings} {session : Session} {process : Nat}
variable {s : σ}

/-- The wait for a collector comes to the first poll that decides. -/
theorem awaitReady_of_advances (held : session.process = some process)
    (unheard : session.complaints = some process) (probing : settings.readiness = .probe)
    (onward : (host s .clock).1.nanos ≤ (probes host process session.pid s 0).now.nanos)
    (advances : ∀ k,
      (∀ j ≤ k, (probes host process session.pid s j).Pending (due host settings s)) →
      (probes host process session.pid s k).now.nanos + interval.nanos ≤
        (probes host process session.pid s (k + 1)).now.nanos) :
    ∃ last ≤ settings.attachDeadline.nanos ⌈/⌉ interval.nanos,
      (∀ k < last, (probes host process session.pid s k).Pending (due host settings s)) ∧
      ((probes host process session.pid s last).Decides session.pid (host s .clock).1
          settings.attachDeadline ((session.awaitReady settings).run host s).1.1 ∧
        ((session.awaitReady settings).run host s).1.2 =
          session.after ((session.awaitReady settings).run host s).1.1) ∧
      course ((session.awaitReady settings).log host s) =
        sightings process
          ((List.range (last + 1)).map fun k => (probes host process session.pid s k).sight) ∧
      ∀ fuel > last,
        let loop := session.probe (host s .clock).1 settings.attachDeadline fuel
        loop.run host (host s .clock).2 = (session.awaitReady settings).run host s ∧
          ⟨.clock, (host s .clock).1⟩ :: loop.log host (host s .clock).2 =
            (session.awaitReady settings).log host s := by
  have begins : session.awaitReady settings = (Program.request .clock).bind fun start =>
      session.probe start settings.attachDeadline (looks settings.attachDeadline) := by
    rw [awaitReady, probing]
    dsimp only
    rw [Program.bind_eq]
  have goes := polls_probe host held unheard (host s .clock).1 settings.attachDeadline
  obtain ⟨last, bound, pending, -, rest⟩ :=
    goes.bounded_of_clock begins onward (fun k pending => pending.2.2) advances
  exact ⟨last, bound, pending, rest⟩

/-- A session that is closed is not made active. -/
theorem active_notMem_closing (artifact : String) (touched : Except OsError Unit)
    (granted : Bool) : ⟨.note (.session .active), ()⟩ ∉ closing artifact touched granted := by
  cases granted <;> simp [closing, revocation]

theorem active_notMem_destruction (process : Nat) :
    ⟨.note (.session .active), ()⟩ ∉ destruction process := by
  simp [destruction]

/-- What is done about a session once the wait for its collector is over. -/
def settle : Except StartError Unit × Session → Program (Except Failure Session)
  | (.error e, s) => do
    s.drop
    return .error (.collector e.text)
  | (.ok (), s) => do
    let s ← s.enter .active
    let now ← Program.request .wallClock
    return .ok { s with window := some (.openAt now) }

theorem begin_eq (settings : Settings) (pid : Nat) (granularity : Granularity) (artifact : String)
    (process : Nat) (granted : Bool) :
    begin_ settings pid granularity artifact process granted =
      (Program.request (.note (.session .starting))).bind fun _ =>
        ((initial settings pid granularity artifact process granted).awaitReady settings).bind
          settle := rfl

/-- What becomes of a collector that was started is settled by how the wait for it ends. -/
theorem begin_of_awaitReady {pid : Nat} {answer : Except StartError Unit} {left : Session}
    {later : σ} (artifact : String) (granularity : Granularity) (granted : Bool)
    (waited : ((initial settings pid granularity artifact process granted).awaitReady settings).run
      host (host s (.note (.session .starting))).2 = ((answer, left), later))
    (left_eq : left = (initial settings pid granularity artifact process granted).after answer) :
    let opening := begin_ settings pid granularity artifact process granted
    (∀ e, answer = .error e → (opening.run host s).1 = .error (.collector e.text)) ∧
      ∃ rest, course (opening.log host s) = ⟨.note (.session .starting), ()⟩ ::
          (course (((initial settings pid granularity artifact process granted).awaitReady
            settings).log host (host s (.note (.session .starting))).2) ++ rest) ∧
        (⟨.note (.session .active), ()⟩ ∈ rest ↔ answer = .ok ()) := by
  intro opening
  dsimp only [opening]
  rw [begin_eq, Program.run_request_bind, Program.log_request_bind, course_cons rfl,
    Program.result_bind, Program.log_bind, course_append, waited]
  cases answer with
  | ok _ => exact ⟨nofun, _, rfl, iff_of_true (.head _) rfl⟩
  | error e =>
      have starting : SessionState.starting ≠ .closed := nofun
      obtain ⟨touched, gone⟩ :=
        takes_drop_after (s := initial settings pid granularity artifact process granted) rfl
          starting e σ host later
      rw [settle, Program.bind_eq, Program.result_bind, Program.log_bind, Program.pure_eq,
        Program.log_done, List.append_nil, left_eq, gone]
      refine ⟨fun _ same => ?_, _, rfl, iff_of_false ?_ nofun⟩
      · cases same
        rfl
      · rw [List.mem_append, not_or]
        refine ⟨?_, active_notMem_closing _ touched granted⟩
        split
        · exact active_notMem_destruction process
        · exact List.not_mem_nil

end Ready

/-- A host on which processes end in the second pause, and on which others seem to be traced from
then on. -/
def missed : Host Nat
  | pauses, .tracerOf _ => (some (if pauses < 2 then 0 else 7), pauses)
  | pauses, r => soon pauses r

end SyscallProfiler.Session
