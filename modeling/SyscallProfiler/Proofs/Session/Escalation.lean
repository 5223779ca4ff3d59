import SyscallProfiler.Proofs.Host.Polling
import SyscallProfiler.Proofs.Pass.Artifacts
import SyscallProfiler.Proofs.Session.Course

/-!
# Waiting for an end

A process that is waited for is looked at until it has ended, the host cannot tell, or the time is
over, and an end that is seen at the very poll that is late still counts. A process that was
interrupted is killed exactly if no end was seen.
-/

namespace SyscallProfiler

open Watch

namespace Watch

variable {σ : Type} {host : Host σ} {process : Nat} {timeout : Duration} {s : σ}

/-- A poll at which the process is seen to have ended decides, whatever the clock shows. -/
theorem Poll.not_pending_of_ended {p : Poll} {status : ExitStatus}
    (ended : p.sight = .ended status) : ¬p.Pending timeout := by
  rintro ⟨running, -⟩
  rw [ended] at running
  cases running

/-- An end is returned exactly if a poll that is made sees it, when all before it were in time and
could tell. -/
theorem status?_last_iff {poll : Nat → Poll} {last : Nat}
    (pending : ∀ k < last, (poll k).Pending timeout) (status : ExitStatus) :
    (poll last).status? = some status ↔ ∃ k ≤ last, (poll k).sight = .ended status ∧
      ∀ j < k, (∀ reason, (poll j).sight ≠ .unknown reason) ∧
        (poll j).elapsed.nanos < timeout.nanos := by
  rw [Poll.status?_eq_some_iff]
  constructor
  · intro ended
    refine ⟨last, le_rfl, ended, fun j less => ?_⟩
    obtain ⟨running, inTime⟩ := pending j less
    refine ⟨fun reason unknown => ?_, inTime⟩
    rw [running] at unknown
    cases unknown
  · rintro ⟨k, le, ended, -⟩
    obtain rfl | less := le.eq_or_lt
    · exact ended
    · exact absurd (pending k less) (Poll.not_pending_of_ended ended)

/-- A wait comes to the first poll that decides. -/
theorem untilEnd_of_advances
    (advances : ∀ k, (∀ j ≤ k, (polls host process s j).Pending timeout) →
      (polls host process s k).elapsed.nanos + interval.nanos ≤
        (polls host process s (k + 1)).elapsed.nanos) :
    ∃ last ≤ timeout.nanos ⌈/⌉ interval.nanos,
      (∀ k < last, (polls host process s k).Pending timeout) ∧
      ¬(polls host process s last).Pending timeout ∧
      ((untilEnd process timeout).run host s).1 = (polls host process s last).status? ∧
      course ((untilEnd process timeout).log host s) =
        sightings process ((List.range (last + 1)).map fun k => (polls host process s k).sight) ∧
      ∀ fuel > last,
        let wait := lookUntil process (host s .clock).1 timeout fuel
        wait.run host (host s .clock).2 = (untilEnd process timeout).run host s ∧
          ⟨.clock, (host s .clock).1⟩ :: wait.log host (host s .clock).2 =
            (untilEnd process timeout).log host s := by
  have begins : untilEnd process timeout = (Program.request .clock).bind fun start =>
      lookUntil process start timeout (looks timeout) := by
    rw [untilEnd, Program.bind_eq]
  have inTime : ∀ k, (polls host process s k).Pending timeout →
      (polls host process s k).elapsed.nanos < 0 + timeout.nanos := by
    intro k pending
    rw [Nat.zero_add]
    exact pending.2
  exact (polls_lookUntil host process (host s .clock).1 timeout).bounded_of_clock begins
    (Nat.zero_le _) inTime advances

end Watch

namespace Session

variable {σ : Type}

/-- What follows an interrupt is settled by how the wait ends. -/
theorem interruptAndWait_of_untilEnd (host : Host σ) (s : σ) (process : Nat) (timeout : Duration)
    {ended : Option ExitStatus} {later : σ}
    (waited : (untilEnd process timeout).run host (host s (.interrupt process)).2 =
      (ended, later)) :
    ((interruptAndWait process timeout).run host s).1 = ended.isNone ∧
      course ((interruptAndWait process timeout).log host s) =
        ⟨.interrupt process, (host s (.interrupt process)).1⟩ ::
          (course ((untilEnd process timeout).log host (host s (.interrupt process)).2) ++
            if ended.isNone then destruction process else []) := by
  rw [interruptAndWait, Program.bind_eq, Program.run_request_bind, Program.log_request_bind,
    course_cons rfl, Program.bind_eq, Program.result_bind, Program.log_bind, course_append,
    waited]
  cases ended with
  | none => exact ⟨rfl, rfl⟩
  | some status => exact ⟨rfl, rfl⟩

/-- If every pause takes an interval, a wait takes at least one look and at most one more than
intervals begin in its span, and the fuel of the loop does not show. It returns an end exactly if a
look that it takes sees it, with nothing before it that ends the wait, and an end that shows when
the time is over is no timeout. A process that was interrupted is killed, and said to have been,
exactly if the wait returns nothing. -/
theorem wait_bounded (host : Host σ) (s : σ) (process : Nat) (timeout : Duration)
    (advances : ∀ k, (∀ j ≤ k, (polls host process s j).Pending timeout) →
      (polls host process s k).elapsed.nanos + interval.nanos ≤
        (polls host process s (k + 1)).elapsed.nanos) :
    let poll := polls host process s
    let wait := untilEnd process timeout
    let result := (wait.run host s).1
    (∃ last ≤ timeout.nanos ⌈/⌉ interval.nanos,
      (∀ k < last, (poll k).Pending timeout) ∧ ¬(poll last).Pending timeout ∧
      course (wait.log host s) =
        sightings process ((List.range (last + 1)).map fun k => (poll k).sight) ∧
      (∀ status, result = some status ↔ ∃ k ≤ last, (poll k).sight = .ended status ∧
        ∀ j < k, (∀ reason, (poll j).sight ≠ .unknown reason) ∧
          (poll j).elapsed.nanos < timeout.nanos) ∧
      ∀ fuel > last,
        let unrolled := lookUntil process (host s .clock).1 timeout fuel
        unrolled.run host (host s .clock).2 = wait.run host s ∧
          ⟨.clock, (host s .clock).1⟩ :: unrolled.log host (host s .clock).2 = wait.log host s) ∧
    (∀ k status, (∀ j < k, (poll j).Pending timeout) → (poll k).sight = .ended status →
      result = some status) ∧
    ∀ before, (host before (.interrupt process)).2 = s →
      ((interruptAndWait process timeout).run host before).1 = result.isNone ∧
        course ((interruptAndWait process timeout).log host before) =
          ⟨.interrupt process, (host before (.interrupt process)).1⟩ ::
            (course (wait.log host s) ++ if result.isNone then destruction process else []) := by
  intro poll wait result
  obtain ⟨last, bound, pending, decides, result_eq, looks, same⟩ := untilEnd_of_advances advances
  refine ⟨⟨last, bound, pending, decides, looks, fun status => ?_, same⟩, ?_, ?_⟩
  · change (wait.run host s).1 = some status ↔ _
    rw [result_eq]
    exact status?_last_iff pending status
  · intro k status inTime ended
    have first : last = k := by
      rcases Nat.lt_trichotomy last k with less | same | more
      · exact absurd (inTime last less) decides
      · exact same
      · exact absurd (pending k more) (Poll.not_pending_of_ended ended)
    change (wait.run host s).1 = some status
    rw [result_eq, first, Poll.status?_eq_some_iff]
    exact ended
  · rintro before rfl
    exact interruptAndWait_of_untilEnd host before process timeout (Prod.eta _).symm

/-- A host on which only pauses take time, and on which every process ends in the second one. -/
def soon : Host Nat
  | pauses, .sleep _ => ((), pauses + 1)
  | pauses, .clock => (⟨pauses * interval.nanos⟩, pauses)
  | pauses, .look _ => (if pauses < 2 then .running else .ended (.exited 0), pauses)
  | pauses, r => ((Pass.disk true [] r).1, pauses)

/-- The end of a process shows when the time for it is just over. It is not killed. -/
theorem wait_bounded_soon :
    let timeout : Duration := .ofMillis 20
    let last := polls soon 3 0 2
    last.sight = .ended (.exited 0) ∧ last.elapsed = timeout ∧
      ((untilEnd 3 timeout).run soon 0).1 = some (.exited 0) ∧
      ((interruptAndWait 3 timeout).run soon 0).1 = false := by
  intro timeout last
  have advances : ∀ k, (∀ j ≤ k, (polls soon 3 0 j).Pending timeout) →
      (polls soon 3 0 k).elapsed.nanos + interval.nanos ≤
        (polls soon 3 0 (k + 1)).elapsed.nanos := by
    intro k pending
    match k with
    | 0 => decide
    | 1 => decide
    | k + 2 => exact absurd (pending 2 (Nat.le_add_left 2 k)) (by decide)
  obtain ⟨-, returned, interrupted⟩ := wait_bounded soon 0 3 timeout advances
  have ended : ((untilEnd 3 timeout).run soon 0).1 = some (.exited 0) := by
    refine returned 2 (.exited 0) (fun j less => ?_) rfl
    match j with
    | 0 => decide
    | 1 => decide
  refine ⟨rfl, rfl, ended, ?_⟩
  rw [(interrupted 0 rfl).1, ended]
  rfl

end Session

end SyscallProfiler
