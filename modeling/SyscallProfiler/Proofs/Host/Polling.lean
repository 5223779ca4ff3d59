import Mathlib.Algebra.Order.Floor.Div
import SyscallProfiler.Proofs.Host.Watch

/-!
# Polls

A loop that polls asks for the same things in every round, until one round decides. What a round
would see is settled by the host and by the rounds before it, so all polls can be spoken of, also
those that the loop does not come to. The loop ends at the first poll that decides. If every pause
between two polls lasts as long as it should, by the clock, there is such a poll, and it comes
before the fuel of the loop is used up.
-/

namespace SyscallProfiler

variable {σ : Type}

/-- The state in which a host is left by requests that are made one after the other. -/
def Host.after (host : Host σ) (requests : List Request) (s : σ) : σ :=
  requests.foldl (fun s r => (host s r).2) s

namespace Watch

/-! ## How long a loop polls -/

theorem looks_eq (span : Duration) : looks span = span.nanos ⌈/⌉ interval.nanos + 1 := rfl

/-- If every pause after a poll that decides nothing takes an interval, and polls decide when a span
is over, then some poll decides, and no more polls come before it than intervals begin in the
span. -/
theorem exists_first_decision {pending : Nat → Prop} {now : Nat → Nat} {start : Nat}
    {span : Duration} (onward : start ≤ now 0)
    (inTime : ∀ k, pending k → now k < start + span.nanos)
    (advances : ∀ k, (∀ j ≤ k, pending j) → now k + interval.nanos ≤ now (k + 1)) :
    ∃ k ≤ span.nanos ⌈/⌉ interval.nanos, (∀ j < k, pending j) ∧ ¬pending k := by
  classical
  have grows (k : Nat) (before : ∀ j < k, pending j) : start + interval.nanos * k ≤ now k := by
    induction k with
    | zero => exact onward
    | succ k ih =>
        have passed : start + interval.nanos * k ≤ now k := ih fun j less => before j (by omega)
        have pause : now k + interval.nanos ≤ now (k + 1) :=
          advances k fun j le => before j (by omega)
        calc start + interval.nanos * (k + 1)
          _ = start + interval.nanos * k + interval.nanos := by rw [Nat.mul_succ, Nat.add_assoc]
          _ ≤ now k + interval.nanos := Nat.add_le_add_right passed _
          _ ≤ now (k + 1) := pause
  have decided : ∃ k ≤ span.nanos ⌈/⌉ interval.nanos, ¬pending k := by
    by_contra never
    have always : ∀ k ≤ span.nanos ⌈/⌉ interval.nanos, pending k := by
      intro k le
      by_contra decides
      exact never ⟨k, le, decides⟩
    have enough : span.nanos ≤ interval.nanos * (span.nanos ⌈/⌉ interval.nanos) :=
      (ceilDiv_le_iff_le_mul (by decide)).mp le_rfl
    have expired := grows _ fun j less => always j less.le
    have still := inTime _ (always _ le_rfl)
    omega
  obtain ⟨k, le, decides⟩ := decided
  have some_decides : ∃ k, ¬pending k := ⟨k, decides⟩
  refine ⟨Nat.find some_decides, (Nat.find_min' some_decides decides).trans le, ?_,
    Nat.find_spec some_decides⟩
  intro j less
  exact not_not.mp (Nat.find_min some_decides less)

/-! ## Loops that poll -/

section Loop

variable {α : Type} {host : Host σ} {process : Nat} {round : List Request} {Pending : σ → Prop}
variable {Decides : σ → α → Prop} {loop : Nat → Program α} {s : σ}

/-- What the looks of some rounds see of a process. -/
def sights (host : Host σ) (process : Nat) (round : List Request) (s : σ) (n : Nat) : List Sight :=
  (List.range n).map fun k => (host ((host.after round)^[k] s) (.look process)).1

theorem sights_succ (host : Host σ) (process : Nat) (round : List Request) (s : σ) (n : Nat) :
    sights host process round s (n + 1) =
      (host s (.look process)).1 :: sights host process round (host.after round s) n := by
  rw [sights, List.range_succ_eq_map, List.map_cons, List.map_map]
  rfl

/-- A loop on fuel polls: every round takes one look at a process. From a state in which the poll
is pending the loop goes on with less fuel, and in any other state the poll decides how it ends.
How a round goes does not depend on how much fuel there is. -/
structure Polls (host : Host σ) (process : Nat) (round : List Request) (Pending : σ → Prop)
    (Decides : σ → α → Prop) (loop : Nat → Program α) : Prop where
  again : ∀ s, Pending s → ∃ log,
    course log = sightings process [(host s (.look process)).1] ∧
    ∀ fuel, (loop (fuel + 1)).run host s = (loop fuel).run host (host.after round s) ∧
      (loop (fuel + 1)).log host s = log ++ (loop fuel).log host (host.after round s)
  ends : ∀ s, ¬Pending s → ∃ answer final log, Decides s answer ∧
    course log = sightings process [(host s (.look process)).1] ∧
    ∀ fuel, (loop (fuel + 1)).run host s = (answer, final) ∧ (loop (fuel + 1)).log host s = log

/-- A loop with fuel for it comes to the first poll that decides and ends there, and more fuel
changes nothing. The induction is on the polls before that one. -/
theorem Polls.of_first (polls : Polls host process round Pending Decides loop) {k : Nat}
    (pending : ∀ j < k, Pending ((host.after round)^[j] s))
    (decides : ¬Pending ((host.after round)^[k] s)) :
    ∃ answer final log, Decides ((host.after round)^[k] s) answer ∧
      course log = sightings process (sights host process round s (k + 1)) ∧
      ∀ fuel, k < fuel →
        (loop fuel).run host s = (answer, final) ∧ (loop fuel).log host s = log := by
  induction k generalizing s with
  | zero =>
      obtain ⟨answer, final, log, decided, look, same⟩ := polls.ends s decides
      refine ⟨answer, final, log, decided, look, fun fuel enough => ?_⟩
      obtain ⟨fuel, rfl⟩ := Nat.exists_eq_succ_of_ne_zero (Nat.ne_zero_of_lt enough)
      exact same fuel
  | succ k ih =>
      obtain ⟨before, look, goesOn⟩ := polls.again s (pending 0 (Nat.succ_pos k))
      have later : ∀ j < k, Pending ((host.after round)^[j] (host.after round s)) :=
        fun j less => pending (j + 1) (Nat.succ_lt_succ less)
      obtain ⟨answer, final, log, decided, looks, reaches⟩ := ih later decides
      refine ⟨answer, final, before ++ log, decided, ?_, fun fuel enough => ?_⟩
      · rw [course_append, look, looks, sights_succ host process round s, sightings, sightings,
          sightings, ← List.map_append, List.singleton_append]
      · obtain ⟨fuel, rfl⟩ := Nat.exists_eq_succ_of_ne_zero (Nat.ne_zero_of_lt enough)
        obtain ⟨run, rest⟩ := goesOn fuel
        obtain ⟨result, rfl⟩ := reaches fuel (Nat.lt_of_succ_lt_succ enough)
        exact ⟨run.trans result, rest⟩

/-- A loop with a clock for its polls ends at a poll that decides, at the latest when its span is
over. -/
theorem Polls.bounded (polls : Polls host process round Pending Decides loop)
    {now : Nat → Nat} {start : Nat} {span : Duration} (onward : start ≤ now 0)
    (inTime : ∀ k, Pending ((host.after round)^[k] s) → now k < start + span.nanos)
    (advances : ∀ k, (∀ j ≤ k, Pending ((host.after round)^[j] s)) →
      now k + interval.nanos ≤ now (k + 1)) :
    ∃ last ≤ span.nanos ⌈/⌉ interval.nanos,
      (∀ k < last, Pending ((host.after round)^[k] s)) ∧ ¬Pending ((host.after round)^[last] s) ∧
      Decides ((host.after round)^[last] s) ((loop (looks span)).run host s).1 ∧
      course ((loop (looks span)).log host s) =
        sightings process (sights host process round s (last + 1)) ∧
      ∀ fuel > last, (loop fuel).run host s = (loop (looks span)).run host s ∧
        (loop fuel).log host s = (loop (looks span)).log host s := by
  obtain ⟨last, bound, pending, decides⟩ := exists_first_decision onward inTime advances
  obtain ⟨answer, final, log, decided, course_eq, same⟩ := polls.of_first pending decides
  have enough : last < looks span := by
    rw [looks_eq]
    exact Nat.lt_succ_of_le bound
  obtain ⟨run, rfl⟩ := same _ enough
  refine ⟨last, bound, pending, decides, ?_, course_eq, fun fuel more => ?_⟩
  · rw [run]
    exact decided
  · rw [run]
    exact same fuel more

/-- A wait that begins when the clock has been read ends with its loop. -/
theorem Polls.bounded_of_clock {wait : Program α} {loop : Duration → Nat → Program α}
    {now : Nat → Nat} {start : Nat} {span : Duration}
    (begins : wait = (Program.request .clock).bind fun start => loop start (looks span))
    (polls : Polls host process round Pending Decides (loop (host s .clock).1))
    (onward : start ≤ now 0)
    (inTime : ∀ k, Pending ((host.after round)^[k] (host s .clock).2) →
      now k < start + span.nanos)
    (advances : ∀ k, (∀ j ≤ k, Pending ((host.after round)^[j] (host s .clock).2)) →
      now k + interval.nanos ≤ now (k + 1)) :
    ∃ last ≤ span.nanos ⌈/⌉ interval.nanos,
      (∀ k < last, Pending ((host.after round)^[k] (host s .clock).2)) ∧
      ¬Pending ((host.after round)^[last] (host s .clock).2) ∧
      Decides ((host.after round)^[last] (host s .clock).2) (wait.run host s).1 ∧
      course (wait.log host s) =
        sightings process (sights host process round (host s .clock).2 (last + 1)) ∧
      ∀ fuel > last,
        (loop (host s .clock).1 fuel).run host (host s .clock).2 = wait.run host s ∧
          ⟨.clock, (host s .clock).1⟩ ::
              (loop (host s .clock).1 fuel).log host (host s .clock).2 = wait.log host s := by
  obtain ⟨last, bound, pending, decides, decided, looks, same⟩ :=
    polls.bounded onward inTime advances
  rw [begins, Program.run_request_bind, Program.log_request_bind, course_cons_of_aside rfl]
  refine ⟨last, bound, pending, decides, decided, looks, fun fuel enough => ?_⟩
  obtain ⟨run, log⟩ := same fuel enough
  exact ⟨run, congrArg _ log⟩

end Loop

/-! ## Waiting for a process -/

/-- What is asked for in a round that decides nothing. -/
def round (process : Nat) : List Request := [.look process, .clock, .sleep interval]

/-- What a poll sees of a process, and how much time has passed since the wait began. -/
structure Poll where
  sight : Sight
  elapsed : Duration

namespace Poll

/-- The poll decides nothing: the process is running, and there is time left. -/
def Pending (timeout : Duration) (p : Poll) : Prop :=
  p.sight = .running ∧ p.elapsed.nanos < timeout.nanos

instance (timeout : Duration) (p : Poll) : Decidable (p.Pending timeout) :=
  inferInstanceAs (Decidable (p.sight = .running ∧ p.elapsed.nanos < timeout.nanos))

/-- How the process ended, if that is what the poll sees. -/
def status? (p : Poll) : Option ExitStatus :=
  match p.sight with
  | .ended status => some status
  | _ => none

theorem status?_eq_some_iff {p : Poll} {status : ExitStatus} :
    p.status? = some status ↔ p.sight = .ended status := by
  obtain ⟨sight, elapsed⟩ := p
  cases sight with
  | ended seen => exact ⟨fun same => congrArg _ (Option.some.inj same),
      fun same => congrArg some (Sight.ended.inj same)⟩
  | running => exact ⟨nofun, nofun⟩
  | unknown reason => exact ⟨nofun, nofun⟩

end Poll

section Wait

variable {host : Host σ} {process : Nat} {start timeout : Duration} {s : σ}

/-- The poll of a host in some state, in a wait that began at `start`. -/
def pollAt (host : Host σ) (process : Nat) (start : Duration) (s : σ) : Poll where
  sight := (host s (.look process)).1
  elapsed := ⟨(host (host.after [.look process] s) .clock).1.nanos - start.nanos⟩

/-- A round of the wait looks at the process first and at the clock only if it is running. -/
theorem polls_lookUntil (host : Host σ) (process : Nat) (start timeout : Duration) :
    Polls host process (round process) (fun s => (pollAt host process start s).Pending timeout)
      (fun s status => status = (pollAt host process start s).status?)
      (lookUntil process start timeout) where
  again s pending := by
    obtain ⟨running, inTime⟩ := pending
    change (host s (.look process)).1 = .running at running
    have left : ¬(host (host s (.look process)).2 .clock).1.nanos - start.nanos ≥ timeout.nanos :=
      Nat.not_le.mpr inTime
    refine ⟨[⟨.look process, .running⟩, ⟨.clock, (host (host s (.look process)).2 .clock).1⟩,
      ⟨.sleep interval, ()⟩], by rw [running]; rfl, fun fuel => ?_⟩
    rw [lookUntil]
    simp only [Program.request, Program.bind_eq, Program.ask_bind, Program.done_bind,
      Program.pure_eq, Program.run_ask, Program.log_ask, running, if_neg left]
    exact ⟨rfl, rfl⟩
  ends s decides := by
    simp only [lookUntil, Program.request, Program.bind_eq, Program.ask_bind, Program.done_bind,
      Program.pure_eq, Program.run_ask, Program.log_ask, Poll.status?, pollAt]
    cases seen : (host s (.look process)).1 with
    | ended status =>
        exact ⟨_, _, [⟨.look process, .ended status⟩], rfl, rfl, fun fuel => ⟨rfl, rfl⟩⟩
    | unknown reason =>
        exact ⟨_, _, [⟨.look process, .unknown reason⟩], rfl, rfl, fun fuel => ⟨rfl, rfl⟩⟩
    | running =>
        have expired : (host (host s (.look process)).2 .clock).1.nanos - start.nanos ≥
            timeout.nanos := by
          by_contra left
          exact decides ⟨seen, Nat.not_le.mp left⟩
        simp only [Program.run_ask, Program.log_ask, if_pos expired]
        exact ⟨_, _, _, rfl, rfl, fun fuel => ⟨rfl, rfl⟩⟩

/-- The polls of a wait that begins in some state. -/
def polls (host : Host σ) (process : Nat) (s : σ) (k : Nat) : Poll :=
  pollAt host process (host s .clock).1 ((host.after (round process))^[k] (host s .clock).2)

end Wait

end Watch

end SyscallProfiler
