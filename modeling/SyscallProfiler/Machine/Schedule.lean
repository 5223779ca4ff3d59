import SyscallProfiler.Machine.Tools

/-!
# Time goes on

One process takes a step at a time, and each step takes a little time. Among the processes that are
awake, the one that has waited longest is asked first. When nobody can take a step, time goes on to
the moment at which the next process wakes.

Each turn makes the clock go on, so the way to a given time ends.
-/

namespace SyscallProfiler.Machine

def stepNanos : Nat := 1000

/-- One step of a process; nothing if it has to wait. -/
def step (m : Machine) (p : Process) : Option Machine :=
  match p.image with
  | .tool name called args environment => some (m.beginTool p name called args environment)
  | .shell s => m.stepShell p s
  | .filter f => m.stepFilter p f
  | .watcher w => m.stepWatcher p w
  | .resting => some (m.finish p.pid (.exited 0))

def living (m : Machine) : List Process := m.processes.filter fun p => p.ended.isNone

/-- The living processes that are awake, the one that has waited longest first. -/
def awake (m : Machine) : List Process :=
  (m.living.filter fun p => p.wakeAt ≤ m.now && !p.stopped).mergeSort fun p q => p.wakeAt ≤ q.wakeAt

/-- Lets time go by after a step; the process goes to the end of the queue. -/
def afterStep (m : Machine) (start : Nat) (pid : Nat) : Machine :=
  { m.update pid fun p => { p with wakeAt := max p.wakeAt (start + stepNanos) } with
    now := start + stepNanos }

/-- The machine after the first of some processes that can take a step has taken it. -/
def stepFirst (m : Machine) : List Process → Option Machine
  | [] => none
  | p :: rest =>
    match m.step p with
    | some next => some (next.afterStep m.now p.pid)
    | none => m.stepFirst rest

/-- The times at which something happens to a process by itself. -/
def alarms (p : Process) : List Nat :=
  match p.image with
  | .watcher (.limit l) => p.wakeAt :: l.deadline.toList
  | _ => [p.wakeAt]

/-- The next time at which something happens by itself, but not later than `limit`. -/
def nextWake (m : Machine) (limit : Nat) : Nat :=
  ((m.living.flatMap alarms).filter (· > m.now)).foldl min limit

/-- One step of the machine on its way to `limit`. -/
def turn (m : Machine) (limit : Nat) : Machine :=
  match m.stepFirst m.awake with
  | some next => next
  | none => { m with now := m.nextWake limit }

/-! ## The clock goes on -/

theorem stepFirst_now {m next : Machine} {ps : List Process} (h : m.stepFirst ps = some next) :
    next.now = m.now + stepNanos := by
  induction ps with
  | nil => simp [stepFirst] at h
  | cons p rest ih =>
    unfold stepFirst at h
    split at h
    · cases h
      rfl
    · exact ih h

theorem foldl_min_gt {times : List Nat} {now limit : Nat} (hl : now < limit)
    (h : ∀ t ∈ times, now < t) : now < times.foldl min limit := by
  induction times generalizing limit with
  | nil => exact hl
  | cons t rest ih =>
    refine ih ?_ fun q hq => h q (List.mem_cons_of_mem t hq)
    exact Nat.lt_min.2 ⟨hl, h t List.mem_cons_self⟩

/-- Every turn takes time. -/
theorem now_lt_turn {m : Machine} {limit : Nat} (h : m.now < limit) :
    m.now < (m.turn limit).now := by
  unfold turn
  split
  case h_1 next hnext =>
    have := stepFirst_now hnext
    simp [stepNanos] at this
    omega
  case h_2 =>
    refine foldl_min_gt h fun t ht => ?_
    simpa using (List.mem_filter.1 ht).2

/-! ## Working -/

/-- Lets the machine work until something holds or the time is `limit`. -/
def workUntil (m : Machine) (holds : Machine → Bool) (limit : Nat) : Machine :=
  if m.now ≥ limit then m
  else if holds m then m
  else (m.turn limit).workUntil holds limit
termination_by limit - m.now
decreasing_by
  have := @now_lt_turn m limit (by omega)
  omega

def workTo (m : Machine) (limit : Nat) : Machine := m.workUntil (fun _ => false) limit

end SyscallProfiler.Machine
