import SyscallProfiler.Host.Watch
import SyscallProfiler.Proofs.Host.Course

/-!
# The course of watching a process

A process that is waited for is looked at until one look decides. How it was seen to end,
if it was, is all that is left of the wait; a process whose end was not seen is killed
with its group and waited for.
-/

namespace SyscallProfiler.Watch

/-- What is seen of a process by looking until one look decides, and how the process
ended, if that was seen. -/
inductive Seen : List Sight → Option ExitStatus → Prop where
  | ended (status : ExitStatus) : Seen [.ended status] (some status)
  /-- The host cannot tell. -/
  | unknown (reason : String) : Seen [.unknown reason] none
  /-- The process was still running when no time was left, or when it could be left to run. -/
  | running : Seen [.running] none
  | again {sights : List Sight} {status : Option ExitStatus} (rest : Seen sights status) :
      Seen (.running :: sights) status

/-- The looks at a process. -/
def sightings (process : Nat) (sights : List Sight) : List Exchange :=
  sights.map fun sight => ⟨.look process, sight⟩

/-- How a process is killed with its group. -/
def destruction (process : Nat) : List Exchange :=
  [⟨.killGroup process, ()⟩, ⟨.kill process, ()⟩, ⟨.reap process, ()⟩]

/-- How a process is got rid of: it is killed unless its end was seen. -/
def parting (process : Nat) (sights : List Sight) (status : Option ExitStatus) : List Exchange :=
  sightings process sights ++ if status.isNone then destruction process else []

section Pieces

variable {β : Type} {f : Exchange → Option β}

@[simp] theorem filterMap_sightings {process : Nat}
    (looks : ∀ sight, f ⟨.look process, sight⟩ = none) (sights : List Sight) :
    (sightings process sights).filterMap f = [] := by
  rw [sightings, List.filterMap_map, List.filterMap_eq_nil_iff]
  exact fun sight _ => looks sight

@[simp] theorem filterMap_parting {process : Nat}
    (looks : ∀ sight, f ⟨.look process, sight⟩ = none)
    (kills : (destruction process).filterMap f = []) (sights : List Sight)
    (status : Option ExitStatus) : (parting process sights status).filterMap f = [] := by
  rw [parting, List.filterMap_append, filterMap_sightings looks, List.nil_append]
  split
  · exact kills
  · rfl

end Pieces

theorem looks_ne_zero (span : Duration) : looks span ≠ 0 := Nat.succ_ne_zero _

/-- The last look decides; if there is no fuel for a look, nothing is done at all. -/
theorem takes_lookUntil (process : Nat) (start timeout : Duration) (fuel : Nat) :
    (lookUntil process start timeout fuel).Takes fun status c =>
      (fuel = 0 ∧ status = none ∧ c = []) ∨
        ∃ sights, Seen sights status ∧ c = sightings process sights := by
  induction fuel with
  | zero => exact .done (Or.inl ⟨rfl, rfl, rfl⟩)
  | succ fuel ih =>
      refine .request rfl fun sight => ?_
      cases sight with
      | ended status => exact .done (Or.inr ⟨_, .ended status, rfl⟩)
      | unknown reason => exact .done (Or.inr ⟨_, .unknown reason, rfl⟩)
      | running =>
          refine .aside rfl fun now => ?_
          split
          · exact .done (Or.inr ⟨_, .running, rfl⟩)
          · refine .aside rfl fun _ => ih.mono ?_
            rintro status c (⟨-, rfl, rfl⟩ | ⟨sights, seen, rfl⟩)
            · exact Or.inr ⟨_, .running, rfl⟩
            · exact Or.inr ⟨_, .again seen, rfl⟩

/-- At least one look is taken at a process that is waited for. -/
theorem takes_untilEnd (process : Nat) (timeout : Duration) :
    (untilEnd process timeout).Takes fun status c =>
      ∃ sights, Seen sights status ∧ c = sightings process sights := by
  refine .aside rfl fun start => (takes_lookUntil process start timeout _).mono ?_
  rintro status c (⟨nothing, -, -⟩ | watched)
  · exact absurd nothing (looks_ne_zero timeout)
  · exact watched

theorem takes_destroy (process : Nat) :
    (destroy process).Takes fun _ c => c = destruction process :=
  .request rfl fun _ => .request rfl fun _ => .request rfl fun _ => .done rfl

end SyscallProfiler.Watch
