import SyscallProfiler.Proofs.Host.Watch

/-!
# Custody of processes and of the permission to trace

A program that starts a process has charge of it until its end was seen, or until it was
killed with its group and waited for. The custody after a log is read off the log alone, one
exchange after the other, so it says what a program owes whatever the host did. A log is
orderly if nothing is started while there is a charge, nothing is killed that is not a
charge, and the permission to trace is taken back once for each time it is given.
-/

namespace SyscallProfiler

/-- A process that a program has charge of, and what was killed of it. -/
structure Charge where
  process : Nat
  groupKilled : Bool
  killed : Bool
deriving DecidableEq, Repr

namespace Charge

/-- The charge of a process that was just started. -/
def fresh (process : Nat) : Charge := ⟨process, false, false⟩

/-- What an exchange makes of a charge. It is over once the end of the process was seen.
Waiting for a process ends the charge of it only if the process was killed with its group:
it might not end otherwise. -/
def after (charge : Charge) : Exchange → Option Charge
  | ⟨.look process, .ended _⟩ => if process = charge.process then none else some charge
  | ⟨.killGroup process, _⟩ =>
      some { charge with groupKilled := charge.groupKilled || process == charge.process }
  | ⟨.kill process, _⟩ =>
      some { charge with killed := charge.killed || process == charge.process }
  | ⟨.reap process, _⟩ =>
      if process = charge.process ∧ charge.groupKilled ∧ charge.killed then none else some charge
  | _ => some charge

end Charge

/-- What a program has to see to before it may end. -/
structure Custody where
  charges : List Charge
  /-- Whether other processes may trace the running program. -/
  granted : Bool
deriving DecidableEq, Repr

namespace Custody

/-- Nothing is left to be seen to. -/
def free : Custody := ⟨[], false⟩

/-- The charge of one process. -/
def of (process : Nat) (granted : Bool) : Custody := ⟨[.fresh process], granted⟩

/-- The permission to trace after an exchange. -/
def grantedAfter (granted : Bool) : Exchange → Bool
  | ⟨.grantTracing, given⟩ => granted || given
  | ⟨.revokeTracing, _⟩ => false
  | _ => granted

/-- The custody after an exchange. -/
def after (custody : Custody) (e : Exchange) : Custody where
  charges := custody.charges.filterMap (·.after e) ++ (e.started?.map Charge.fresh).toList
  granted := grantedAfter custody.granted e

/-- The custody after a log. -/
def along (custody : Custody) (log : List Exchange) : Custody := log.foldl after custody

/-- Whether a request is in order. A stage of a run is entered with nothing left to be seen
to, so no charge and no permission outlasts the pass before. -/
def Admits (custody : Custody) : Request → Prop
  | .start _ => custody.charges = []
  | .killGroup process | .kill process => ∃ charge ∈ custody.charges, charge.process = process
  | .reap process => ⟨process, true, true⟩ ∈ custody.charges
  | .grantTracing => custody.granted = false
  | .revokeTracing => custody.granted = true
  | .note (.stage _) => custody = free
  | _ => True

/-- A log each of whose requests is in order leads from one custody to another. -/
inductive Leads : Custody → List Exchange → Custody → Prop where
  | nil (custody : Custody) : Leads custody [] custody
  | cons {custody custody' : Custody} {e : Exchange} {log : List Exchange}
      (admitted : custody.Admits e.request) (rest : Leads (custody.after e) log custody') :
      Leads custody (e :: log) custody'

section Leads

variable {custody mid custody' : Custody} {e : Exchange} {log more : List Exchange}

theorem Leads.single (admitted : custody.Admits e.request) : Leads custody [e] (custody.after e) :=
  .cons admitted (.nil _)

theorem Leads.append (first : Leads custody log mid) (second : Leads mid more custody') :
    Leads custody (log ++ more) custody' := by
  induction first with
  | nil custody => exact second
  | cons admitted _ ih => exact .cons admitted (ih second)

/-- An exchange that custody has nothing to do with. -/
theorem Leads.pass (admitted : custody.Admits e.request) (idle : custody.after e = custody)
    (rest : Leads custody log custody') : Leads custody (e :: log) custody' :=
  .cons admitted (idle.symm ▸ rest)

theorem Leads.along_eq (h : Leads custody log custody') : custody.along log = custody' := by
  induction h with
  | nil custody => rfl
  | cons _ _ ih => exact ih

/-- Each request of an orderly log was in order when it was made. -/
theorem Leads.admits {before after : List Exchange}
    (h : Leads custody log custody') (split : log = before ++ e :: after) :
    (custody.along before).Admits e.request := by
  induction h generalizing before with
  | nil custody => cases before <;> cases split
  | cons admitted _ ih =>
      cases before with
      | nil =>
          cases split
          exact admitted
      | cons first before =>
          cases split
          exact ih rfl

/-- Starting is admitted only when there is no charge, so there never are two. -/
theorem length_charges_after_le (admitted : custody.Admits e.request)
    (one : custody.charges.length ≤ 1) : (custody.after e).charges.length ≤ 1 := by
  rw [after, List.length_append]
  cases h : e.started? with
  | none =>
      have kept := List.length_filterMap_le (·.after e) custody.charges
      simp only [Option.map_none, Option.toList_none, List.length_nil]
      omega
  | some process =>
      have none_left : custody.charges = [] := by
        obtain ⟨r, a⟩ := e
        cases r with
        | start command => exact admitted
        | _ => cases h
      rw [none_left]
      exact Nat.le_refl 1

theorem Leads.length_charges_le {before : List Exchange} (h : Leads custody log custody')
    (one : custody.charges.length ≤ 1) (initial : before <+: log) :
    (custody.along before).charges.length ≤ 1 := by
  induction h generalizing before with
  | nil custody =>
      rw [List.prefix_nil.mp initial]
      exact one
  | cons admitted _ ih =>
      cases before with
      | nil => exact one
      | cons first before =>
          obtain ⟨rfl, further⟩ := List.cons_prefix_cons.mp initial
          exact ih (length_charges_after_le admitted one) further

end Leads

/-! ## Asides -/

theorem admits_of_isAside {r : Request} (h : r.isAside = true) (custody : Custody) :
    custody.Admits r := by
  cases r <;> trivial

theorem after_of_isAside (custody : Custody) {e : Exchange} (h : e.request.isAside = true) :
    custody.after e = custody := by
  obtain ⟨r, a⟩ := e
  have charges : ∀ charge : Charge, charge.after ⟨r, a⟩ = some charge := by
    intro charge
    cases r <;> first | rfl | cases h
  have granted : grantedAfter custody.granted ⟨r, a⟩ = custody.granted := by
    cases r <;> first | rfl | cases h
  rw [after, granted, Exchange.started?_of_isAside _ h]
  simp [charges]

/-- Whether a log is orderly, and what it leads to, shows in its course. -/
theorem leads_course {custody custody' : Custody} {log : List Exchange} :
    Leads custody (course log) custody' ↔ Leads custody log custody' := by
  induction log generalizing custody with
  | nil => rfl
  | cons e log ih =>
      cases aside : e.request.isAside with
      | true =>
          have idle := after_of_isAside custody aside
          rw [course_cons_of_aside aside, ih]
          constructor
          · exact .pass (admits_of_isAside aside custody) idle
          · rintro (_ | ⟨-, rest⟩)
            exact idle ▸ rest
      | false =>
          rw [course_cons aside]
          constructor
          · rintro (_ | ⟨admitted, rest⟩)
            exact .cons admitted (ih.mp rest)
          · rintro (_ | ⟨admitted, rest⟩)
            exact .cons admitted (ih.mpr rest)

/-! ## Processes that are watched -/

section Watch

open Watch

variable (process : Nat) (granted : Bool)

theorem leads_start {command : Command} {log : List Exchange} {custody' : Custody}
    (rest : Leads (of process granted) log custody') :
    Leads ⟨[], granted⟩ (⟨.start command, .ok process⟩ :: log) custody' :=
  .cons rfl rest

theorem leads_look_of_ne {sight : Sight} (unseen : ∀ status, sight ≠ .ended status) :
    Leads (of process granted) [⟨.look process, sight⟩] (of process granted) := by
  cases sight with
  | ended status => exact absurd rfl (unseen status)
  | running => exact .single trivial
  | unknown reason => exact .single trivial

theorem leads_look_ended (status : ExitStatus) :
    Leads (of process granted) [⟨.look process, .ended status⟩] ⟨[], granted⟩ := by
  have gone : (of process granted).after ⟨.look process, .ended status⟩ = ⟨[], granted⟩ := by
    simp [after, of, Charge.after, Charge.fresh, grantedAfter]
  exact gone ▸ .single trivial

/-- A process is a charge until its end was seen. -/
theorem leads_sightings {sights : List Sight} {status : Option ExitStatus}
    (seen : Seen sights status) :
    Leads (of process granted) (sightings process sights)
      (if status.isNone then of process granted else ⟨[], granted⟩) := by
  induction seen with
  | ended status => exact leads_look_ended process granted status
  | unknown reason => exact leads_look_of_ne process granted (by simp)
  | running => exact leads_look_of_ne process granted (by simp)
  | again rest ih => exact (leads_look_of_ne process granted (by simp)).append ih

theorem leads_destruction :
    Leads (of process granted) (destruction process) ⟨[], granted⟩ := by
  have groupKilled : (of process granted).after ⟨.killGroup process, ()⟩ =
      ⟨[⟨process, true, false⟩], granted⟩ := by
    simp [after, of, Charge.after, Charge.fresh, grantedAfter]
  have killed : (⟨[⟨process, true, false⟩], granted⟩ : Custody).after ⟨.kill process, ()⟩ =
      ⟨[⟨process, true, true⟩], granted⟩ := by
    simp [after, Charge.after, grantedAfter]
  have reaped : (⟨[⟨process, true, true⟩], granted⟩ : Custody).after ⟨.reap process, ()⟩ =
      ⟨[], granted⟩ := by
    simp [after, Charge.after, grantedAfter]
  refine .cons ⟨_, List.mem_singleton_self _, rfl⟩ ?_
  rw [groupKilled]
  refine .cons ⟨_, List.mem_singleton_self _, rfl⟩ ?_
  rw [killed]
  refine .cons (List.mem_singleton_self _) ?_
  rw [reaped]
  exact .nil _

/-- Parting with a process ends the charge of it whatever was seen. -/
theorem leads_parting {sights : List Sight} {status : Option ExitStatus}
    (seen : Seen sights status) :
    Leads (of process granted) (parting process sights status) ⟨[], granted⟩ := by
  refine (leads_sightings process granted seen).append ?_
  cases status with
  | none => exact leads_destruction process granted
  | some status => exact .nil _

end Watch

end Custody

end SyscallProfiler
