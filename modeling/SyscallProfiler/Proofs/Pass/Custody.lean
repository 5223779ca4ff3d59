import SyscallProfiler.Proofs.Host.Custody
import SyscallProfiler.Proofs.Pass.Course

/-!
# What passes see to

A pass of either kind starts with nothing to see to and ends so, in whatever way it goes.
Between its parts an attached pass has charge of the collector of its session, and of the
permission to trace if it was given.
-/

namespace SyscallProfiler

open Custody Watch Session

/-- What becomes of the permission to trace. -/
inductive Permission where
  | given
  | revoked
deriving DecidableEq, Repr

/-- What an exchange does about the permission to trace. -/
@[simp] def Exchange.permission? : Exchange → Option Permission
  | ⟨.grantTracing, true⟩ => some .given
  | ⟨.revokeTracing, _⟩ => some .revoked
  | _ => none

/-- What was done about the permission to trace, in order. -/
def permissions (log : List Exchange) : List Permission := log.filterMap (·.permission?)

theorem permissions_course (log : List Exchange) : permissions (course log) = permissions log := by
  refine filterMap_course (fun e h => ?_) log
  obtain ⟨r, a⟩ := e
  cases r <;> first | rfl | cases h

namespace Session

variable {settings : Settings} {pid : Nat} {granularity : Granularity} {artifact : String}

theorem leads_asking (asked : Option Bool) :
    Leads free (asking asked) ⟨[], asked.getD false⟩ := by
  cases asked with
  | none => exact .nil _
  | some granted => exact .single rfl

theorem leads_revocation (granted : Bool) : Leads ⟨[], granted⟩ (revocation granted) free := by
  cases granted with
  | false => exact .nil _
  | true => exact .single rfl

/-- Closing a session takes the permission back that was given for it. -/
theorem leads_closing (artifact : String) (touched : Except OsError Unit) (granted : Bool) :
    Leads ⟨[], granted⟩ (closing artifact touched granted) free :=
  .pass trivial rfl ((leads_revocation granted).append (.single trivial))

/-- What has to be seen to once a session was asked for. -/
def inCustody : Except Failure Session → Custody
  | .ok session => ⟨session.process.toList.map .fresh, session.granted⟩
  | .error _ => free

theorem Attaching.leads {asked : Except Failure Session} {c : List Exchange}
    (h : Attaching settings pid granularity artifact asked c) :
    Leads free c (inCustody asked) := by
  cases h with
  | refused permission e =>
      exact (leads_asking permission).append
        (.pass rfl rfl (leads_revocation (permission.getD false)))
  | unready permission process sights e touched seen =>
      refine (leads_asking permission).append ?_
      refine leads_start process _ (.pass trivial rfl ?_)
      exact (leads_parting process _ seen).append (leads_closing artifact touched _)
  | active permission process sights opened seen =>
      refine (leads_asking permission).append ?_
      refine leads_start process _ (.pass trivial rfl ?_)
      refine (leads_sightings process _ seen).append ?_
      exact .pass trivial rfl (.single trivial)

/-- What is done about the permission that a session asks for. -/
theorem permissions_asking_append (asked : Option Bool) :
    permissions (asking asked) ++ permissions (revocation (asked.getD false)) =
      if asked.getD false then [.given, .revoked] else [] := by
  cases asked with
  | none => rfl
  | some granted => cases granted <;> rfl

end Session

namespace Pass

variable {settings : Settings} {unit : Workload} {input : Payload}

section Attached

variable {granularity : Granularity} {asked : Except Failure Session} {r : PassResult}
variable {c : List Exchange}

theorem AttachedCourse.leads (h : AttachedCourse settings unit input granularity asked r c) :
    Leads free c free := by
  cases h with
  | unattached pid e before left attaching =>
      exact attaching.leads.append (.single trivial)
  | stopped pid session process window before loaded closed sent sights status touched attaching
      observing seen =>
      have leads := attaching.leads
      rw [inCustody, observing.process_eq] at leads
      refine leads.append ?_
      refine .pass trivial rfl (.pass trivial rfl (.pass trivial rfl (.pass trivial rfl ?_)))
      exact (leads_parting process session.granted seen).append (leads_closing _ _ _)

/-- A permission that is given for a pass is taken back once, also if there comes no session
of it. -/
theorem AttachedCourse.permissions_eq
    (h : AttachedCourse settings unit input granularity asked r c) :
    ∃ given : Bool, permissions c = if given then [.given, .revoked] else [] := by
  cases h with
  | unattached pid e before left attaching =>
      cases attaching with
      | refused permission e =>
          refine ⟨permission.getD false, ?_⟩
          rw [← permissions_asking_append]
          simp [permissions]
      | unready permission process sights e touched seen =>
          refine ⟨permission.getD false, ?_⟩
          rw [← permissions_asking_append]
          simp [permissions, destruction, closing]
  | stopped pid session process window before loaded closed sent sights status touched attaching
      observing seen =>
      cases attaching with
      | active permission _ watched opened seen =>
          obtain ⟨⟨⟩, ⟨⟩⟩ := observing
          refine ⟨permission.getD false, ?_⟩
          rw [← permissions_asking_append]
          simp [permissions, destruction, closing]

end Attached

/-- The induction is on the runs that are left. Each of them starts with nothing to see to. -/
theorem SpawnJob.RunsCourse.leads {job : SpawnJob} {artifacts : List String}
    {first : Option RunOutput} {left : List Granularity} {result : Except Failure PassResult}
    {c : List Exchange} (h : job.RunsCourse artifacts first left result c) :
    Leads free c free := by
  induction h with
  | finished artifacts first closed => exact .single trivial
  | refused artifacts first granularity rest e => exact .single rfl
  | expired artifacts first granularity rest process sights left closed seen =>
      refine leads_start process false ?_
      exact (leads_parting process false seen).append (.pass trivial rfl (.single trivial))
  | unlisted artifacts first granularity rest process sights status e seen =>
      refine leads_start process false ?_
      exact (leads_parting process false seen).append (.single trivial)
  | listed artifacts first granularity rest process sights run result after seen more ih =>
      refine leads_start process false ?_
      exact (leads_parting process false seen).append (.pass trivial rfl ih)

theorem SpawnedCourse.leads {r : PassResult} {c : List Exchange}
    (h : SpawnedCourse settings unit input r c) : Leads free c free := by
  cases h with
  | uncreated tried e => exact .single trivial
  | unwritten script e removed => exact .pass trivial rfl (.pass trivial rfl (.single trivial))
  | uncommanded script e removed => exact .pass trivial rfl (.pass trivial rfl (.single trivial))
  | ran script interpreter opened result runs removed ran =>
      refine .pass trivial rfl (.pass trivial rfl (.pass trivial rfl ?_))
      exact ran.leads.append (.single trivial)

variable (settings : Settings) (unit : Workload) (input : Payload) (granularity : Granularity)

theorem takes_runAttached_free :
    (runAttached settings unit input granularity).Takes fun _ c => Leads free c free :=
  (takes_runAttached settings unit input granularity).mono fun _ _ ⟨_, going⟩ => going.leads

theorem takes_runSpawned_free :
    (runSpawned settings unit input).Takes fun _ c => Leads free c free :=
  (takes_runSpawned settings unit input).mono fun _ _ going => going.leads

end Pass

end SyscallProfiler
