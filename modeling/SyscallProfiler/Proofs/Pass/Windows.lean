import SyscallProfiler.Proofs.Pass.Course

/-!
# The windows of passes

A pass reads the wall clock when its collector begins to observe and again when it is done, and
at no other time. If its result has a window, both readings were made, and they are its bounds.
-/

namespace SyscallProfiler

/-- The window opens at the first and closes at the second of the two readings in a log. -/
def Window.IsRead (w : Window) (log : List Exchange) : Prop :=
  ∃ opened closed, readings log = [opened, closed] ∧ w = (Window.openAt opened).closeAt closed

namespace Exchange

@[simp] theorem reading?_wallClock (now : Nat) : reading? ⟨.wallClock, now⟩ = some now := rfl

@[simp] theorem reading?_of_ne {r : Request} (h : r ≠ .wallClock) (a : r.Answer) :
    reading? ⟨r, a⟩ = none := by
  cases r with
  | wallClock => exact absurd rfl h
  | _ => rfl

theorem reading?_of_isAside (e : Exchange) (h : e.request.isAside = true) :
    e.reading? = none := by
  refine reading?_of_ne (fun clock => ?_) e.answer
  rw [clock] at h
  cases h

end Exchange

theorem readings_course (log : List Exchange) : readings (course log) = readings log :=
  filterMap_course Exchange.reading?_of_isAside log

theorem Window.isRead_course {w : Window} {log : List Exchange} :
    w.IsRead (course log) ↔ w.IsRead log := by
  rw [IsRead, IsRead, readings_course]

/-- The clock is not read while a process is got rid of. -/
@[simp] theorem Watch.filterMap_reading?_parting (process : Nat) (sights : List Sight)
    (status : Option ExitStatus) :
    (parting process sights status).filterMap Exchange.reading? = [] :=
  filterMap_parting (fun _ => rfl) rfl sights status

/-- The bounds of a window that was read are readings, or the end is the beginning. -/
theorem Window.IsRead.bounds_mem {w : Window} {log : List Exchange} (h : w.IsRead log) :
    w.startedAt ∈ readings log ∧ w.endedAt ∈ readings log := by
  obtain ⟨opened, closed, read, rfl⟩ := h
  rw [read]
  refine ⟨.head _, ?_⟩
  change max closed opened ∈ [opened, closed]
  rcases Nat.le_total closed opened with back | on
  · rw [Nat.max_eq_right back]
    exact .head _
  · rw [Nat.max_eq_left on]
    exact .tail _ (.head _)

namespace Pass

open Watch Session

variable {settings : Settings} {unit : Workload} {input : Payload} {r : PassResult}
variable {c : List Exchange}

theorem AttachedCourse.window_isRead {granularity : Granularity} {asked : Except Failure Session}
    (h : AttachedCourse settings unit input granularity asked r c) {w : Window}
    (hw : r.window = some w) : w.IsRead c := by
  cases h with
  | unattached => cases hw
  | stopped pid session process window before loaded closed sent sights status touched attaching
      observing seen =>
      cases attaching with
      | active permission _ watched opened watching =>
          obtain ⟨⟨⟩, ⟨⟩⟩ := observing
          cases hw
          refine ⟨opened, closed, ?_, rfl⟩
          simp [readings, closing]

/-- The runs that are left end with a reading if they come to a result at all. -/
theorem SpawnJob.RunsCourse.window_isRead {job : SpawnJob} {artifacts : List String}
    {first : Option RunOutput} {left : List Granularity} {result : Except Failure PassResult}
    (h : job.RunsCourse artifacts first left result c) (hr : result = .ok r) :
    ∃ closed, readings c = [closed] ∧ r.window = some (job.window.closeAt closed) := by
  induction h with
  | finished artifacts first closed =>
      cases hr
      cases first <;> exact ⟨closed, rfl, rfl⟩
  | refused => cases hr
  | expired artifacts first granularity rest process sights left closed seen =>
      cases hr
      refine ⟨closed, ?_, rfl⟩
      simp [readings]
  | unlisted => cases hr
  | listed artifacts first granularity rest process sights run result after seen more ih =>
      obtain ⟨closed, read, window⟩ := ih hr
      refine ⟨closed, ?_, window⟩
      rw [← read]
      simp [readings]

theorem SpawnedCourse.window_isRead (h : SpawnedCourse settings unit input r c) {w : Window}
    (hw : r.window = some w) : w.IsRead c := by
  cases h with
  | uncreated => cases hw
  | unwritten => cases hw
  | uncommanded => cases hw
  | ran script interpreter opened result runs removed ran =>
      cases result with
      | error e => cases hw
      | ok r =>
          obtain ⟨closed, read, window⟩ := ran.window_isRead rfl
          cases window.symm.trans hw
          refine ⟨opened, closed, ?_, rfl⟩
          change opened :: readings (runs ++ [⟨.removeScript script, removed⟩]) = _
          rw [readings, List.filterMap_append, ← readings, read]
          rfl

/-- The window of a result of the program was read in the run that led to the result. -/
def ReadsWindow (p : Program PassResult) : Prop :=
  ∀ r log, p.Ran r log → ∀ w, r.window = some w → w.IsRead log

variable (settings : Settings) (unit : Workload) (input : Payload)

theorem readsWindow_runAttached (granularity : Granularity) :
    ReadsWindow (runAttached settings unit input granularity) := by
  intro r log ran w hw
  obtain ⟨asked, going⟩ := (takes_runAttached settings unit input granularity).of_ran ran
  exact Window.isRead_course.mp (going.window_isRead hw)

theorem readsWindow_runSpawned : ReadsWindow (runSpawned settings unit input) := by
  intro r log ran w hw
  have going := (takes_runSpawned settings unit input).of_ran ran
  exact Window.isRead_course.mp (going.window_isRead hw)

end Pass

end SyscallProfiler
