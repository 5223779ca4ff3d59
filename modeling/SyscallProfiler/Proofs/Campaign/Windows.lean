import SyscallProfiler.Proofs.Campaign.Shape
import SyscallProfiler.Proofs.Pass.Windows

/-!
# The windows of a run

The passes of a run are made one after the other, and each reads the clock only while it is made.
So the windows of a run are in the order of its results, and no two of them have an instant in
common, as long as the clock does not go back. If it does, each window still ends no earlier than
it begins.
-/

namespace SyscallProfiler

theorem Window.IsRead.startedAt_le_endedAt {w : Window} {log : List Exchange} (h : w.IsRead log) :
    w.startedAt ≤ w.endedAt := by
  obtain ⟨opened, closed, -, rfl⟩ := h
  exact Window.startedAt_le_closeAt _ _

namespace Campaign

section PassesLog

variable {format : ReportFormat} {unit : Workload} {input : Payload} {log : List Exchange}
variable {passes : List (Stage × String × Program PassResult)} {results : List PassResult}

/-- Every result is that of one of the passes, whose log stands in that of all of them. -/
theorem PassesLog.ran_of_mem (h : PassesLog format unit input passes results log) :
    ∀ r ∈ results, ∃ pass ∈ passes, ∃ inner, pass.2.2.Ran r inner ∧ ∀ e ∈ inner, e ∈ log := by
  induction h with
  | nil => exact fun r hr => absurd hr List.not_mem_nil
  | cons ran rest ih =>
      refine List.forall_mem_cons.mpr ⟨⟨_, .head _, _, ran, fun e he => ?_⟩, fun r hr => ?_⟩
      · simp [he]
      · obtain ⟨pass, among, inner, ran, within⟩ := ih r hr
        exact ⟨pass, .tail _ among, inner, ran, fun e he => List.mem_append_right _ (within e he)⟩

/-- Every window was read in a part of the log. -/
theorem PassesLog.isRead_of_mem (h : PassesLog format unit input passes results log)
    (reads : ∀ pass ∈ passes, Pass.ReadsWindow pass.2.2) :
    ∀ w ∈ results.filterMap (·.window), ∃ part, w.IsRead part ∧ readings part ⊆ readings log := by
  intro w hw
  obtain ⟨r, hr, window⟩ := List.mem_filterMap.mp hw
  obtain ⟨pass, among, part, ran, within⟩ := h.ran_of_mem r hr
  exact ⟨part, reads pass among r part ran w window, List.filterMap_subset _ within⟩

/-- The readings of a pass come before those of the passes that are made after it. The induction
is on the passes that were made. -/
theorem PassesLog.windows_ordered (h : PassesLog format unit input passes results log)
    (reads : ∀ pass ∈ passes, Pass.ReadsWindow pass.2.2)
    (forward : (readings log).Pairwise (· ≤ ·)) :
    (results.filterMap (·.window)).Pairwise fun v w => v.endedAt ≤ w.startedAt := by
  induction h with
  | nil => exact .nil
  | @cons stage title _ result inner _ _ later ran rest ih =>
      obtain ⟨first, others⟩ := List.forall_mem_cons.mp reads
      have made : inner.Sublist (entering stage :: (announced title unit input format ++
          (inner ++ said format (Report.progress result)))) :=
        ((List.sublist_append_left _ _).trans (List.sublist_append_right _ _)).cons _
      have forward : (readings (inner ++ later)).Pairwise (· ≤ ·) :=
        forward.sublist ((made.append_right later).filterMap _)
      rw [readings_append, List.pairwise_append] at forward
      obtain ⟨-, onward, across⟩ := forward
      have ordered := ih others onward
      cases window : result.window with
      | none => rwa [List.filterMap_cons_none window]
      | some w =>
          rw [List.filterMap_cons_some window, List.pairwise_cons]
          refine ⟨fun v hv => ?_, ordered⟩
          obtain ⟨part, read, within⟩ := rest.isRead_of_mem others v hv
          exact across _ (first result inner ran w window).bounds_mem.2 _
            (within read.bounds_mem.1)

end PassesLog

variable {c : Campaign} {format : ReportFormat} {query : String} {f : Findings}
variable {log : List Exchange}

theorem passes_readsWindow (unit : Workload) (input : Payload) :
    ∀ pass ∈ c.passes unit input, Pass.ReadsWindow pass.2.2 :=
  c.forall_mem_passes (Pass.readsWindow_runAttached c.settings unit input)
    (Pass.readsWindow_runSpawned c.settings unit input)

theorem RunLog.isRead_of_mem (h : c.RunLog format query f log) :
    ∀ w ∈ f.results.filterMap (·.window), ∃ part,
      w.IsRead part ∧ readings part ⊆ readings log := by
  intro w hw
  rcases h.passesLog with none_made | ⟨unit, input, made, passed, among⟩
  · rw [none_made] at hw
    cases hw
  · obtain ⟨part, read, within⟩ := passed.isRead_of_mem (passes_readsWindow unit input) w hw
    exact ⟨part, read, List.Subset.trans within (List.filterMap_subset _ among.subset)⟩

theorem RunLog.windows_ordered (h : c.RunLog format query f log)
    (forward : (readings log).Pairwise (· ≤ ·)) :
    (f.results.filterMap (·.window)).Pairwise fun v w => v.endedAt ≤ w.startedAt := by
  rcases h.passesLog with none_made | ⟨unit, input, made, passed, among⟩
  · rw [none_made]
    exact .nil
  · exact passed.windows_ordered (passes_readsWindow unit input)
      (forward.sublist (among.sublist.filterMap _))

variable (c format query)

/-- A run that comes to an end, whatever its host does and whatever the clock shows. The bounds
of every window were shown by the clock, and the window ends no earlier than it begins. If the
clock never went back in the run, every window ends before any window of a later result begins,
and so the two have no instant in common. -/
theorem runFrom_windows (stage : Stage) {σ : Type} (host : Host σ) (s : σ) {stage' : Stage}
    (ended : ((c.runFrom stage query format).run host s).1 = (.ok f, stage')) :
    let shown := readings ((c.runFrom stage query format).log host s)
    let windows := f.results.filterMap (·.window)
    (∀ w ∈ windows, w.startedAt ≤ w.endedAt ∧ w.startedAt ∈ shown ∧ w.endedAt ∈ shown) ∧
      (shown.Pairwise (· ≤ ·) → windows.Pairwise fun v w =>
        v.endedAt ≤ w.startedAt ∧ v.overlaps w = false ∧ w.overlaps v = false) := by
  intro shown windows
  obtain ⟨-, going⟩ := (c.goes_run format query).of_ended ended
  refine ⟨fun w hw => ?_, fun forward => ?_⟩
  · obtain ⟨part, read, within⟩ := going.isRead_of_mem w hw
    exact ⟨read.startedAt_le_endedAt, within read.bounds_mem.1, within read.bounds_mem.2⟩
  · exact (going.windows_ordered forward).imp fun before =>
      ⟨before, Window.overlaps_eq_false before⟩

/-- A host with files whose clock shows one microsecond more whenever it is read. -/
def ticking : Host (Nat × List String)
  | (now, files), .wallClock => (now, now + 1, files)
  | (now, files), r => ((Pass.disk true files r).1, now, (Pass.disk true files r).2)

/-- A run over one unit by a clock that goes on. It has three windows, one after the other. -/
theorem runFrom_windows_ticking :
    let c : Campaign := ⟨Pass.brief, ⟨[Pass.sample], []⟩⟩
    let run := c.runFrom .idle "w" .json
    let shown := readings (run.log ticking (7, []))
    ∃ f : Findings, (run.run ticking (7, [])).1 = (.ok f, .idle) ∧ shown.Pairwise (· ≤ ·) ∧
      let windows := f.results.filterMap (·.window)
      windows = [⟨7, 8⟩, ⟨9, 10⟩, ⟨11, 12⟩] ∧ windows.Pairwise fun v w =>
        v.endedAt ≤ w.startedAt ∧ v.overlaps w = false ∧ w.overlaps v = false := by
  intro c run shown
  have accepted : Accepted (run.log ticking (7, [])) :=
    accepted_log (fun s r => by cases r <;> rfl) run (7, [])
  obtain ⟨f, _, ended, rfl, -⟩ := (c.goes_run .json "w").of_accepted ticking (7, []) accepted
  have forward : shown.Pairwise (· ≤ ·) := by decide
  have windows : (run.run ticking (7, [])).1.1.toOption.map
      (fun f => f.results.filterMap (·.window)) = some [⟨7, 8⟩, ⟨9, 10⟩, ⟨11, 12⟩] := by decide
  change (run.run ticking (7, [])).1 = _ at ended
  rw [ended] at windows
  exact ⟨f, ended, forward, Option.some.inj windows,
    (runFrom_windows c .json "w" .idle ticking (7, []) ended).2 forward⟩

end Campaign

end SyscallProfiler
