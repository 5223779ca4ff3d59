import SyscallProfiler.Proofs.Pass.Artifacts
import SyscallProfiler.Proofs.Pass.Results

/-!
# What the first run decides

A pass in fresh processes makes two runs. What became of each can be read off the log: how
its process was seen to end, if it was, and what was collected from it. The result of the
pass is a function of that. If both runs ended, it shows the first and nothing of the second;
if one was not seen to end, it shows nothing of either.
-/

namespace SyscallProfiler

open Watch

/-! ## Denials -/

namespace Exchange

/-- Why a process could not be started or a file not be created. -/
def denial? : Exchange → Option OsError
  | ⟨.start _, .error e⟩ => some e
  | ⟨.touch _, .error e⟩ => some e
  | _ => none

theorem denial?_of_isAside (e : Exchange) (h : e.request.isAside = true) : e.denial? = none := by
  obtain ⟨request, answer⟩ := e
  cases request <;> first | rfl | cases h

end Exchange

/-- Why processes could not be started and files not be created, in order. -/
def denials (log : List Exchange) : List OsError := log.filterMap Exchange.denial?

theorem denials_append (log more : List Exchange) :
    denials (log ++ more) = denials log ++ denials more :=
  List.filterMap_append

theorem denials_course (log : List Exchange) : denials (course log) = denials log :=
  filterMap_course Exchange.denial?_of_isAside log

/-! ## Runs -/

namespace Exchange

variable (process : Nat)

/-- How a process was seen to end. -/
def ended? : Exchange → Option ExitStatus
  | ⟨.look seen, .ended status⟩ => if seen = process then some status else none
  | _ => none

/-- What was collected from a stream of a process. -/
def collected? (stream : Stream) : Exchange → Option String
  | ⟨.collect source of, text⟩ => if source = process ∧ of = stream then some text else none
  | _ => none

theorem ended?_of_isAside (e : Exchange) (h : e.request.isAside = true) :
    e.ended? process = none := by
  obtain ⟨request, answer⟩ := e
  cases request <;> first | rfl | cases h

theorem started?_of_isWatch {e : Exchange} (h : e.request.IsWatch) : e.started? = none := by
  obtain ⟨request, answer⟩ := e
  cases request <;> first | rfl | exact h.elim

theorem denial?_of_isWatch {e : Exchange} (h : e.request.IsWatch) : e.denial? = none := by
  obtain ⟨request, answer⟩ := e
  cases request <;> first | rfl | exact h.elim

theorem collected?_of_isWatch (stream : Stream) {e : Exchange} (h : e.request.IsWatch) :
    e.collected? process stream = none := by
  obtain ⟨request, answer⟩ := e
  cases request <;> first | rfl | exact h.elim

end Exchange

/-- What a log shows of the run of a process: nothing if the process was not seen to end. -/
def shownRun (process : Nat) (log : List Exchange) : Option RunOutput := do
  let status ← log.findSome? (Exchange.ended? process)
  let stdout ← log.findSome? (Exchange.collected? process .output)
  let stderr ← log.findSome? (Exchange.collected? process .errors)
  return { status, stdout, stderr }

/-- What a log shows of each process that was started, in order. A process is known by its
number until the next one is started, as a number may be used again. -/
def shownRuns : List Exchange → List (Option RunOutput)
  | [] => []
  | e :: log =>
    match e.started? with
    | some process => shownRun process (log.takeWhile (·.started?.isNone)) :: shownRuns log
    | none => shownRuns log

theorem started_eq_nil_iff {log : List Exchange} :
    started log = [] ↔ ∀ e ∈ log, e.started? = none :=
  List.filterMap_eq_nil_iff

/-- Where nothing is started there is no run. -/
theorem shownRuns_append {part : List Exchange} (alone : started part = [])
    (more : List Exchange) : shownRuns (part ++ more) = shownRuns more := by
  rw [started_eq_nil_iff] at alone
  induction part with
  | nil => rfl
  | cons e part ih =>
      obtain ⟨here, later⟩ := List.forall_mem_cons.mp alone
      rw [List.cons_append, shownRuns, here]
      exact ih later

/-- What a log shows of a run is not changed by what comes after it. -/
theorem shownRun_append {process : Nat} {log : List Exchange} {run : RunOutput}
    (shown : shownRun process log = some run) (more : List Exchange) :
    shownRun process (log ++ more) = some run := by
  simp only [shownRun, Option.bind_eq_bind, Option.bind_eq_some_iff] at shown ⊢
  obtain ⟨status, ended, stdout, output, stderr, errors, whole⟩ := shown
  refine ⟨status, ?_, stdout, ?_, stderr, ?_, whole⟩
  · rw [List.findSome?_append, ended, Option.some_or]
  · rw [List.findSome?_append, output, Option.some_or]
  · rw [List.findSome?_append, errors, Option.some_or]

theorem shownRun_eq_none {process : Nat} {log : List Exchange}
    (unseen : log.findSome? (Exchange.ended? process) = none) : shownRun process log = none := by
  rw [shownRun, unseen]
  rfl

theorem findSome?_ended?_course (process : Nat) (log : List Exchange) :
    (course log).findSome? (Exchange.ended? process) =
      log.findSome? (Exchange.ended? process) := by
  rw [← List.head?_filterMap, ← List.head?_filterMap,
    filterMap_course (Exchange.ended?_of_isAside process)]

/-- The part of a log in which a process is waited for, whatever came of its run. -/
structure IsRun (process : Nat) (run : Option RunOutput) (part : List Exchange) : Prop where
  alone : started part = []
  granted : denials part = []
  ended_eq : part.findSome? (Exchange.ended? process) = run.map RunOutput.status
  shown_eq : shownRun process part = run

namespace IsRun

variable {process : Nat} {part more : List Exchange} (command : Command)

theorem takeWhile_append (alone : started part = []) (more : List Exchange) :
    (part ++ more).takeWhile (·.started?.isNone) =
      part ++ more.takeWhile (·.started?.isNone) :=
  List.takeWhile_append_of_pos fun e he => by rw [started_eq_nil_iff.mp alone e he]; rfl

theorem shownRuns_of_some {run : RunOutput} (h : IsRun process (some run) part) :
    shownRuns (⟨.start command, .ok process⟩ :: (part ++ more)) = some run :: shownRuns more := by
  rw [shownRuns, Exchange.started?_ok]
  dsimp only
  rw [takeWhile_append h.alone more, shownRun_append h.shown_eq, shownRuns_append h.alone]

theorem shownRuns_of_none (h : IsRun process none part) (last : started more = [])
    (unseen : more.findSome? (Exchange.ended? process) = none) :
    shownRuns (⟨.start command, .ok process⟩ :: (part ++ more)) = [none] := by
  have alone : started (part ++ more) = [] := by
    rw [started, List.filterMap_append, ← started, ← started, h.alone, last]
    rfl
  have nothing : shownRun process (part ++ more) = none := by
    refine shownRun_eq_none ?_
    rw [List.findSome?_append, h.ended_eq, unseen]
    rfl
  have whole := takeWhile_append alone []
  have none_later := shownRuns_append alone []
  rw [List.append_nil] at whole none_later
  rw [shownRuns, Exchange.started?_ok]
  dsimp only
  rw [whole, List.takeWhile_nil, List.append_nil, nothing, none_later]
  rfl

end IsRun

/-! ## The runs of a pass -/

/-- How a process ended, if it did, shows in the looks at it. -/
theorem Watch.Seen.findSome?_sightings {sights : List Sight} {status : Option ExitStatus}
    (seen : Seen sights status) (process : Nat) :
    (sightings process sights).findSome? (Exchange.ended? process) = status := by
  induction seen with
  | ended status => simp [sightings, Exchange.ended?]
  | unknown reason => rfl
  | running => rfl
  | again rest ih => exact ih

theorem Watch.logs_untilEnd (process : Nat) (timeout : Duration) :
    (untilEnd process timeout).Logs fun status log =>
      log.findSome? (Exchange.ended? process) = status ∧ ∀ e ∈ log, e.request.IsWatch := by
  intro σ host s
  obtain ⟨sights, seen, watched⟩ := takes_untilEnd process timeout σ host s
  refine ⟨?_, (asks_untilEnd process timeout).of_mem_log host s⟩
  rw [← findSome?_ended?_course, watched]
  exact seen.findSome?_sightings process

theorem Watch.logs_destroy (process : Nat) :
    (destroy process).Logs fun _ log => log = destruction process :=
  fun _ _ _ => rfl

/-- Nothing is started and nothing can be denied while a process is waited for. -/
theorem quiet_of_isWatch {log : List Exchange} (watching : ∀ e ∈ log, e.request.IsWatch) :
    started log = [] ∧ denials log = [] := by
  constructor
  · exact started_eq_nil_iff.mpr fun e he => Exchange.started?_of_isWatch (watching e he)
  · exact List.filterMap_eq_nil_iff.mpr fun e he => Exchange.denial?_of_isWatch (watching e he)

/-- What is collected from a process in the end. -/
def collection (process : Nat) (stdout stderr : String) : List Exchange :=
  [⟨.collect process .output, stdout⟩, ⟨.collect process .errors, stderr⟩]

/-- A run is what was seen of its process and what was then collected from it. -/
theorem IsRun.of_watched {process : Nat} {status : Option ExitStatus} {watched : List Exchange}
    (seen : watched.findSome? (Exchange.ended? process) = status)
    (watching : ∀ e ∈ watched, e.request.IsWatch) (stdout stderr : String) :
    IsRun process (status.map fun status => ⟨status, stdout, stderr⟩)
      (watched ++ collection process stdout stderr) := by
  obtain ⟨alone, granted⟩ := quiet_of_isWatch watching
  have ended : (watched ++ collection process stdout stderr).findSome?
      (Exchange.ended? process) = status := by
    rw [List.findSome?_append, seen]
    exact Option.or_none
  have uncollected (stream : Stream) :
      watched.findSome? (Exchange.collected? process stream) = none :=
    List.findSome?_eq_none_iff.mpr fun e he =>
      Exchange.collected?_of_isWatch process stream (watching e he)
  have output : (watched ++ collection process stdout stderr).findSome?
      (Exchange.collected? process .output) = some stdout := by
    rw [List.findSome?_append, uncollected]
    simp [collection, Exchange.collected?]
  have errors : (watched ++ collection process stdout stderr).findSome?
      (Exchange.collected? process .errors) = some stderr := by
    rw [List.findSome?_append, uncollected]
    simp [collection, Exchange.collected?]
  constructor
  · rw [started, List.filterMap_append, ← started, alone]
    rfl
  · rw [denials_append, granted]
    rfl
  · rw [ended]
    cases status <;> rfl
  · rw [shownRun, ended, output, errors]
    cases status <;> rfl

namespace Pass

/-- A process that was started is waited for, and killed if its end was not seen. -/
theorem logs_runBounded (command : Command) (timeout : Duration) :
    (runBounded command timeout).Logs fun ran log =>
      (∃ e failure, ran = .error failure ∧ log = [⟨.start command, .error e⟩]) ∨
      ∃ process run part, IsRun process run part ∧ ran = .ok run ∧
        log = ⟨.start command, .ok process⟩ :: part := by
  refine .request fun started => ?_
  cases started with
  | error e => exact .done (Or.inl ⟨e, _, rfl, rfl⟩)
  | ok process =>
      refine .bind (logs_untilEnd process timeout) ?_
      rintro status watched ⟨seen, watching⟩
      cases status with
      | some status =>
          refine .request fun stdout => .request fun stderr => .done (Or.inr ?_)
          exact ⟨process, _, _, .of_watched seen watching stdout stderr, rfl, rfl⟩
      | none =>
          refine .bind (logs_destroy process) ?_
          rintro _ _ rfl
          refine .request fun stdout => .request fun stderr => .done (Or.inr ?_)
          have gone : (watched ++ destruction process).findSome? (Exchange.ended? process) =
              none := by
            rw [List.findSome?_append, seen]
            rfl
          have watching : ∀ e ∈ watched ++ destruction process, e.request.IsWatch := by
            refine List.forall_mem_append.mpr ⟨watching, ?_⟩
            simp [destruction, Request.IsWatch]
          refine ⟨process, _, _, .of_watched gone watching stdout stderr, rfl, ?_⟩
          rw [List.append_assoc]
          rfl

namespace SpawnJob

variable (job : SpawnJob)

/-- What becomes of a pass whose requests are granted. If a run was not seen to end, the pass has
expired. Otherwise its result is that of the first of all runs. -/
inductive Shows (artifacts : List String) (first : Option RunOutput) (left : List Granularity) :
    Except Failure PassResult → List (Option RunOutput) → Prop where
  | expired (listed : List String) (closed : Nat) {runs : List (Option RunOutput)}
      (late : none ∈ runs) :
      Shows artifacts first left (.ok (job.expired listed (job.window.closeAt closed))) runs
  | finished (closed : Nat) (runs : List RunOutput) (all : runs.length = left.length) :
      Shows artifacts first left
        (.ok (job.finished (artifacts ++ left.map job.artifact) (job.window.closeAt closed)
          (first.or runs.head?)))
        (runs.map some)

variable {job} {artifacts : List String} {first : Option RunOutput} {left : List Granularity}
variable {result : Except Failure PassResult} {runs : List (Option RunOutput)}

/-- A run that ended, and whose artifact is there, goes before those that are left. -/
theorem Shows.cons {granularity : Granularity} {run : RunOutput}
    (h : job.Shows (artifacts ++ [job.artifact granularity]) (first.or (some run)) left
      result runs) :
    job.Shows artifacts first (granularity :: left) result (some run :: runs) := by
  cases h with
  | expired listed closed late => exact .expired listed closed (.tail _ late)
  | finished closed runs all =>
      rw [Option.or_assoc, Option.some_or, List.append_assoc]
      exact .finished closed (run :: runs) (congrArg (· + 1) all)

/-- If all runs ended, the result is that of the first. -/
theorem Shows.of_all (h : job.Shows artifacts first left result runs) (all : List RunOutput)
    (ended : runs = all.map some) :
    ∃ closed, result = .ok (job.finished (artifacts ++ left.map job.artifact)
      (job.window.closeAt closed) (first.or all.head?)) := by
  cases h with
  | expired listed closed late =>
      simp [ended] at late
  | finished closed shown _ =>
      obtain rfl := (List.map_inj_right fun _ _ => Option.some.inj).mp ended
      exact ⟨closed, rfl⟩

/-- If a run was not seen to end, the pass has expired. -/
theorem Shows.of_late (h : job.Shows artifacts first left result runs) (late : none ∈ runs) :
    ∃ listed closed, result = .ok (job.expired listed (job.window.closeAt closed)) := by
  cases h with
  | expired listed closed _ => exact ⟨listed, closed, rfl⟩
  | finished closed shown _ =>
      simp at late

theorem shows_runAll (artifacts : List String) (first : Option RunOutput)
    (left : List Granularity) :
    (job.runAll artifacts first left).Logs fun result log =>
      denials log = [] → job.Shows artifacts first left result (shownRuns log) := by
  induction left generalizing artifacts first with
  | nil =>
      refine .request fun closed => .done fun _ => ?_
      have shown : job.Shows artifacts first [] _ _ := .finished closed [] rfl
      rw [List.map_nil, List.append_nil, List.head?_nil, Option.or_none] at shown
      exact shown
  | cons granularity rest ih =>
      refine .bind (logs_runBounded _ _) ?_
      rintro _ _ (⟨e, failure, rfl, rfl⟩ | ⟨process, run?, part, run, rfl, rfl⟩)
      · exact .done fun free => nomatch free
      · cases run? with
        | none =>
            refine .request fun left => .request fun closed => .done fun _ => .expired _ closed ?_
            rw [List.cons_append, run.shownRuns_of_none _ rfl rfl]
            exact .head _
        | some shown =>
            refine .request fun touched => ?_
            cases touched with
            | error e =>
                refine .done fun free => ?_
                rw [denials_append] at free
                exact absurd (List.append_eq_nil_iff.mp free).2 nofun
            | ok _ =>
                refine (ih _ _).mono fun result after reached free => ?_
                rw [denials_append] at free
                rw [List.cons_append, run.shownRuns_of_some]
                exact (reached (List.append_eq_nil_iff.mp free).2).cons

end SpawnJob

variable (settings : Settings) (unit : Workload) (input : Payload)

/-- If there is no interpreter, nothing is run. -/
theorem shows_runOnScript (script : String) :
    (runOnScript settings unit input script).Logs fun result log =>
      denials log = [] →
        (∃ e, result = .error e ∧ shownRuns log = []) ∨
        ∃ interpreter opened,
          SpawnJob.Shows ⟨settings, unit, input, interpreter, script, .openAt opened⟩
            [] none [.summary, .full] result (shownRuns log) := by
  refine .bind (takes_interpreterCommand settings).logs fun command asked nothing => ?_
  have alone : started asked = [] := by
    rw [← started_course, nothing]
    rfl
  cases command with
  | error e =>
      refine .done fun _ => Or.inl ⟨e, rfl, ?_⟩
      rw [shownRuns_append alone]
      rfl
  | ok interpreter =>
      refine .request fun opened => (SpawnJob.shows_runAll _ _ _).mono ?_
      intro result log reached free
      rw [denials_append] at free
      rw [shownRuns_append alone]
      exact Or.inr ⟨interpreter, opened, reached (List.append_eq_nil_iff.mp free).2⟩

/-- The result of the runs on a script shows the first run and nothing of the second. If all
that was asked for was granted in two passes over a unit, their first runs came to the same,
and their second runs ended in whatever way, the results are the same but for the window. If
a run was not seen to end, the result shows nothing of the other. -/
theorem runOnScript_shows_first (script script' : String) {σ σ' : Type} (host : Host σ)
    (host' : Host σ') (s : σ) (s' : σ') :
    let pass := runOnScript settings unit input script
    let pass' := runOnScript settings unit input script'
    denials (pass.log host s) = [] →
      (∀ first second second' : RunOutput,
        shownRuns (pass.log host s) = [some first, some second] →
        denials (pass'.log host' s') = [] →
        shownRuns (pass'.log host' s') = [some first, some second'] →
        ∃ r r', (pass.run host s).1 = .ok r ∧ (pass'.run host' s').1 = .ok r' ∧
          { r with window := none } = { r' with window := none } ∧
          r.success = true ∧
          r.outcome = some (.ofRun first.status.code? first.status.signal? first.stdout
            first.stderr) ∧
          r.stdout = first.stdout ∧ r.stderr = first.stderr ∧
          r.artifacts = spawnedArtifacts settings unit) ∧
      (none ∈ shownRuns (pass.log host s) →
        ∃ r, (pass.run host s).1 = .ok r ∧ r.success = false ∧
          r.outcome = some .timedOut ∧ r.stdout = "" ∧ r.stderr = "") := by
  intro pass pass' free
  have going := shows_runOnScript settings unit input script σ host s free
  refine ⟨fun first second second' ended free' ended' => ?_, fun late => ?_⟩
  · have going' := shows_runOnScript settings unit input script' σ' host' s' free'
    rw [ended] at going
    rw [ended'] at going'
    obtain ⟨e, -, nothing⟩ | ⟨interpreter, opened, shows⟩ := going
    · cases nothing
    obtain ⟨e, -, nothing⟩ | ⟨interpreter', opened', shows'⟩ := going'
    · cases nothing
    obtain ⟨closed, result⟩ := shows.of_all [first, second] rfl
    obtain ⟨closed', result'⟩ := shows'.of_all [first, second'] rfl
    have ends := Outcome.isTimedOut_ofRun first.status.code? first.status.signal? first.stdout
      first.stderr
    refine ⟨_, _, result, result', rfl, ?_, rfl, rfl, rfl, rfl⟩
    exact congrArg not ends
  · obtain ⟨e, -, nothing⟩ | ⟨interpreter, opened, shows⟩ := going
    · rw [nothing] at late
      cases late
    obtain ⟨listed, closed, result⟩ := shows.of_late late
    exact ⟨_, result, rfl, rfl, rfl, rfl⟩

/-- How the processes on a host are going to run: which of them end, and as what. -/
structure Plan where
  current : Option RunOutput
  next : List (Option RunOutput)
  looks : Nat

/-- A host on which processes run as planned. Each look takes an hour, and all files can be
created. -/
def planned : Host Plan
  | plan, .start _ =>
    match plan.next with
    | [] => (.error .noSuchFile, plan)
    | run :: next => (.ok 3, { plan with current := run, next })
  | plan, .look _ =>
    match plan.current with
    | some run => (.ended run.status, { plan with looks := plan.looks + 1 })
    | none => (.running, { plan with looks := plan.looks + 1 })
  | plan, .collect _ .output => ((plan.current.map RunOutput.stdout).getD "half a line", plan)
  | plan, .collect _ .errors => ((plan.current.map RunOutput.stderr).getD "", plan)
  | plan, .clock => (.ofSecs (plan.looks * 3600), plan)
  | plan, r => ((disk true [] r).1, plan)

/-- A first run that returns. Two runs may follow that differ in all ways, or none that ends. -/
theorem runOnScript_shows_first_planned :
    let pass := runOnScript brief sample default "s.json"
    let first : RunOutput := ⟨.exited 0, "chatter\n7\n", "note"⟩
    let second : RunOutput := ⟨.exited 0, "8\n", ""⟩
    let second' : RunOutput := ⟨.killed 11, "ERROR: lost\n", "core"⟩
    let returns : Plan := ⟨none, [some first, some second], 0⟩
    let crashes : Plan := ⟨none, [some first, some second'], 0⟩
    let hangs : Plan := ⟨none, [some first, none], 0⟩
    (∃ r r', (pass.run planned returns).1 = .ok r ∧ (pass.run planned crashes).1 = .ok r' ∧
      { r with window := none } = { r' with window := none } ∧ r.success = true ∧
      r.stdout = first.stdout) ∧
    ∃ r, (pass.run planned hangs).1 = .ok r ∧ r.success = false ∧ r.outcome = some .timedOut ∧
      r.stdout = "" := by
  intro pass first second second' returns crashes hangs
  constructor
  · have shows := (runOnScript_shows_first brief sample default "s.json" "s.json" planned planned
      returns crashes (by decide)).1 first second second' (by decide) (by decide) (by decide)
    obtain ⟨r, r', result, result', same, success, -, stdout, -⟩ := shows
    exact ⟨r, r', result, result', same, success, stdout⟩
  · have shows := (runOnScript_shows_first brief sample default "s.json" "s.json" planned planned
      hangs hangs (by decide)).2 (by decide)
    obtain ⟨r, result, success, outcome, stdout, -⟩ := shows
    exact ⟨r, result, success, outcome, stdout⟩

end Pass

end SyscallProfiler
