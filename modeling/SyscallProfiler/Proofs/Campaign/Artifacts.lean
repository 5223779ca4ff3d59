import SyscallProfiler.Proofs.Artifact
import SyscallProfiler.Proofs.Campaign.Shape
import SyscallProfiler.Proofs.Files.Lookup
import SyscallProfiler.Proofs.Workload.Selection

/-!
# Artifacts never collide

The artifacts of a campaign lie in one directory, whatever they are of and however often it is run.
Each of them is an entry of that directory, and no two of them are the same entry unless they are of
the same workload, were reached in the same way and recorded with the same granularity. A run lists
its own artifacts and no others.
-/

namespace SyscallProfiler

open Artifact

/-! ## What passes list -/

namespace PassResult

variable {r : PassResult}

theorem ListsOne.sublist {artifact : String} (h : r.ListsOne artifact) :
    r.artifacts.Sublist [artifact] := by
  cases success : r.success with
  | true => rw [h.1 success]
  | false =>
      rcases h.2 success with none_left | left
      · exact none_left ▸ List.nil_sublist _
      · rw [left]

theorem ListsInOrder.sublist {artifacts : List String} (h : r.ListsInOrder artifacts) :
    r.artifacts.Sublist artifacts := by
  by_cases late : r.outcome = some .timedOut
  · exact (h.2.1 late).sublist
  · cases success : r.success with
    | true => rw [h.1 success]
    | false => exact h.2.2 success late ▸ List.nil_sublist _

end PassResult

namespace Pass

variable {settings : Settings} {unit : Workload} {input : Payload} {r : PassResult}
variable {log : List Exchange}

theorem sublist_of_ran_attached {granularity : Granularity}
    (ran : (runAttached settings unit input granularity).Ran r log) :
    r.artifacts.Sublist
      [(⟨.attach, granularity, unit.name⟩ : Subject).path settings.outputDir] := by
  obtain ⟨asked, going⟩ := (takes_runAttached settings unit input granularity).of_ran ran
  exact going.result_wellFormed.2.sublist

theorem sublist_of_ran_spawned (ran : (runSpawned settings unit input).Ran r log) :
    r.artifacts.Sublist [(⟨.spawn, .summary, unit.name⟩ : Subject).path settings.outputDir,
      (⟨.spawn, .full, unit.name⟩ : Subject).path settings.outputDir] :=
  ((takes_runSpawned settings unit input).of_ran ran).result_wellFormed.2.sublist

end Pass

namespace Campaign

variable {c : Campaign} {format : ReportFormat} {query : String} {f : Findings}
variable {log : List Exchange}

theorem RunLog.artifacts_sublist (h : c.RunLog format query f log) {unit : Workload}
    (found : f.workload = some unit) :
    (f.results.flatMap (·.artifacts)).Sublist
      ((Subject.ofRun unit.name).map (·.path c.settings.outputDir)) := by
  cases h with
  | unresolved => cases found
  | resolved _ made results inner _ passed =>
      cases found
      obtain ⟨summary, full, spawned, _, _, _, rfl, ran₁, ran₂, ran₃⟩ := passed.exists_ran
      have first := Pass.sublist_of_ran_attached ran₁
      have second := Pass.sublist_of_ran_attached ran₂
      have third := Pass.sublist_of_ran_spawned ran₃
      simpa [Subject.ofRun] using first.append (second.append third)

/-- The artifacts of a campaign, whatever its directory for them. A file name belongs to one way of
reaching one workload with one granularity, whatever the workload is called. As long as the names
of workloads have no slash, as none has that is found in a directory tree, every artifact is an
entry of the directory: its path leads where that of the directory leads and then to its file name,
and in no tree of files does it name anything else. Two artifacts have the same path, up to parts
that a lookup passes over, only if they are of the same, so that all artifacts of any number of
workloads with different names lie apart. A run lists no artifacts but the four of its workload. -/
theorem artifacts_apart (c : Campaign) :
    let directory := c.settings.outputDir
    (∀ s t : Subject, s.fileName = t.fileName → s = t) ∧
      (∀ root (tree : Tree), tree.IsPlain →
        ∀ u ∈ (Registry.ofTree root tree).units, '/' ∉ u.name.toList) ∧
      (∀ s : Subject, s.IsPlain →
        Path.IsEntryOf directory s.fileName (s.path directory) ∧
          ∀ (files : Files) cwd here entries location node,
            files.find cwd directory = .ok (here, .directory entries) →
              files.entry cwd (s.path directory) = .ok (location, node) →
                location = here ++ [s.fileName] ∧ files.at? location = some node) ∧
      (∀ s t : Subject, s.IsPlain → t.IsPlain →
        Path.names (s.path directory) = Path.names (t.path directory) → s = t) ∧
      (∀ workloads : List String, workloads.Nodup → (∀ w ∈ workloads, '/' ∉ w.toList) →
        ((workloads.flatMap Subject.ofRun).map fun s => Path.names (s.path directory)).Nodup) ∧
      ∀ format query stage σ (host : Host σ) s f stage' unit,
        ((c.runFrom stage query format).run host s).1 = (.ok f, stage') →
          f.workload = some unit →
            (f.results.flatMap (·.artifacts)).Sublist
              ((Subject.ofRun unit.name).map (·.path directory)) := by
  intro directory
  refine ⟨fun s t => Subject.fileName_inj.mp,
    fun root tree plain u => Registry.slash_notMem_name_of_mem_ofTree plain, fun s plain => ?_,
    fun s t hs ht => Subject.eq_of_names_path_eq hs ht,
    fun workloads => Subject.nodup_names_path directory, ?_⟩
  · have isEntry := Subject.isEntryOf_path directory plain
    refine ⟨isEntry, fun files cwd here entries location node found named => ?_⟩
    exact ((Files.entry_eq_ok_iff found isEntry s.fileName_ne_up).mp named).2.2
  · intro format query stage σ host s f stage' unit ended found
    exact ((c.goes_run format query).of_ended ended).2.artifacts_sublist found

/-- Files with one artifact in the usual place. -/
def keptFiles : Files := ⟨.directory [("out", .directory kept)]⟩
where
  /-- What the directory for artifacts has. -/
  kept : List (String × Node) := [("attach_full_w.txt", .file [] false)]

theorem find_keptFiles :
    keptFiles.find [] "out" = .ok (["out"], .directory keptFiles.kept) := by
  have short : "out".utf8ByteSize = 3 := rfl
  simp [Files.find, Files.place, Files.walk, Path.hasNul, Path.isLong, Path.longest,
    Path.isLongPart, Path.longestPart, Path.isAbsolute, Path.components, Path.splitSlash,
    keptFiles, Files.at?, Node.at?, Node.child?, short]

theorem isPlain_namesakes : Registry.namesakes.IsPlain := by
  have holding : Registry.namesakes.holding.IsPlain := by
    refine Tree.isPlain_directory (List.forall_mem_singleton.mpr ⟨by decide, ?_⟩)
    refine Tree.isPlain_directory (List.forall_mem_singleton.mpr ⟨by decide, ?_⟩)
    exact Tree.isPlain_directory (List.forall_mem_singleton.mpr ⟨by decide, Tree.isPlain_leaf⟩)
  exact Tree.isPlain_directory (List.forall_mem_cons.mpr
    ⟨⟨by decide, holding⟩, List.forall_mem_singleton.mpr ⟨by decide, holding⟩⟩)

/-- Workloads whose names look like the rest of the file names of other artifacts, an artifact that
is there, and a run that lists its own. -/
theorem artifacts_apart_lookalikes :
    let c : Campaign := ⟨Pass.brief, ⟨[Pass.sample], []⟩⟩
    let workloads := ["w", "full_w", "summary_w"]
    let s : Subject := ⟨.attach, .full, "w"⟩
    let t : Subject := ⟨.attach, .summary, "full_w"⟩
    let run := c.runFrom .idle "w" .json
    s.fileName ≠ t.fileName ∧
      (Registry.namesakes.IsPlain ∧ ∃ u ∈ (Registry.ofTree "root" Registry.namesakes).units,
        '/' ∉ u.name.toList) ∧
      (s.IsPlain ∧ keptFiles.find [] "out" = .ok (["out"], .directory keptFiles.kept) ∧
        ∃ location, keptFiles.entry [] (s.path "out") = .ok (location, .file [] false) ∧
          location = ["out", "attach_full_w.txt"]) ∧
      (t.IsPlain ∧ Path.names (s.path "out") ≠ Path.names (t.path "out")) ∧
      (workloads.Nodup ∧ (∀ w ∈ workloads, '/' ∉ w.toList) ∧
        ((workloads.flatMap Subject.ofRun).map fun s => Path.names (s.path "out")).Nodup) ∧
      ∃ f : Findings, (run.run (Pass.disk true) []).1 = (.ok f, .idle) ∧
        f.workload = some Pass.sample ∧
          (f.results.flatMap (·.artifacts)).Sublist ((Subject.ofRun "w").map (·.path "out")) := by
  intro c workloads s t run
  obtain ⟨named, found, placed, only, together, listed⟩ := artifacts_apart c
  have plain : s.IsPlain ∧ t.IsPlain := by decide
  have other : s ≠ t := by decide
  have there : keptFiles.entry [] (s.path "out") =
      .ok (["out", "attach_full_w.txt"], .file [] false) :=
    (Files.entry_eq_ok_iff find_keptFiles (Subject.isEntryOf_path "out" plain.1)
      s.fileName_ne_up).mpr ⟨by decide, by decide, rfl, rfl⟩
  obtain ⟨u, among, -⟩ := Registry.exists_namesake (.head _)
  have accepted : Accepted (run.log (Pass.disk true) []) :=
    accepted_log (fun s r => by cases r <;> rfl) run []
  obtain ⟨f, _, ended, rfl, going⟩ :=
    (c.goes_run .json "w").of_accepted (Pass.disk true) [] accepted
  have resolved : f.workload = some Pass.sample := going.workload_eq.1.trans (by decide)
  have distinct : workloads.Nodup := by decide
  have plainNames : ∀ w ∈ workloads, '/' ∉ w.toList := by decide
  have apart := together workloads distinct plainNames
  have own := listed .json "w" .idle _ (Pass.disk true) [] f .idle Pass.sample ended resolved
  have leading := ((placed s plain.1).2 _ _ _ _ _ _ find_keptFiles there).1
  have noSlash := found "root" _ isPlain_namesakes u among
  refine ⟨mt (named s t) other, ⟨isPlain_namesakes, u, among, noSlash⟩,
    ⟨plain.1, find_keptFiles, _, there, leading⟩,
    ⟨plain.2, mt (only s t plain.1 plain.2) other⟩, ⟨distinct, plainNames, apart⟩, f, ended,
    resolved, own⟩

end Campaign

end SyscallProfiler
