import SyscallProfiler.Proofs.Host.Presence
import SyscallProfiler.Proofs.Pass.Course

/-!
# Listed artifacts exist

A pass in fresh processes lists an artifact only after the host has accepted to create it or
has said that it is there. So does an attached pass whose session did not come about. An
attached pass that succeeds is different: closing its session attempts to create the
artifact, but the artifact is listed whatever comes of that.
-/

namespace SyscallProfiler

open Watch Session

/-! ## Names -/

theorem Path.exists_join_eq (directory name : String) :
    ∃ before, Path.join directory name = before ++ name := by
  rw [join]
  split
  · exact ⟨"", (String.empty_append).symm⟩
  · split
    · exact ⟨"", (String.empty_append).symm⟩
    · exact ⟨directory, rfl⟩
    · exact ⟨directory ++ "/", rfl⟩

/-- No script has the path of an artifact. -/
theorem Artifact.path_ne_script (directory : String) (reach : Reach) (granularity : Granularity)
    (workload stem : String) :
    Artifact.path directory reach granularity workload ≠ stem ++ ".json" := by
  obtain ⟨before, hpath⟩ := Path.exists_join_eq directory (fileName reach granularity workload)
  rw [Artifact.path, hpath, fileName, ← String.append_assoc]
  intro same
  have last := congrArg (fun path => path.toList.reverse.head?) same
  simp [String.toList_append] at last

/-! ## Parts of a pass -/

section Pieces

variable {path : String}

theorem keeps_sightings (process : Nat) (sights : List Sight) :
    Keeps path (sightings process sights) := by
  intro e he
  obtain ⟨sight, -, rfl⟩ := List.mem_map.mp he
  exact not_false

theorem keeps_parting (process : Nat) (sights : List Sight) (status : Option ExitStatus) :
    Keeps path (parting process sights status) := by
  refine (keeps_sightings process sights).append ?_
  cases status with
  | none => exact .cons not_false (.cons not_false (.cons not_false (.nil path)))
  | some status => exact .nil path

theorem keeps_revocation (granted : Bool) : Keeps path (revocation granted) := by
  cases granted with
  | false => exact .nil path
  | true => exact .cons not_false (.nil path)

/-- Closing a session leaves its artifact unless it could not be created. -/
theorem leaves_closing (granted : Bool) : Leaves path (closing path (.ok ()) granted) :=
  .shown .touched ((keeps_revocation granted).append (.cons not_false (.nil path)))

end Pieces

namespace Pass

variable {settings : Settings} {unit : Workload} {input : Payload} {r : PassResult}
variable {c : List Exchange}

/-- What an attached pass lists is there, unless the pass succeeded and its artifact could not
be created. -/
theorem AttachedCourse.leaves {granularity : Granularity} {asked : Except Failure Session}
    (h : AttachedCourse settings unit input granularity asked r c) :
    (∀ path ∈ r.artifacts, Leaves path c) ∨
      r.success = true ∧
        ∃ e, ⟨.touch (attachedArtifact settings unit granularity), .error e⟩ ∈ c := by
  cases h with
  | unattached pid e before left attaching =>
      refine Or.inl fun path listed => ?_
      cases left with
      | false => cases listed
      | true =>
          obtain rfl := List.mem_singleton.mp listed
          exact Leaves.after before (.shown .seen (.nil _))
  | stopped pid session process window before loaded closed sent sights status touched attaching
      observing seen =>
      cases attaching with
      | active permission _ watched opened watching =>
          obtain ⟨⟨⟩, ⟨⟩⟩ := observing
          cases touched with
          | ok _ =>
              refine Or.inl fun path listed => ?_
              obtain rfl := List.mem_singleton.mp listed
              refine Leaves.after _ (.later (.later (.later (.later ?_))))
              exact Leaves.after _ (leaves_closing _)
          | error e =>
              refine Or.inr ⟨?_, e, ?_⟩
              · cases loaded <;> rfl
              · simp [closing]

namespace SpawnJob

variable {job : SpawnJob} {artifacts : List String} {first : Option RunOutput}
variable {left : List Granularity} {result : Except Failure PassResult}

theorem RunsCourse.keeps (h : job.RunsCourse artifacts first left result c) (path : String) :
    Keeps path c := by
  induction h with
  | finished => exact .cons not_false (.nil path)
  | refused => exact .cons not_false (.nil path)
  | expired =>
      exact .cons not_false ((keeps_parting _ _ _).append
        (.cons not_false (.cons not_false (.nil path))))
  | unlisted =>
      exact .cons not_false ((keeps_parting _ _ _).append (.cons not_false (.nil path)))
  | listed _ _ _ _ _ _ _ _ _ _ _ ih =>
      exact .cons not_false ((keeps_parting _ _ _).append (.cons not_false ih))

/-- What is listed after the runs that are left was listed before, or is the artifact of one
of them and is there. -/
theorem RunsCourse.leaves (h : job.RunsCourse artifacts first left result c)
    (hr : result = .ok r) :
    ∀ path ∈ r.artifacts,
      path ∈ artifacts ∨ path ∈ left.map job.artifact ∧ Leaves path c := by
  induction h with
  | finished artifacts first closed =>
      cases hr
      intro path listed
      cases first <;> exact Or.inl listed
  | refused => cases hr
  | unlisted => cases hr
  | expired artifacts first granularity rest process sights left closed seen =>
      cases hr
      intro path listed
      cases left with
      | false => exact Or.inl listed
      | true =>
          rcases List.mem_append.mp listed with before | last
          · exact Or.inl before
          · obtain rfl := List.mem_singleton.mp last
            have leaves : Leaves (job.artifact granularity)
                [⟨.exists_ (job.artifact granularity), true⟩, ⟨.wallClock, closed⟩] :=
              .shown .seen (.cons not_false (.nil _))
            exact Or.inr ⟨.head _, .later (Leaves.after _ leaves)⟩
  | listed artifacts first granularity rest process sights run result after seen more ih =>
      intro path listed
      rcases ih hr path listed with before | ⟨among, leaves⟩
      · rcases List.mem_append.mp before with before | last
        · exact Or.inl before
        · obtain rfl := List.mem_singleton.mp last
          have leaves := Leaves.shown .touched (more.keeps (job.artifact granularity))
          exact Or.inr ⟨.head _, .later (Leaves.after _ leaves)⟩
      · exact Or.inr ⟨.tail _ among, .later (Leaves.after _ (.later leaves))⟩

end SpawnJob

/-- What a pass in fresh processes lists is there. Its script goes last and takes nothing
with it, as no artifact has the name of a script. -/
theorem SpawnedCourse.leaves (h : SpawnedCourse settings unit input r c)
    (named : ∀ directory script, ⟨.createScript directory, .ok script⟩ ∈ c →
      ∃ stem, script = stem ++ ".json") :
    ∀ path ∈ r.artifacts, Leaves path c := by
  cases h with
  | uncreated => exact nofun
  | unwritten => exact nofun
  | uncommanded => exact nofun
  | ran script interpreter opened result runs removed ran =>
      cases result with
      | error e => exact nofun
      | ok r =>
          intro path listed
          obtain ⟨stem, rfl⟩ := named _ _ (.head _)
          rcases ran.leaves rfl path listed with before | ⟨among, leaves⟩
          · cases before
          · obtain ⟨granularity, -, rfl⟩ := List.mem_map.mp among
            refine .later (.later (.later (leaves.append (.cons ?_ (.nil _)))))
            intro same
            exact Artifact.path_ne_script _ _ _ _ stem same.symm

variable (settings : Settings) (unit : Workload) (input : Payload)

/-- On a host that answers honestly, all artifacts that are listed are there when a pass
returns, except that of an attached pass which succeeded although it could not be created. -/
theorem listed_present {σ : Type} {host : Host σ} {present : σ → String → Prop}
    (honest : host.Honest present) (s : σ) :
    (let ran := (runSpawned settings unit input).run host s
      ∀ path ∈ ran.1.artifacts, present ran.2 path) ∧
    ∀ granularity,
      let pass := runAttached settings unit input granularity
      let ran := pass.run host s
      let artifact := Artifact.path settings.outputDir .attach granularity unit.name
      (∀ path ∈ ran.1.artifacts, present ran.2 path) ∨
        ran.1.success = true ∧ ∃ e, ⟨.touch artifact, .error e⟩ ∈ pass.log host s := by
  constructor
  · intro ran path listed
    have going := takes_runSpawned settings unit input σ host s
    refine Program.present_of_leaves honest (Leaves.of_course (going.leaves ?_ path listed))
    intro directory script created
    obtain ⟨s', answered⟩ := Program.exists_state_of_mem_log (mem_course.mp created).1
    exact honest.script answered.symm
  · intro granularity pass ran artifact
    rcases (attachedCourse_run settings unit input granularity host s).leaves with
      leaves | ⟨success, e, refused⟩
    · exact Or.inl fun path listed =>
        Program.present_of_leaves honest (Leaves.of_course (leaves path listed))
    · exact Or.inr ⟨success, e, (mem_course.mp refused).1⟩

/-- A host that has files, and that refuses to create any if it is not `writable`. The collector
ends at once if it starts a process, and never by itself if it is attached. -/
def disk (writable : Bool) : Host (List String)
  | files, .ownPid => (1, files)
  | files, .ownCommand => (.ok "program", files)
  | files, .grantTracing => (true, files)
  | files, .revokeTracing => ((), files)
  | files, .tracerOf _ => (none, files)
  | files, .start command => (.ok (if command.collectsOutput then 3 else 2), files)
  | files, .look process => (if process = 3 then .ended (.exited 0) else .running, files)
  | files, .interrupt _ => (true, files)
  | files, .killGroup _ => ((), files)
  | files, .kill _ => ((), files)
  | files, .reap _ => ((), files)
  | files, .collect _ _ => ("", files)
  | files, .clock => (⟨0⟩, files)
  | files, .wallClock => (0, files)
  | files, .sleep _ => ((), files)
  | files, .exists_ path => (files.contains path, files)
  | files, .touch path => if writable then (.ok (), path :: files) else (.error .noSuchFile, files)
  | files, .makeDirectory _ => (.error .permissionDenied, files)
  | files, .readText _ => (.error .noSuchFile, files)
  | files, .survey path => (.error (path, .noSuchFile), files)
  | files, .createScript directory =>
      (.ok (directory ++ "/script.json"), (directory ++ "/script.json") :: files)
  | files, .writeScript _ _ => (.ok (), files)
  | files, .removeScript path => (.ok (), files.filter (· ≠ path))
  | files, .load _ _ => (.ok .null, files)
  | files, .flushLoaded => ((), files)
  | files, .write _ => (.ok (), files)
  | files, .flush => (.ok (), files)
  | files, .complain _ => ((), files)
  | files, .note _ => ((), files)

theorem disk_honest (writable : Bool) :
    (disk writable).Honest fun files path => path ∈ files where
  shown {files r path} shows := by
    generalize ha : (disk writable files r).1 = a at shows
    cases shows with
    | touched =>
        cases writable with
        | true => exact .head _
        | false => cases ha
    | seen => exact List.contains_iff_mem.mp ha
  kept {files r path} there harmless := by
    cases r with
    | touch touched =>
        cases writable with
        | true => exact .tail _ there
        | false => exact there
    | createScript directory => exact .tail _ there
    | removeScript removed =>
        have other : path ≠ removed := fun same => harmless same.symm
        exact List.mem_filter.mpr ⟨there, decide_eq_true other⟩
    | _ => exact there
  script {files directory script} created := by
    cases created
    exact ⟨directory ++ "/script", by simp [String.append_assoc]⟩

/-- Settings with which little is waited for. -/
def brief : Settings :=
  { Settings.standard with
    interpreter := ["sh"], outputDir := "out", readiness := .settle, stopTimeoutMs := 1 }

/-- A unit in the usual place. -/
def sample : Workload := ⟨"w", "c", "b/c/w/native/function.so", "b/c/w/input.json"⟩

theorem listed_present_disk :
    let ran := (runSpawned brief sample default).run (disk true) []
    (disk true).Honest (fun files path => path ∈ files) ∧ ran.1.artifacts.length = 2 ∧
      ∀ path ∈ ran.1.artifacts, path ∈ ran.2 :=
  ⟨disk_honest true, by decide, (listed_present brief sample default (disk_honest true) []).1⟩

/-- An attached pass succeeds and lists an artifact that is not there when nothing can be
created in the directory for artifacts. -/
theorem listed_absent_disk :
    let ran := (runAttached brief sample default .full).run (disk false) []
    (disk false).Honest (fun files path => path ∈ files) ∧ ran.1.success = true ∧
      ∃ path ∈ ran.1.artifacts, path ∉ ran.2 :=
  ⟨disk_honest false, by decide, by decide⟩

end Pass

end SyscallProfiler
