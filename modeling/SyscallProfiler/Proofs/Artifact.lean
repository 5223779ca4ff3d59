import SyscallProfiler.Artifact
import SyscallProfiler.Proofs.Files.Path

/-!
# Artifacts are told apart by their names

The file name of an artifact says what the artifact is of. It begins with one of four texts, none
of which begins with another, so there is only one way to read it, whatever underscores and dots
there are in the name of the workload. Paths keep artifacts apart as file names do, because each of
them is the path of an entry of the directory for artifacts.
-/

namespace SyscallProfiler.Artifact

/-! ## File names -/

/-- What stands before the name of the workload in a file name. -/
def opening (reach : Reach) (granularity : Granularity) : String :=
  stem reach ++ "_" ++ granularity.name ++ "_"

theorem eq_of_opening_begins {reach reach' : Reach} {granularity granularity' : Granularity}
    (h : (opening reach granularity).toList <+: (opening reach' granularity').toList) :
    reach = reach' ∧ granularity = granularity' := by
  revert h
  cases reach <;> cases granularity <;> cases reach' <;> cases granularity' <;> decide

/-- What an artifact is of. -/
structure Subject where
  reach : Reach
  granularity : Granularity
  workload : String
deriving DecidableEq, Repr

namespace Subject

variable {s t : Subject} {workload : String}

def fileName (s : Subject) : String := Artifact.fileName s.reach s.granularity s.workload

def path (s : Subject) (directory : String) : String :=
  Artifact.path directory s.reach s.granularity s.workload

/-- The name of the workload can be that of a directory. -/
def IsPlain (s : Subject) : Prop := '/' ∉ s.workload.toList

instance (s : Subject) : Decidable s.IsPlain :=
  inferInstanceAs (Decidable ('/' ∉ s.workload.toList))

theorem fileName_eq (s : Subject) :
    s.fileName = opening s.reach s.granularity ++ (s.workload ++ ".txt") :=
  String.append_assoc

theorem fileName_inj : s.fileName = t.fileName ↔ s = t := by
  refine ⟨fun same => ?_, congrArg fileName⟩
  have opens (s : Subject) : (opening s.reach s.granularity).toList <+: s.fileName.toList := by
    rw [fileName_eq, String.toList_append]
    exact List.prefix_append ..
  -- Of two texts that the same name begins with, one begins with the other.
  have opened : s.reach = t.reach ∧ s.granularity = t.granularity := by
    rcases List.prefix_or_prefix_of_prefix (same ▸ opens s) (opens t) with before | before
    · exact eq_of_opening_begins before
    · exact (eq_of_opening_begins before).imp Eq.symm Eq.symm
  rw [fileName_eq, fileName_eq, opened.1, opened.2, String.append_right_inj,
    String.append_left_inj] at same
  cases s
  cases t
  exact Subject.mk.injEq .. ▸ ⟨opened.1, opened.2, same⟩

theorem getLast?_fileName (s : Subject) : s.fileName.toList.getLast? = some 't' := by
  simp [fileName_eq, List.getLast?_append]

theorem isStep_fileName (s : Subject) : Path.isStep s.fileName = true := by
  rw [← Bool.not_eq_false, Path.isStep_eq_false_iff]
  have last := s.getLast?_fileName
  rintro (same | same) <;> simp [same] at last

theorem fileName_ne_up (s : Subject) : s.fileName ≠ ".." := by
  have last := s.getLast?_fileName
  intro same
  simp [same] at last

theorem slash_notMem_fileName (plain : s.IsPlain) : '/' ∉ s.fileName.toList := by
  have opening : '/' ∉ (opening s.reach s.granularity).toList := by
    cases s.reach <;> cases s.granularity <;> decide
  have workload : '/' ∉ s.workload.toList := plain
  simp [fileName_eq, opening, workload]

/-! ## Paths -/

theorem isEntryOf_path (directory : String) (plain : s.IsPlain) :
    Path.IsEntryOf directory s.fileName (s.path directory) :=
  Path.isEntryOf_join directory (slash_notMem_fileName plain) s.isStep_fileName

theorem eq_of_names_path_eq {directory : String} (hs : s.IsPlain) (ht : t.IsPlain)
    (same : Path.names (s.path directory) = Path.names (t.path directory)) : s = t := by
  rw [(isEntryOf_path directory hs).names_eq, (isEntryOf_path directory ht).names_eq] at same
  have last := List.append_cancel_left same
  exact fileName_inj.mp (List.cons.inj last).1

/-! ## Artifacts of workloads -/

/-- What the artifacts of the three passes over a workload are of, in the order in which they are
made. -/
def ofRun (workload : String) : List Subject :=
  [⟨.attach, .summary, workload⟩, ⟨.attach, .full, workload⟩,
    ⟨.spawn, .summary, workload⟩, ⟨.spawn, .full, workload⟩]

theorem workload_eq_of_mem (h : s ∈ ofRun workload) : s.workload = workload := by
  simp only [ofRun, List.mem_cons, List.not_mem_nil, or_false] at h
  rcases h with rfl | rfl | rfl | rfl <;> rfl

theorem nodup_ofRun (workload : String) : (ofRun workload).Nodup := by
  simp [ofRun]

theorem nodup_flatMap_ofRun {workloads : List String} (distinct : workloads.Nodup) :
    (workloads.flatMap ofRun).Nodup := by
  refine List.pairwise_flatMap.mpr ⟨fun workload _ => nodup_ofRun workload, distinct.imp ?_⟩
  rintro v w other s hs t ht rfl
  exact other ((workload_eq_of_mem hs).symm.trans (workload_eq_of_mem ht))

/-- No two artifacts of workloads with different names are at one place. -/
theorem nodup_names_path (directory : String) {workloads : List String} (distinct : workloads.Nodup)
    (plain : ∀ workload ∈ workloads, '/' ∉ workload.toList) :
    ((workloads.flatMap ofRun).map fun s => Path.names (s.path directory)).Nodup := by
  have plainSubjects : ∀ s ∈ workloads.flatMap ofRun, s.IsPlain := by
    intro s hs
    obtain ⟨workload, among, made⟩ := List.mem_flatMap.mp hs
    rw [IsPlain, workload_eq_of_mem made]
    exact plain workload among
  refine List.pairwise_map.mpr ((nodup_flatMap_ofRun distinct).imp_of_mem ?_)
  intro s t hs ht other same
  exact other (eq_of_names_path_eq (plainSubjects s hs) (plainSubjects t ht) same)

end Subject

end SyscallProfiler.Artifact
