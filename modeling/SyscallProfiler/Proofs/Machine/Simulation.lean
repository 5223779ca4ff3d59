import SyscallProfiler.Machine.Simulation
import SyscallProfiler.Proofs.Campaign.Shape
import SyscallProfiler.Proofs.Files.Creation
import SyscallProfiler.Proofs.Pass.Unattached

/-!
# A machine as a truthful host

The processes on a machine may do with its files whatever they like, so not every machine is an
honest host. But what a machine says of its files is true, and it changes none of them by itself. A
program that runs while no file disappears cannot tell the machine from a host that is truthful in
all its states, and what is proved of such hosts holds of the machine as well.
-/

namespace SyscallProfiler

/-! ## Hosts that give up -/

instance (r : Request) : Inhabited r.Answer := by
  cases r <;> exact inferInstance

namespace Host

variable {α σ : Type} {host : Host σ} {may : σ → Request → Prop} {p : Program α} {s : σ}

open Classical in
/-- A host that answers as another one as long as it may, and gives up otherwise: then it refuses,
and nothing happens. -/
noncomputable def restrict (host : Host σ) (may : σ → Request → Prop) : Host σ :=
  fun s r => if may s r then host s r else (default, s)

/-- In a run on the host, everything may be answered. -/
def Along (host : Host σ) (may : σ → Request → Prop) : Program α → σ → Prop
  | .done _, _ => True
  | .ask r next, s => may s r ∧ Along host may (next (host s r).1) (host s r).2

theorem restrict_of_may {r : Request} (h : may s r) : host.restrict may s r = host s r :=
  if_pos h

theorem restrict_of_not_may {r : Request} (h : ¬may s r) :
    host.restrict may s r = (default, s) :=
  if_neg h

theorem run_restrict (along : host.Along may p s) :
    p.run (host.restrict may) s = p.run host s := by
  induction p generalizing s with
  | done a => rfl
  | ask r next ih =>
      rw [Program.run_ask, Program.run_ask, restrict_of_may along.1]
      exact ih _ along.2

theorem log_restrict (along : host.Along may p s) :
    p.log (host.restrict may) s = p.log host s := by
  induction p generalizing s with
  | done a => rfl
  | ask r next ih =>
      rw [Program.log_ask, Program.log_ask, restrict_of_may along.1, ih _ along.2]

end Host

namespace Simulation

variable {α : Type} {p : Program α} {s : Simulation} {r : Request} {path : String}

/-- Whether the directory is there in which the program works. -/
def IsPlaced (s : Simulation) : Prop := s.machine.files.HasDirectory s.directory

/-- Whether the program finds something at a path. -/
def Has (s : Simulation) (path : String) : Prop :=
  s.IsPlaced ∧ s.machine.files.has s.directory path = true

/-- A machine that has just been set up has the directory in which the program works. -/
theorem isPlaced_standard (code : CodeSource) : (ofMachine .standard code).IsPlaced := ⟨[], rfl⟩

/-- Nothing disappears while a request is answered but what the request itself may remove. -/
def Spares (s : Simulation) (r : Request) : Prop :=
  s.IsPlaced ∧ ∀ path, ¬r.MayRemove path → s.Has path → (s.answer r).2.Has path

theorem answer_fst (s : Simulation) (r : Request) : (s.answer r).1 = (s.reply r).1 := rfl

/-! ## What the machine says of its files -/

/-- A file that is touched is there, and so is a file that is seen. -/
theorem has_of_shows (placed : s.IsPlaced) (shows : Exchange.Shows path ⟨r, (s.answer r).1⟩) :
    (s.answer r).2.Has path := by
  generalize ha : (s.answer r).1 = a at shows
  cases shows with
  | seen => exact ⟨placed, ha⟩
  | touched =>
      simp only [answer, reply, touch] at ha ⊢
      cases created : s.machine.files.create s.directory path with
      | error e =>
          rw [created] at ha
          cases ha
      | ok made =>
          obtain ⟨here, grows⟩ := Files.create_spec placed created
          exact ⟨placed.grow grows, here⟩

theorem start_of_refused {c : Command} (refused : ∀ process, (s.start c).1 ≠ .ok process) :
    (s.start c).2 = s := by
  rw [start] at refused ⊢
  dsimp only at refused ⊢
  split at refused
  · rename_i h
    rw [if_pos h]
  · rename_i h
    rw [if_neg h]
    split at refused
    · rfl
    · exact absurd rfl (refused _)

/-- A script is told by its name. -/
theorem exists_script {directory script : String}
    (created : (s.createScript directory).1 = .ok script) : ∃ stem, script = stem ++ ".json" := by
  obtain ⟨before, ending⟩ := Path.exists_join_eq_append
    (Path.join (Machine.absolute s.directory) directory)
    ("syscost_invoke_" ++ String.ofList (freshLetters s.nextName 6) ++ ".json")
  rw [← String.append_assoc] at ending
  delta createScript at created
  dsimp only at created
  rw [ending] at created
  split at created
  · cases created
  · exact ⟨_, (Except.ok.inj created).symm⟩

/-- An idle request takes a moment, and that is all. -/
theorem answer_of_isIdle (idle : Exchange.IsIdle ⟨r, (s.answer r).1⟩) :
    (s.answer r).2 = s.moment := by
  cases r with
  | ownPid => rfl
  | grantTracing => rfl
  | revokeTracing => rfl
  | exists_ path => rfl
  | start c =>
      have refused : ∀ process, (s.start c).1 ≠ .ok process := by
        intro process started
        rw [show (s.answer (.start c)).1 = .ok process from started] at idle
        exact idle
      exact congrArg moment (start_of_refused refused)
  | _ => exact idle.elim

/-- As long as nothing disappears, the machine is a truthful host. -/
theorem truthful : (Host.restrict answer Spares).Truthful Has where
  shown {s r path} shows := by
    by_cases may : s.Spares r
    · rw [Host.restrict_of_may may] at shows ⊢
      exact has_of_shows may.1 shows
    · rw [Host.restrict_of_not_may may] at shows
      cases r <;> cases shows
  kept {s r path} there harmless := by
    by_cases may : s.Spares r
    · rw [Host.restrict_of_may may]
      exact may.2 path harmless there
    · rw [Host.restrict_of_not_may may]
      exact there
  script {s directory script} created := by
    by_cases may : s.Spares (.createScript directory)
    · rw [Host.restrict_of_may may] at created
      rw [answer_fst, reply] at created
      exact exists_script created
    · rw [Host.restrict_of_not_may may] at created
      cases created
  found {s path} there := by
    have may : s.Spares (.exists_ path) := ⟨there.1, fun _ _ there => there⟩
    rw [Host.restrict_of_may may]
    exact there.2
  vacant {s r path} absent idle := by
    by_cases may : s.Spares r
    · rw [Host.restrict_of_may may] at idle ⊢
      rw [answer_of_isIdle idle]
      exact absent
    · rw [Host.restrict_of_not_may may]
      exact absent

/-! ## Runs on a machine -/

/-- Whatever a program writes, the machine takes it. -/
theorem accepted (p : Program α) (s : Simulation) : Accepted (p.log answer s) :=
  Campaign.accepted_log (fun _ r => by cases r <;> rfl) p s

/-- What the log of a run shows to be there in the end is there, unless files disappear. -/
theorem has_of_leaves (spared : Host.Along answer Spares p s)
    (leaves : Leaves path (p.log answer s)) : (s.run p).2.Has path := by
  rw [← Host.log_restrict spared] at leaves
  rw [run, ← Host.run_restrict spared]
  exact Program.present_of_leaves truthful.toHonest leaves

/-- An idle request spares everything. -/
theorem spares_of_isIdle (placed : s.IsPlaced) (idle : Exchange.IsIdle ⟨r, (s.answer r).1⟩) :
    s.Spares r ∧ (s.answer r).2.IsPlaced := by
  have moment := answer_of_isIdle idle
  refine ⟨⟨placed, fun path _ there => ?_⟩, ?_⟩
  · rw [moment]
    exact there
  · rw [moment]
    exact placed

/-- So does creating a file, since the files only grow. -/
theorem spares_touch (placed : s.IsPlaced) (path : String) :
    s.Spares (.touch path) ∧ (s.answer (.touch path)).2.IsPlaced := by
  simp only [Spares, answer, reply, touch]
  cases created : s.machine.files.create s.directory path with
  | error e => exact ⟨⟨placed, fun _ _ there => there⟩, placed⟩
  | ok made =>
      obtain ⟨-, grows⟩ := Files.create_spec placed created
      have still := placed.grow grows
      exact ⟨⟨placed, fun _ _ there => ⟨still, Files.has_grow grows there.2⟩⟩, still⟩

/-- Nothing disappears in a run in which nothing is started and files are created at most, the
working directory least of all. -/
theorem along_of_still (placed : s.IsPlaced)
    (still : ∀ e ∈ p.log answer s, e.IsIdle ∨ ∃ path, e.request = .touch path) :
    Host.Along answer Spares p s ∧ (s.run p).2.IsPlaced := by
  induction p generalizing s with
  | done a => exact ⟨trivial, placed⟩
  | ask r next ih =>
      rw [Program.log_ask, List.forall_mem_cons] at still
      obtain ⟨first, rest⟩ := still
      have one : s.Spares r ∧ (s.answer r).2.IsPlaced := by
        rcases first with idle | ⟨path, rfl⟩
        · exact spares_of_isIdle placed idle
        · exact spares_touch placed path
      obtain ⟨later, left⟩ := ih _ one.2 rest
      exact ⟨⟨one.1, later⟩, left⟩

theorem along_of_idle (placed : s.IsPlaced) (idle : Idle (p.log answer s)) :
    Host.Along answer Spares p s ∧ (s.run p).2.IsPlaced :=
  along_of_still placed fun e he => .inl (idle e he)

theorem has_iff_of_idle (placed : s.IsPlaced) (idle : Idle (p.log answer s)) :
    (s.run p).2.Has path ↔ s.Has path := by
  obtain ⟨spared, -⟩ := along_of_idle placed idle
  rw [← Host.log_restrict spared] at idle
  rw [run, ← Host.run_restrict spared]
  exact Program.present_iff_of_idle truthful idle

open Pass in
/-- An attached pass whose collector the machine cannot start lists its artifact exactly if the
machine had a file of that name before. -/
theorem artifacts_of_unstarted (settings : Settings) (unit : Workload) (input : Payload)
    (granularity : Granularity) {e : Failure} (placed : s.IsPlaced)
    (failed : (s.run (askSession settings unit granularity)).1 = .error e)
    (nothing : started ((askSession settings unit granularity).log answer s) = []) :
    let artifact := attachedArtifact settings unit granularity
    (s.run (runAttached settings unit input granularity)).1.artifacts =
      if s.machine.files.has s.directory artifact then [artifact] else [] := by
  intro artifact
  have idle := logs_askSession settings unit granularity _ answer s nothing
  have same : (s.run (askSession settings unit granularity)).2.Has artifact ↔ s.Has artifact :=
    has_iff_of_idle placed idle
  obtain ⟨-, left⟩ := along_of_idle placed idle
  simp only [Has, placed, left, true_and] at same
  have look : (answer (s.run (askSession settings unit granularity)).2 (.exists_ artifact)).1 =
      s.machine.files.has s.directory artifact := by
    rw [answer_fst, reply]
    dsimp only
    rw [Bool.eq_iff_iff, same]
  obtain ⟨listed, -⟩ := run_of_failed input failed
  rw [← look]
  exact listed

end Simulation

end SyscallProfiler
