import SyscallProfiler.Proofs.Host.Course

/-!
# What a log shows to be there

A file is there when the host says so, or when it accepts to create it. From then on it stays
until something may remove it. A program asks for few such things, so its log shows of some
paths that there is something at them in the end, on every host that answers honestly.

Where nothing is started, nothing comes to be either. A log of requests that create nothing
leaves the files as they were, on every host that lets nobody else create any.
-/

namespace SyscallProfiler

/-- A request that may take away what is at a path. Loaded code may do anything. -/
def Request.MayRemove (path : String) : Request → Prop
  | .removeScript removed => removed = path
  | .load _ _ => True
  | _ => False

theorem Request.not_mayRemove_of_isAside {r : Request} (h : r.isAside = true) (path : String) :
    ¬r.MayRemove path := by
  cases r <;> first | exact not_false | cases h

/-- An exchange that shows that there is something at a path. -/
inductive Exchange.Shows (path : String) : Exchange → Prop where
  | touched : Shows path ⟨.touch path, .ok ()⟩
  | seen : Shows path ⟨.exists_ path, true⟩

/-- A host whose answers about files are true. What it has accepted to create or says to
be there is there, and is there until a request may remove it. Scripts are told from other
files by their names. -/
structure Host.Honest {σ : Type} (host : Host σ) (present : σ → String → Prop) : Prop where
  shown {s : σ} {r : Request} {path : String} (shows : Exchange.Shows path ⟨r, (host s r).1⟩) :
    present (host s r).2 path
  kept {s : σ} {r : Request} {path : String} (there : present s path)
    (harmless : ¬r.MayRemove path) : present (host s r).2 path
  script {s : σ} {directory script : String}
    (created : (host s (.createScript directory)).1 = .ok script) :
    ∃ stem, script = stem ++ ".json"

/-- Nothing in a log may remove what is at a path. -/
def Keeps (path : String) (log : List Exchange) : Prop :=
  ∀ e ∈ log, ¬e.request.MayRemove path

namespace Keeps

variable {path : String} {log more : List Exchange} {e : Exchange}

theorem nil (path : String) : Keeps path [] := nofun

theorem cons (harmless : ¬e.request.MayRemove path) (rest : Keeps path log) :
    Keeps path (e :: log) :=
  List.forall_mem_cons.mpr ⟨harmless, rest⟩

theorem append (first : Keeps path log) (second : Keeps path more) : Keeps path (log ++ more) :=
  List.forall_mem_append.mpr ⟨first, second⟩

theorem of_course (h : Keeps path (course log)) : Keeps path log := by
  intro e he
  cases aside : e.request.isAside with
  | true => exact Request.not_mayRemove_of_isAside aside path
  | false => exact h e (mem_course.mpr ⟨he, aside⟩)

end Keeps

/-- A log that shows that there is something at a path in the end. -/
inductive Leaves (path : String) : List Exchange → Prop where
  | shown {e : Exchange} {log : List Exchange} (shows : e.Shows path) (rest : Keeps path log) :
      Leaves path (e :: log)
  | later {e : Exchange} {log : List Exchange} (rest : Leaves path log) : Leaves path (e :: log)

namespace Leaves

variable {path : String} {log more : List Exchange}

theorem after (before : List Exchange) (h : Leaves path log) : Leaves path (before ++ log) := by
  induction before with
  | nil => exact h
  | cons e before ih => exact .later ih

theorem append (h : Leaves path log) (rest : Keeps path more) : Leaves path (log ++ more) := by
  induction h with
  | shown shows kept => exact .shown shows (kept.append rest)
  | later _ ih => exact .later ih

theorem of_course (h : Leaves path (course log)) : Leaves path log := by
  induction log with
  | nil => cases h
  | cons e log ih =>
      cases aside : e.request.isAside with
      | true =>
          rw [course_cons_of_aside aside] at h
          exact .later (ih h)
      | false =>
          rw [course_cons aside] at h
          cases h with
          | shown shows rest => exact .shown shows rest.of_course
          | later rest => exact .later (ih rest)

end Leaves

/-- An exchange that creates nothing and starts nothing that could. -/
def Exchange.IsIdle : Exchange → Prop
  | ⟨.ownPid, _⟩ | ⟨.grantTracing, _⟩ | ⟨.revokeTracing, _⟩ | ⟨.exists_ _, _⟩ => True
  | ⟨.start _, .error _⟩ => True
  | _ => False

theorem Exchange.IsIdle.not_mayRemove {e : Exchange} (h : e.IsIdle) (path : String) :
    ¬e.request.MayRemove path := by
  obtain ⟨request, answer⟩ := e
  intro removes
  cases request with
  | removeScript removed => exact h.elim
  | load codePath input => exact h.elim
  | _ => exact removes.elim

/-- A log of idle exchanges only. -/
def Idle (log : List Exchange) : Prop := ∀ e ∈ log, e.IsIdle

namespace Idle

variable {log more : List Exchange} {e : Exchange}

theorem nil : Idle [] := nofun

theorem cons (first : e.IsIdle) (rest : Idle log) : Idle (e :: log) :=
  List.forall_mem_cons.mpr ⟨first, rest⟩

theorem append (first : Idle log) (second : Idle more) : Idle (log ++ more) :=
  List.forall_mem_append.mpr ⟨first, second⟩

theorem keeps (h : Idle log) (path : String) : Keeps path log := by
  intro e he
  exact (h e he).not_mayRemove path

end Idle

/-- An honest host that finds what is there, and where nothing comes to be while nothing is
created and nothing is started. -/
structure Host.Truthful {σ : Type} (host : Host σ) (present : σ → String → Prop) : Prop
    extends host.Honest present where
  found {s : σ} {path : String} (there : present s path) : (host s (.exists_ path)).1 = true
  vacant {s : σ} {r : Request} {path : String} (absent : ¬present s path)
    (idle : Exchange.IsIdle ⟨r, (host s r).1⟩) : ¬present (host s r).2 path

/-- Such a host says that something is there exactly if it is. -/
theorem Host.Truthful.exists_iff {σ : Type} {host : Host σ} {present : σ → String → Prop}
    (truthful : host.Truthful present) {s : σ} {path : String} :
    (host s (.exists_ path)).1 = true ↔ present s path := by
  constructor
  · intro seen
    have shows : Exchange.Shows path ⟨.exists_ path, (host s (.exists_ path)).1⟩ := by
      rw [seen]
      exact .seen
    refine Classical.byContradiction fun absent => ?_
    exact truthful.vacant (r := .exists_ path) absent trivial (truthful.shown shows)
  · exact truthful.found

namespace Program

variable {α σ : Type} {host : Host σ} {present : σ → String → Prop} {path : String}

theorem present_of_keeps (honest : host.Honest present) {p : Program α} {s : σ}
    (there : present s path) (harmless : Keeps path (p.log host s)) :
    present (p.run host s).2 path := by
  induction p generalizing s with
  | done a => exact there
  | ask r next ih =>
      rw [log_ask, Keeps, List.forall_mem_cons] at harmless
      exact ih _ (honest.kept there harmless.1) harmless.2

/-- What a log shows to be there in the end is there when the program is done. -/
theorem present_of_leaves (honest : host.Honest present) {p : Program α} {s : σ}
    (leaves : Leaves path (p.log host s)) : present (p.run host s).2 path := by
  induction p generalizing s with
  | done a => cases leaves
  | ask r next ih =>
      rw [log_ask] at leaves
      rw [run_ask]
      cases leaves with
      | shown shows rest => exact present_of_keeps honest (honest.shown shows) rest
      | later rest => exact ih _ rest

theorem absent_of_idle (truthful : host.Truthful present) {p : Program α} {s : σ}
    (absent : ¬present s path) (idle : Idle (p.log host s)) : ¬present (p.run host s).2 path := by
  induction p generalizing s with
  | done a => exact absent
  | ask r next ih =>
      rw [log_ask, Idle, List.forall_mem_cons] at idle
      exact ih _ (truthful.vacant absent idle.1) idle.2

/-- A program that is idle throughout makes no difference to what is there. -/
theorem present_iff_of_idle (truthful : host.Truthful present) {p : Program α} {s : σ}
    (idle : Idle (p.log host s)) : present (p.run host s).2 path ↔ present s path := by
  constructor
  · intro there
    refine Classical.byContradiction fun absent => ?_
    exact absent_of_idle truthful absent idle there
  · intro there
    exact present_of_keeps truthful.toHonest there (idle.keeps path)

end Program

end SyscallProfiler
