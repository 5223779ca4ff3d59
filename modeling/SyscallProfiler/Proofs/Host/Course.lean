import SyscallProfiler.Proofs.Host.Log

/-!
# Courses of runs

The course of a run is its log without the asides: requests that only let time pass, or
whose answers show in a later request anyway. What a program does to processes, files and
sessions is in its course. `Takes` says which results and courses a program can have. It
holds on every host or on none, so a function has one such lemma, and its callers are
proved from the lemma and not from the function.
-/

namespace SyscallProfiler

/-- A request that neither starts, ends nor looks at a process, nor sees to a file of a
pass, nor is recorded. -/
def Request.isAside : Request → Bool
  | .ownPid | .ownCommand | .tracerOf _ | .collect _ _ | .clock | .sleep _ => true
  | .readText _ | .survey _ | .flushLoaded | .write _ | .flush | .complain _ => true
  | _ => false

/-- A log without its asides. -/
def course (log : List Exchange) : List Exchange := log.filter fun e => !e.request.isAside

@[simp] theorem course_append (log more : List Exchange) :
    course (log ++ more) = course log ++ course more :=
  List.filter_append ..

theorem course_cons_of_aside {e : Exchange} (h : e.request.isAside = true) (log : List Exchange) :
    course (e :: log) = course log :=
  List.filter_cons_of_neg (by simp [h])

theorem course_cons {e : Exchange} (h : e.request.isAside = false) (log : List Exchange) :
    course (e :: log) = e :: course log :=
  List.filter_cons_of_pos (by simp [h])

/-- What is true of an exchange of a log is read off its course, unless it is an aside. -/
theorem mem_course {e : Exchange} {log : List Exchange} :
    e ∈ course log ↔ e ∈ log ∧ e.request.isAside = false := by
  simp [course, List.mem_filter]

/-- A function of exchanges that says nothing of asides says the same of a log and of its
course. -/
theorem filterMap_course {β : Type} {f : Exchange → Option β}
    (asides : ∀ e, e.request.isAside = true → f e = none) (log : List Exchange) :
    (course log).filterMap f = log.filterMap f := by
  induction log with
  | nil => rfl
  | cons e log ih =>
      cases h : e.request.isAside with
      | true => rw [course_cons_of_aside h, List.filterMap_cons_none (asides e h), ih]
      | false => rw [course_cons h, List.filterMap_cons, List.filterMap_cons, ih]

namespace Exchange

/-- The process of a command that was started. -/
def started? : Exchange → Option Nat
  | ⟨.start _, .ok process⟩ => some process
  | _ => none

@[simp] theorem started?_ok (command : Command) (process : Nat) :
    started? ⟨.start command, .ok process⟩ = some process := rfl

@[simp] theorem started?_error (command : Command) (e : OsError) :
    started? ⟨.start command, .error e⟩ = none := rfl

@[simp] theorem started?_of_ne {r : Request} (h : ∀ command, r ≠ .start command) (a : r.Answer) :
    started? ⟨r, a⟩ = none := by
  cases r with
  | start command => exact absurd rfl (h command)
  | _ => rfl

theorem started?_of_isAside (e : Exchange) (h : e.request.isAside = true) :
    e.started? = none := by
  refine started?_of_ne (fun command start => ?_) e.answer
  rw [start] at h
  cases h

end Exchange

/-- The processes that were started, in order. -/
def started (log : List Exchange) : List Nat := log.filterMap Exchange.started?

theorem started_course (log : List Exchange) : started (course log) = started log := by
  refine filterMap_course (fun e h => e.started?_of_isAside h) log

namespace Program

variable {α β : Type}

/-- Whatever the host, the result and the course of a run satisfy `post`. -/
def Takes (p : Program α) (post : α → List Exchange → Prop) : Prop :=
  ∀ (σ : Type) (host : Host σ) (s : σ), post (p.run host s).1 (course (p.log host s))

namespace Takes

variable {post post' : α → List Exchange → Prop} {r : Request} {next : r.Answer → Program α}

theorem mono {p : Program α} (h : p.Takes post) (imp : ∀ a c, post a c → post' a c) :
    p.Takes post' := by
  intro σ host s
  exact imp _ _ (h σ host s)

theorem of_ran {p : Program α} (h : p.Takes post) {a : α} {log : List Exchange}
    (ran : p.Ran a log) : post a (course log) := by
  obtain ⟨σ, host, s, rfl, rfl⟩ := ran
  exact h σ host s

theorem logs {p : Program α} (h : p.Takes post) : p.Logs fun a log => post a (course log) := h

theorem any (p : Program α) : p.Takes fun _ _ => True := fun _ _ _ => trivial

theorem done {a : α} (h : post a []) : (Program.done a).Takes post := fun _ _ _ => h

/-- A program that asks for something first. What is asked for comes first in the course
unless it is an aside. -/
theorem ask (h : ∀ answer, (next answer).Takes fun a c => post a (course [⟨r, answer⟩] ++ c)) :
    (Program.ask r next).Takes post := by
  intro σ host s
  rw [log_ask, ← List.singleton_append, course_append, run_ask]
  exact h _ σ host _

theorem aside (hr : r.isAside = true) (h : ∀ answer, (next answer).Takes post) :
    ((Program.request r).bind next).Takes post := by
  refine ask fun answer => ?_
  rw [course_cons_of_aside hr]
  exact h answer

theorem request (hr : r.isAside = false)
    (h : ∀ answer, (next answer).Takes fun a c => post a (⟨r, answer⟩ :: c)) :
    ((Program.request r).bind next).Takes post := by
  refine ask fun answer => ?_
  rw [course_cons (e := ⟨r, answer⟩) hr]
  exact h answer

/-- What follows a program adds its course to that of the program. -/
theorem bind {p : Program α} {f : α → Program β} {mid : α → List Exchange → Prop}
    {post : β → List Exchange → Prop} (hp : p.Takes mid)
    (hf : ∀ a c, mid a c → (f a).Takes fun b c' => post b (c ++ c')) :
    (p.bind f).Takes post := by
  intro σ host s
  rw [result_bind, log_bind, course_append]
  exact hf _ _ (hp σ host s) σ host _

/-- A program whose result is made into another one at once. -/
theorem map {p : Program α} {f : α → β} {post : β → List Exchange → Prop}
    (h : p.Takes fun a c => post (f a) c) : (p.bind fun a => .done (f a)).Takes post := by
  refine bind h fun a c reached => done ?_
  rw [List.append_nil]
  exact reached

end Takes

end Program

end SyscallProfiler
