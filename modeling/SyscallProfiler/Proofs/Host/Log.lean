import SyscallProfiler.Host.Program

/-!
# Logs of runs

A run of a program on a host leaves a log: what was asked, in its order, and what was
answered. Statements about a run speak of its log, and an assumption about the
surroundings is an assumption about the answers in it, so that the host may keep any
state and may answer the same request differently at another time.

`Asks` bounds what a program can ask at all. It follows the program and not a run, and
so it holds of the logs of all hosts.
-/

namespace SyscallProfiler

/-- A request together with its answer. -/
structure Exchange where
  request : Request
  answer : request.Answer

/-- A host with states of type `σ`. -/
abbrev Host (σ : Type) := σ → (r : Request) → r.Answer × σ

/-- A request that has no part in what a workload is given: it neither calls loaded code
nor writes a script. -/
def Request.IsPlain : Request → Prop
  | .load _ _ => False
  | .writeScript _ _ => False
  | _ => True

/-- A request that shows neither in the report nor in the stages of a run. -/
def Request.IsSilent : Request → Prop
  | .write _ | .flush | .note (.stage _) => False
  | _ => True

/-- A request that is both plain and silent. -/
def Request.IsInner : Request → Prop
  | .load _ _ | .writeScript _ _ | .write _ | .flush | .note (.stage _) => False
  | _ => True

theorem Request.IsInner.isPlain {r : Request} (h : r.IsInner) : r.IsPlain := by
  cases r with
  | load codePath input => exact h.elim
  | writeScript path text => exact h.elim
  | _ => trivial

theorem Request.IsInner.isSilent {r : Request} (h : r.IsInner) : r.IsSilent := by
  cases r with
  | write text => exact h.elim
  | flush => exact h.elim
  | note what => cases what with
    | session state => trivial
    | stage stage => exact h.elim
  | _ => trivial

namespace Exchange

/-- The code and the input of a call into loaded code. -/
def call? : Exchange → Option (String × Payload)
  | ⟨.load codePath input, _⟩ => some (codePath, input)
  | _ => none

/-- The text that was to be stored as a script. -/
def script? : Exchange → Option String
  | ⟨.writeScript _ text, _⟩ => some text
  | _ => none

/-- The text that was accepted for the report. -/
def written? : Exchange → Option String
  | ⟨.write text, .ok _⟩ => some text
  | _ => none

/-- The stage that a run goes on to. -/
def stage? : Exchange → Option Stage
  | ⟨.note (.stage stage), _⟩ => some stage
  | _ => none

/-- What the wall clock shows. -/
def reading? : Exchange → Option Nat
  | ⟨.wallClock, now⟩ => some now
  | _ => none

/-- Why something could not be written or passed on. -/
def refusal? : Exchange → Option WriteError
  | ⟨.write _, .error e⟩ => some e
  | ⟨.flush, .error e⟩ => some e
  | _ => none

theorem call?_of_isPlain {e : Exchange} (h : e.request.IsPlain) : e.call? = none := by
  obtain ⟨request, answer⟩ := e
  cases request with
  | load codePath input => exact h.elim
  | _ => rfl

theorem script?_of_isPlain {e : Exchange} (h : e.request.IsPlain) : e.script? = none := by
  obtain ⟨request, answer⟩ := e
  cases request with
  | writeScript path text => exact h.elim
  | _ => rfl

theorem written?_of_isSilent {e : Exchange} (h : e.request.IsSilent) : e.written? = none := by
  obtain ⟨request, answer⟩ := e
  cases request with
  | write text => exact h.elim
  | _ => rfl

theorem stage?_of_isSilent {e : Exchange} (h : e.request.IsSilent) : e.stage? = none := by
  obtain ⟨request, answer⟩ := e
  cases request with
  | note what => cases what with
    | session state => rfl
    | stage stage => exact h.elim
  | _ => rfl

end Exchange

/-- The calls into loaded code, in order. -/
def calls (log : List Exchange) : List (String × Payload) := log.filterMap Exchange.call?

/-- The texts that were to be stored as scripts, in order. -/
def scripts (log : List Exchange) : List String := log.filterMap Exchange.script?

/-- All that was accepted for the report. -/
def written (log : List Exchange) : String := String.join (log.filterMap Exchange.written?)

/-- The stages that a run goes on to, in order. -/
def stages (log : List Exchange) : List Stage := log.filterMap Exchange.stage?

/-- What the wall clock showed whenever it was read. -/
def readings (log : List Exchange) : List Nat := log.filterMap Exchange.reading?

/-- All that was written was accepted and passed on. -/
def Accepted (log : List Exchange) : Prop := ∀ e ∈ log, e.refusal? = none

theorem stages_append (log more : List Exchange) :
    stages (log ++ more) = stages log ++ stages more :=
  List.filterMap_append

theorem written_append (log more : List Exchange) :
    written (log ++ more) = written log ++ written more := by
  rw [written, List.filterMap_append, String.join_append]
  rfl

theorem readings_append (log more : List Exchange) :
    readings (log ++ more) = readings log ++ readings more :=
  List.filterMap_append

theorem calls_append (log more : List Exchange) : calls (log ++ more) = calls log ++ calls more :=
  List.filterMap_append

theorem scripts_append (log more : List Exchange) :
    scripts (log ++ more) = scripts log ++ scripts more :=
  List.filterMap_append

@[simp] theorem calls_load (codePath : String) (input : Payload) (a : Except String Json)
    (log : List Exchange) :
    calls (⟨.load codePath input, a⟩ :: log) = (codePath, input) :: calls log := rfl

namespace Program

variable {α β σ : Type}

/-- What a run asks of its host and is answered, in order. -/
def log (host : Host σ) : Program α → σ → List Exchange
  | .done _, _ => []
  | .ask r next, s => ⟨r, (host s r).1⟩ :: (next (host s r).1).log host (host s r).2

@[simp] theorem log_done (host : Host σ) (a : α) (s : σ) : (done a).log host s = [] := rfl

@[simp] theorem log_ask (host : Host σ) (r : Request) (next : r.Answer → Program α) (s : σ) :
    (ask r next).log host s = ⟨r, (host s r).1⟩ :: (next (host s r).1).log host (host s r).2 := rfl

@[simp] theorem run_ask (host : Host σ) (r : Request) (next : r.Answer → Program α) (s : σ) :
    (ask r next).run host s = (next (host s r).1).run host (host s r).2 := rfl

/-- What follows a request goes on from its answer. -/
theorem run_request_bind (host : Host σ) (r : Request) (f : r.Answer → Program α) (s : σ) :
    ((request r).bind f).run host s = (f (host s r).1).run host (host s r).2 := rfl

theorem log_request_bind (host : Host σ) (r : Request) (f : r.Answer → Program α) (s : σ) :
    ((request r).bind f).log host s =
      ⟨r, (host s r).1⟩ :: (f (host s r).1).log host (host s r).2 := rfl

/-- What follows a program goes on from the state in which the program left the host. -/
theorem log_bind (host : Host σ) (p : Program α) (f : α → Program β) (s : σ) :
    (p.bind f).log host s =
      p.log host s ++ (f (p.run host s).1).log host (p.run host s).2 := by
  induction p generalizing s with
  | done a => rfl
  | ask r next ih => simp [ih]

/-- The result of two programs in a row is that of the second, run from where the first
one left the host. -/
theorem result_bind (host : Host σ) (p : Program α) (f : α → Program β) (s : σ) :
    ((p.bind f).run host s).1 = ((f (p.run host s).1).run host (p.run host s).2).1 := by
  rw [run_bind]

/-- What stands in a log was answered by the host in some state. -/
theorem exists_state_of_mem_log {p : Program α} {host : Host σ} {s : σ} {r : Request}
    {a : r.Answer} (h : ⟨r, a⟩ ∈ p.log host s) : ∃ s', a = (host s' r).1 := by
  induction p generalizing s with
  | done _ => cases h
  | ask r' next ih =>
      rcases List.mem_cons.mp h with e | h
      · cases e
        exact ⟨s, rfl⟩
      · exact ih _ h

/-- Whatever it is answered, the program makes no request but those that `P` allows. -/
def Asks (P : Request → Prop) : Program α → Prop
  | .done _ => True
  | .ask r next => P r ∧ ∀ a, (next a).Asks P

namespace Asks

variable {P : Request → Prop}

theorem request {r : Request} (hr : P r) : (Program.request r).Asks P :=
  ⟨hr, fun _ => trivial⟩

theorem mono {Q : Request → Prop} {p : Program α} (hp : p.Asks P) (imp : ∀ r, P r → Q r) :
    p.Asks Q := by
  induction p with
  | done a => trivial
  | ask r next ih => exact ⟨imp r hp.1, fun a => ih a (hp.2 a)⟩

theorem bind {p : Program α} {f : α → Program β} (hp : p.Asks P) (hf : ∀ a, (f a).Asks P) :
    (p.bind f).Asks P := by
  induction p with
  | done a => exact hf a
  | ask r next ih => exact ⟨hp.1, fun a => ih a (hp.2 a)⟩

theorem request_bind {r : Request} {f : r.Answer → Program β} (hr : P r)
    (hf : ∀ a, (f a).Asks P) : ((Program.request r).bind f).Asks P :=
  bind (request hr) hf

/-- No log of the program holds any other request, whatever the host. -/
theorem of_mem_log {p : Program α} (hp : p.Asks P) (host : Host σ) (s : σ) :
    ∀ e ∈ p.log host s, P e.request := by
  induction p generalizing s with
  | done a => simp
  | ask r next ih =>
      rw [log_ask, List.forall_mem_cons]
      exact ⟨hp.1, ih _ (hp.2 _) _⟩

/-- A program that makes plain requests only calls no loaded code. -/
theorem calls_eq_nil {p : Program α} (hp : p.Asks Request.IsPlain) (host : Host σ) (s : σ) :
    calls (p.log host s) = [] := by
  rw [calls, List.filterMap_eq_nil_iff]
  intro e he
  exact Exchange.call?_of_isPlain (hp.of_mem_log host s e he)

/-- A program that makes plain requests only stores no script. -/
theorem scripts_eq_nil {p : Program α} (hp : p.Asks Request.IsPlain) (host : Host σ) (s : σ) :
    scripts (p.log host s) = [] := by
  rw [scripts, List.filterMap_eq_nil_iff]
  intro e he
  exact Exchange.script?_of_isPlain (hp.of_mem_log host s e he)

end Asks

/-- On every host, `post` is true of the result and the log of the program. -/
def Logs (p : Program α) (post : α → List Exchange → Prop) : Prop :=
  ∀ (σ : Type) (host : Host σ) (s : σ), post (p.run host s).1 (p.log host s)

namespace Logs

variable {post post' : α → List Exchange → Prop}

theorem mono {p : Program α} (h : p.Logs post) (imp : ∀ a log, post a log → post' a log) :
    p.Logs post' := by
  intro σ host s
  exact imp _ _ (h σ host s)

theorem done {a : α} (h : post a []) : (Program.done a).Logs post := fun _ _ _ => h

theorem ask {r : Request} {next : r.Answer → Program α}
    (h : ∀ answer, (next answer).Logs fun a log => post a (⟨r, answer⟩ :: log)) :
    (Program.ask r next).Logs post := by
  intro σ host s
  exact h _ σ host _

theorem request {r : Request} {next : r.Answer → Program α}
    (h : ∀ answer, (next answer).Logs fun a log => post a (⟨r, answer⟩ :: log)) :
    ((Program.request r).bind next).Logs post :=
  ask h

/-- What follows a program adds its log to that of the program. -/
theorem bind {p : Program α} {f : α → Program β} {mid : α → List Exchange → Prop}
    {post : β → List Exchange → Prop} (hp : p.Logs mid)
    (hf : ∀ a log, mid a log → (f a).Logs fun b more => post b (log ++ more)) :
    (p.bind f).Logs post := by
  intro σ host s
  rw [result_bind, log_bind]
  exact hf _ _ (hp σ host s) σ host _

end Logs

/-- A log of the program, with the result that it came to. -/
def Ran (p : Program α) (a : α) (log : List Exchange) : Prop :=
  ∃ (σ : Type) (host : Host σ) (s : σ), a = (p.run host s).1 ∧ log = p.log host s

theorem logs_ran (p : Program α) : p.Logs p.Ran := fun σ host s => ⟨σ, host, s, rfl, rfl⟩

namespace Ran

variable {p : Program α} {a : α} {log : List Exchange}

theorem stages_eq_nil (ran : p.Ran a log) (hp : p.Asks Request.IsSilent) : stages log = [] := by
  obtain ⟨σ, host, s, -, rfl⟩ := ran
  rw [stages, List.filterMap_eq_nil_iff]
  intro e he
  exact Exchange.stage?_of_isSilent (hp.of_mem_log host s e he)

theorem written_eq_empty (ran : p.Ran a log) (hp : p.Asks Request.IsSilent) :
    written log = "" := by
  obtain ⟨σ, host, s, -, rfl⟩ := ran
  have silent : (p.log host s).filterMap Exchange.written? = [] := by
    rw [List.filterMap_eq_nil_iff]
    intro e he
    exact Exchange.written?_of_isSilent (hp.of_mem_log host s e he)
  rw [written, silent]
  rfl

end Ran

end Program

end SyscallProfiler
