import SyscallProfiler.Invocation.Interpreter
import SyscallProfiler.Machine.Simulation
import SyscallProfiler.Proofs.Host.Log

/-!
# Runs of the interpreter

On a readable script the interpreter makes the one call that the script asks for and
writes the one line that reports on it. The exact log of such a run says all of this at
once; what other runs of the interpreter may do (no script, no output) is not needed
where its report is read.
-/

namespace SyscallProfiler

namespace Interpreter

/-- What the interpreter writes about a call. -/
def report (loaded : Except String Json) : String := reportLine loaded ++ "\n"

/-- The part of a run that reports on the call. -/
def reportOn (loaded : Except String Json) : Program Nat := do
  Program.request .flushLoaded
  match ← emit (report loaded) with
  | .error _ => return 1
  | .ok () => return exitCode loaded

/-- The surroundings of a run that lacks nothing: what was read is `text`, what was
called answered `loaded`, and nothing that was written was refused. -/
structure Served (text : String) (loaded : Except String Json) (log : List Exchange) : Prop where
  reads : ∀ path a, ⟨.readText path, a⟩ ∈ log → a = .ok text
  loads : ∀ codePath input a, ⟨.load codePath input, a⟩ ∈ log → a = loaded
  writes : ∀ report a, ⟨.write report, a⟩ ∈ log → a = .ok ()
  flushes : ∀ a, ⟨.flush, a⟩ ∈ log → a = .ok ()

variable {σ : Type} {host : Host σ} {s : σ}

theorem run_eq (path : String) : run path = (perform path).bind reportOn := rfl

/-- On a readable script the interpreter asks for one call and goes on with its answer. -/
theorem perform_of_read {path text : String} {script : Script}
    (htext : (host s (.readText path)).1 = .ok text)
    (hread : Script.read text.toList = .ok script) :
    ∃ loaded, (perform path).log host s =
        [⟨.readText path, .ok text⟩, ⟨.load script.codePath script.input, loaded⟩] ∧
      ((perform path).run host s).1 = loaded := by
  refine ⟨(host (host s (.readText path)).2 (.load script.codePath script.input)).1, ?_, ?_⟩
  · simp only [perform, Script.readAt, Program.request, Program.bind_eq, Program.ask_bind,
      Program.done_bind, Program.log_ask, htext, hread]
    rfl
  · simp only [perform, Script.readAt, Program.request, Program.bind_eq, Program.ask_bind,
      Program.done_bind, Program.run_ask, htext, hread]
    rfl

/-- Nothing is called while a report is made. -/
theorem asks_reportOn (loaded : Except String Json) :
    (reportOn loaded).Asks Request.IsPlain := by
  refine .request_bind trivial fun _ => .request_bind trivial fun answer => ?_
  cases answer with
  | error e => trivial
  | ok _ =>
      refine .request_bind trivial fun answer => ?_
      cases answer <;> trivial

/-- A run on a readable script makes the call that the script asks for and no other,
whatever becomes of the report. -/
theorem calls_of_read {path text : String} {script : Script}
    (htext : (host s (.readText path)).1 = .ok text)
    (hread : Script.read text.toList = .ok script) :
    calls ((run path).log host s) = [(script.codePath, script.input)] := by
  obtain ⟨loaded, hlog, -⟩ := perform_of_read htext hread
  rw [run_eq, Program.log_bind, calls_append, hlog, (asks_reportOn _).calls_eq_nil]
  rfl

/-- A report that is not refused is written as a whole, and the exit code is that of the
call. -/
theorem reportOn_of_accepted {loaded : Except String Json}
    (writes : ∀ text a, ⟨.write text, a⟩ ∈ (reportOn loaded).log host s → a = .ok ())
    (flushes : ∀ a, ⟨.flush, a⟩ ∈ (reportOn loaded).log host s → a = .ok ()) :
    (reportOn loaded).log host s =
        [⟨.flushLoaded, ()⟩, ⟨.write (report loaded), .ok ()⟩, ⟨.flush, .ok ()⟩] ∧
      ((reportOn loaded).run host s).1 = exitCode loaded := by
  have hwrite : (host (host s .flushLoaded).2 (.write (report loaded))).1 = .ok () :=
    writes _ _ (.tail _ (.head _))
  have hlog : (reportOn loaded).log host s = [⟨.flushLoaded, ()⟩,
      ⟨.write (report loaded), .ok ()⟩,
      ⟨.flush, (host (host (host s .flushLoaded).2 (.write (report loaded))).2 .flush).1⟩] := by
    simp only [reportOn, emit, Program.request, Program.bind_eq, Program.ask_bind,
      Program.done_bind, Program.log_ask, hwrite]
    cases (host (host (host s .flushLoaded).2 (.write (report loaded))).2 .flush).1 <;> rfl
  have hflush := flushes _ (by rw [hlog]; exact .tail _ (.tail _ (.head _)))
  refine ⟨by rw [hlog, hflush], ?_⟩
  simp only [reportOn, emit, Program.request, Program.bind_eq, Program.ask_bind,
    Program.done_bind, Program.run_ask, hwrite, hflush]
  rfl

/-- The log and the exit code of a run that lacks nothing. -/
theorem run_of_served {path text : String} {script : Script} {loaded : Except String Json}
    (hread : Script.read text.toList = .ok script)
    (h : Served text loaded ((run path).log host s)) :
    (run path).log host s =
        [⟨.readText path, .ok text⟩, ⟨.load script.codePath script.input, loaded⟩,
          ⟨.flushLoaded, ()⟩, ⟨.write (report loaded), .ok ()⟩, ⟨.flush, .ok ()⟩] ∧
      ((run path).run host s).1 = exitCode loaded := by
  have htext : (host s (.readText path)).1 = .ok text := h.reads path _ (.head _)
  obtain ⟨answer, hlog, hrun⟩ := perform_of_read htext hread
  rw [run_eq, Program.log_bind, hlog, hrun] at h
  rw [run_eq, Program.log_bind, Program.result_bind, hlog, hrun]
  obtain rfl : answer = loaded := h.loads _ _ _ (List.mem_append_left _ (.tail _ (.head _)))
  obtain ⟨hreport, hcode⟩ := reportOn_of_accepted
    (fun text a hm => h.writes text a (List.mem_append_right _ hm))
    (fun a hm => h.flushes a (List.mem_append_right _ hm))
  rw [hreport]
  exact ⟨rfl, hcode⟩

/-- A host on which a run lacks nothing: every file holds `text`, every call is answered
with `loaded`, and all the rest is left to the simulation. -/
def plainHost (text : String) (loaded : Except String Json) : Host Simulation
  | s, .readText _ => (.ok text, s)
  | s, .load _ _ => (loaded, s)
  | s, r => s.answer r

theorem served_plainHost {α : Type} (text : String) (loaded : Except String Json)
    (p : Program α) (s : Simulation) :
    Served text loaded (p.log (plainHost text loaded) s) where
  reads _ _ h := (Program.exists_state_of_mem_log h).choose_spec
  loads _ _ _ h := (Program.exists_state_of_mem_log h).choose_spec
  writes _ _ h := (Program.exists_state_of_mem_log h).choose_spec
  flushes _ h := (Program.exists_state_of_mem_log h).choose_spec

end Interpreter

end SyscallProfiler
