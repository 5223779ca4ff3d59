import SyscallProfiler.Proofs.Invocation.Interpreter
import SyscallProfiler.Proofs.Invocation.Script
import SyscallProfiler.Proofs.Pass.Requests

/-!
# Both ways of running a workload

An attached pass calls the workload itself. A pass in a fresh process stores a script,
and an interpreter that may run at any later time on any host reads it and makes the
call. The script holds the call exactly, and so both ways come to the same call.
-/

namespace SyscallProfiler

variable {σ : Type} (host : Host σ) (s : σ)

/-- A script is stored as soon as a file has been created for it. -/
theorem Script.scripts_writeFresh (script : Script) (directory : Option String) :
    scripts ((script.writeFresh directory).log host s) =
      if (host s (.createScript (directory.getD commonDirectory))).1.isOk then [script.text]
      else [] := by
  rw [writeFresh]
  simp only [Program.request, Program.bind_eq, Program.ask_bind, Program.done_bind]
  rw [Program.log_ask]
  cases (host s (.createScript (directory.getD commonDirectory))).1 with
  | error e => rfl
  | ok path =>
      dsimp only
      rw [Program.log_ask]
      cases (host (host s (.createScript (directory.getD commonDirectory))).2
          (.writeScript path script.text)).1 with
      | error e => rfl
      | ok _ => rfl

namespace Pass

variable (settings : Settings) (unit : Workload) (input : Payload)

/-- A pass in a fresh process stores the script of its unit and its input, and no other
script. -/
theorem scripts_runSpawned :
    scripts ((runSpawned settings unit input).log host s) =
      if (host s (.createScript (settings.scriptDir.getD Script.commonDirectory))).1.isOk then
        [Script.text ⟨unit.codePath, input⟩]
      else [] := by
  have plain (stored : Except Failure String) :=
    (asks_runStored settings unit input stored).mono fun _ => Request.IsInner.isPlain
  rw [runSpawned_eq, Program.log_bind, scripts_append, Script.scripts_writeFresh,
    (plain _).scripts_eq_nil, List.append_nil]

/-- Both ways of running a workload call the same code on the same input. What a pass in
a fresh process stores is read back as the script it was; so every run of an interpreter
that is given this text makes the call that an attached pass makes by itself. -/
theorem same_call_in_both_modes {input : Payload} (granularity : Granularity)
    (exact : input.toJson.Exact) (hdepth : input.toJson.depth ≤ 126) :
    let script : Script := ⟨unit.codePath, input⟩
    Script.read script.text.toList = .ok script ∧
      (∀ {σ : Type} (host : Host σ) (s : σ),
        scripts ((runSpawned settings unit input).log host s) =
          if (host s (.createScript (settings.scriptDir.getD Script.commonDirectory))).1.isOk then
            [script.text]
          else []) ∧
      (∀ {σ : Type} (host : Host σ) (s : σ) (path : String),
        (host s (.readText path)).1 = .ok script.text →
          calls ((Interpreter.run path).log host s) = [(unit.codePath, input)]) ∧
      ∀ {σ : Type} (host : Host σ) (s : σ),
        calls ((runAttached settings unit input granularity).log host s) =
          if (sessionAsked settings unit granularity host s).isOk then [(unit.codePath, input)]
          else [] := by
  intro script
  have hread : Script.read script.text.toList = .ok script :=
    Script.read_text exact (Nat.lt_succ_of_le hdepth)
  refine ⟨hread, fun host s => ?_, fun host s path htext => ?_, fun host s => ?_⟩
  · exact scripts_runSpawned host s settings unit input
  · exact Interpreter.calls_of_read htext hread
  · exact calls_runAttached settings unit input granularity host s

theorem same_call_in_both_modes_nested :
    let unit : Workload := ⟨"thumbnailer", "image", "/b/\"ä\"\n.so", "/b/input.json"⟩
    let input : Payload := .ofPairs [("size", .arr [.int (-7), .obj [("\t", .str "\\")]])]
    let script : Script := ⟨unit.codePath, input⟩
    Script.read script.text.toList = .ok script ∧
      calls ((Interpreter.run "script").log
        (Interpreter.plainHost script.text (.ok .null)) default) = [(unit.codePath, input)] := by
  intro unit input script
  obtain ⟨hread, -, hcalls, -⟩ :=
    same_call_in_both_modes default unit .full (by decide : input.toJson.Exact) (by decide)
  exact ⟨hread, hcalls _ _ _ rfl⟩

end Pass

end SyscallProfiler
