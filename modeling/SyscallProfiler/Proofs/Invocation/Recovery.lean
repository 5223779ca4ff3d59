import SyscallProfiler.Pass.Attach
import SyscallProfiler.Proofs.Invocation.Chatter
import SyscallProfiler.Proofs.Invocation.Script

/-!
# Recovering the outcome of a call

The interpreter knows what a call came to. Whoever started it has to find out from its
exit code and its output, while an attached pass takes the answer of the call itself.
The theorems compare the two over all runs of the interpreter that lack nothing: with
any host, in any state, and with any answer of the loaded code.
-/

namespace SyscallProfiler.Interpreter

open Outcome Text

variable {σ : Type} {host : Host σ} {s : σ} {path text : String} {script : Script}

/-- What is recovered from a run of the interpreter whose report was written to
standard output behind `chatter`. -/
def recovered (host : Host σ) (s : σ) (path : String) (signal : Option Int)
    (chatter stderr : String) : Outcome :=
  .ofRun (some ((run path).run host s).1) signal (chatter ++ written ((run path).log host s)) stderr

section Served

variable {loaded : Except String Json} (hread : Script.read text.toList = .ok script)
  (served : Served text loaded ((run path).log host s))

include hread served

/-- A run that lacks nothing writes its report and nothing else. -/
theorem written_of_served : written ((run path).log host s) = report loaded := by
  rw [(run_of_served hread served).1]
  change "" ++ report loaded = report loaded
  exact String.empty_append

/-- A run that lacks nothing shows in its exit code and in its report. -/
theorem recovered_of_served (signal : Option Int) (chatter stderr : String) :
    recovered host s path signal chatter stderr =
      .ofRun (some (exitCode loaded)) signal (chatter ++ report loaded) stderr := by
  rw [recovered, written_of_served hread served, (run_of_served hread served).2]

end Served

/-- A value that is written exactly comes back from behind ended lines, whatever the
lines are. This is the outcome that an attached pass records for the value. -/
theorem recovered_eq_returned {v : Json} {chatter : String}
    (hread : Script.read text.toList = .ok script)
    (served : Served text (.ok v) ((run path).log host s))
    (exact : v.Exact) (hdepth : v.depth ≤ 127) (ended : Ended chatter.toList)
    (signal : Option Int) (stderr : String) :
    (∃ line : String, '\n' ∉ line.toList ∧ written ((run path).log host s) = line ++ "\n") ∧
      ((run path).run host s).1 = 0 ∧
      recovered host s path signal chatter stderr = .returned v ∧
      recovered host s path signal chatter stderr = .ofLoaded (.ok v) := by
  have hvalue : recovered host s path signal chatter stderr = .returned v := by
    rw [recovered_of_served hread served]
    exact ofRun_report_ok exact hdepth ended signal stderr
  refine ⟨⟨v.text, ?_, written_of_served hread served⟩, (run_of_served hread served).2,
    hvalue, hvalue⟩
  rw [Json.text, String.toList_ofList]
  exact (Json.oneLine_compact v).feed_notMem

theorem recovered_eq_returned_list :
    let v : Json := .arr [.str "a\n\u2028", .int (-7), .obj [("k", .null)]]
    let script : Script := ⟨"/b/function.so", .placeholder⟩
    let host := plainHost script.text (.ok v)
    (∃ line : String, '\n' ∉ line.toList ∧
        written ((run "script").log host default) = line ++ "\n") ∧
      ((run "script").run host default).1 = 0 ∧
      recovered host default "script" none "ERROR: none\n[\n" "" = .returned v ∧
      recovered host default "script" none "ERROR: none\n[\n" "" = .ofLoaded (.ok v) :=
  recovered_eq_returned (Script.read_text (by decide) (by decide)) (served_plainHost _ _ _ _)
    (by decide) (by decide) (by decide) none ""

/-- A fault comes back with the first line of its message, without the blanks around it,
from behind ended lines that are not marked. That is the fault that an attached pass
records exactly if the message is one line without blanks at either end. -/
theorem recovered_eq_faulted {message chatter : String}
    (hread : Script.read text.toList = .ok script)
    (served : Served text (.error message) ((run path).log host s))
    (ended : Ended chatter.toList)
    (unmarked : ∀ line ∈ lines chatter.toList, ¬ faultMark.toList <+: line)
    (signal : Option Int) (stderr : String) :
    ((run path).run host s).1 = 1 ∧
      recovered host s path signal chatter stderr =
        .faulted (String.ofList (trim (firstLine message.toList))) ∧
      (recovered host s path signal chatter stderr = .ofLoaded (.error message) ↔
        '\n' ∉ message.toList ∧ Tight message.toList) := by
  have hfault : recovered host s path signal chatter stderr =
      .faulted (String.ofList (trim (firstLine message.toList))) := by
    rw [recovered_of_served hread served]
    exact ofRun_report_error ended unmarked signal stderr
  refine ⟨(run_of_served hread served).2, hfault, ?_⟩
  rw [hfault, ofLoaded, Outcome.faulted.injEq, ← String.toList_inj, String.toList_ofList,
    trim_firstLine_eq_self_iff]

theorem recovered_eq_faulted_lines :
    let message := " image\r\nnot found"
    let script : Script := ⟨"/b/function.so", .placeholder⟩
    let host := plainHost script.text (.error message)
    ((run "script").run host default).1 = 1 ∧
      recovered host default "script" none "loading\n\n" "" =
        .faulted (String.ofList (trim (firstLine message.toList))) ∧
      (recovered host default "script" none "loading\n\n" "" = .ofLoaded (.error message) ↔
        '\n' ∉ message.toList ∧ Tight message.toList) :=
  recovered_eq_faulted (Script.read_text (by decide) (by decide)) (served_plainHost _ _ _ _)
    (by decide) (by decide) none ""

/-- Two runs of the interpreter on calls with the same answer are told apart at most by
the residues of the chatter before their reports. -/
theorem recovered_eq_of_residue_eq {τ : Type} {host' : Host τ} {s' : τ} {path' text' : String}
    {script' : Script} {loaded : Except String Json} {chatter chatter' : String}
    (hread : Script.read text.toList = .ok script)
    (served : Served text loaded ((run path).log host s))
    (hread' : Script.read text'.toList = .ok script')
    (served' : Served text' loaded ((run path').log host' s'))
    (h : residue loaded chatter.toList = residue loaded chatter'.toList)
    (signal : Option Int) (stderr : String) :
    recovered host s path signal chatter stderr =
      recovered host' s' path' signal chatter' stderr := by
  rw [recovered_of_served hread served, recovered_of_served hread' served']
  exact ofRun_report_congr h signal stderr

theorem recovered_eq_of_residue_eq_marked :
    let script : Script := ⟨"/b/function.so", .placeholder⟩
    let host := plainHost script.text (.error "x")
    recovered host default "script" none "ERROR: y\nopen" "" =
      recovered host default "script" none "\nERROR:y \n\n" "" :=
  recovered_eq_of_residue_eq (Script.read_text (by decide) (by decide))
    (served_plainHost _ _ _ _) (Script.read_text (by decide) (by decide))
    (served_plainHost _ _ _ _) (by decide) none ""

/-- Chatter does interfere: before a fault by a line that is marked like the report, and
before a value by a line that nothing has ended. -/
theorem chatter_interferes :
    (¬ ∀ (message chatter chatter' stderr : String),
        ofRun (some (exitCode (.error message))) none (chatter ++ report (.error message)) stderr =
          ofRun (some (exitCode (.error message))) none (chatter' ++ report (.error message))
            stderr) ∧
      ¬ ∀ (v : Json) (chatter chatter' stderr : String),
        ofRun (some (exitCode (.ok v))) none (chatter ++ report (.ok v)) stderr =
          ofRun (some (exitCode (.ok v))) none (chatter' ++ report (.ok v)) stderr := by
  refine ⟨fun h => ?_, fun h => ?_⟩
  · exact absurd (h "x" "" "ERROR: y\n" "") (by decide)
  · have five : Json.compact (.int 5) = ['5'] := by
      simp [Json.compact, Json.intText, Decimal.digits]
    have line : report (.ok (.int 5)) = "5\n" := by
      rw [report, reportLine, Json.text, five]
      rfl
    have same := h (.int 5) "" "1" ""
    rw [line] at same
    exact absurd same (by decide)

end SyscallProfiler.Interpreter
