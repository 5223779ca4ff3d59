import SyscallProfiler.Proofs.Invocation.Interpreter
import SyscallProfiler.Proofs.Json.RoundTrip
import SyscallProfiler.Proofs.Outcome

/-!
# Chatter before a report

A report shares its stream with whatever the called code wrote, the chatter, and
nothing but its place sets it apart. Behind ended lines that are not marked, an outcome
is recovered as it was reported. Other chatter takes part in the outcome, and `residue`
is what it contributes: two texts with the same residue cannot be told apart by what is
recovered behind them, and before faults two texts with different residues always can.
-/

namespace SyscallProfiler.Interpreter

open Outcome Text

/-- What chatter contributes to what is found behind it. -/
inductive Residue where
  /-- A fault of its own, which is found before the report. -/
  | fault (message : List Char)
  /-- The beginning of the line, or of the message, that is recovered. -/
  | begun (start : List Char)
  /-- The mark of the report no longer begins a line. -/
  | hidden
deriving DecidableEq, Repr

/-- The residue of chatter before the report on a call. Before a value it is the open
line. Before a fault it is the first marked line, and if there is none among the ended
lines, whatever the open line puts between the beginning of its line and the message. -/
def residue : Except String Json → List Char → Residue
  | .ok _, chatter => .begun (trimStart (openLine chatter))
  | .error _, chatter =>
    match faultIn (endedLines chatter) with
    | some message => .fault message
    | none =>
      match after? faultMark.toList (openLine chatter ++ faultMark.toList) with
      | some start => .begun (trimStart start)
      | none => .hidden

theorem trimStart_trimStart (text : List Char) : trimStart (trimStart text) = trimStart text :=
  List.dropWhile_idempotent _ _

/-- No residue keeps blanks at its beginning. -/
theorem trimStart_of_residue_eq_begun {loaded : Except String Json} {chatter start : List Char}
    (h : residue loaded chatter = .begun start) : trimStart start = start := by
  cases loaded with
  | ok v =>
      rw [← Residue.begun.inj h]
      exact trimStart_trimStart _
  | error message =>
      rw [residue] at h
      split at h
      · cases h
      · split at h
        · rw [← Residue.begun.inj h]
          exact trimStart_trimStart _
        · cases h

/-! ## Values -/

/-- The line of a value is the last word behind any chatter. -/
theorem lastWord?_report (chatter : String) (v : Json) :
    lastWord? (chatter ++ report (.ok v)) =
      some (trim (openLine chatter.toList ++ Json.compact v)) := by
  have h : Json.OneLine v.text.toList := by
    rw [Json.text, String.toList_ofList]
    exact Json.oneLine_compact v
  rw [report, reportLine, lastWord?_append h, Json.text, String.toList_ofList]

/-- A value that is written exactly is read back from behind ended lines. -/
theorem ofRun_report_ok {v : Json} {chatter : String} (exact : v.Exact)
    (hdepth : v.depth ≤ Json.maxDepth) (ended : Ended chatter.toList) (signal : Option Int)
    (stderr : String) :
    ofRun (some 0) signal (chatter ++ report (.ok v)) stderr = .returned v := by
  have hline : lastWord? (chatter ++ report (.ok v)) = some (Json.compact v) := by
    rw [lastWord?_report, openLine_eq_nil_iff.mpr ended, List.nil_append,
      (Json.oneLine_compact v).trim_eq]
  simp only [ofRun, hline, Json.read_compact exact hdepth, if_true]

/-! ## Faults -/

/-- The fault that is found behind a residue when a message is reported. If the mark is
hidden, the other lines of the message are still looked at. -/
def Residue.fault? (message : List Char) : Residue → Option (List Char)
  | .fault own => some own
  | .begun start => some (trim (start ++ ' ' :: firstLine message))
  | .hidden => faultIn (otherLines message)

theorem toList_report_error (message : String) :
    (report (.error message)).toList =
      faultMark.toList ++ ' ' :: (message.toList ++ ['\n']) := by
  simp [report, reportLine]

/-- The fault that is found depends on nothing of the chatter but its residue. -/
theorem markedFault?_report (chatter message : String) :
    markedFault? (chatter ++ report (.error message)) =
      (residue (.error message) chatter.toList).fault? message.toList := by
  rw [markedFault?_eq, String.toList_append, toList_report_error, faultIn_report, residue]
  cases faultIn (endedLines chatter.toList) with
  | some own => rfl
  | none =>
      rw [Option.none_or]
      cases after? faultMark.toList (openLine chatter.toList ++ faultMark.toList) with
      | none => rfl
      | some start => exact congrArg some (trim_append_congr (trimStart_trimStart start).symm _)

/-- Ended lines that are not marked leave the report as it is. -/
theorem residue_error_of_ended {message : String} {chatter : List Char} (ended : Ended chatter)
    (unmarked : ∀ line ∈ lines chatter, ¬ faultMark.toList <+: line) :
    residue (.error message) chatter = .begun [] := by
  have hopen : openLine chatter = [] := openLine_eq_nil_iff.mpr ended
  have hlines : endedLines chatter = chatter := by
    conv_rhs => rw [← endedLines_append_openLine chatter, hopen, List.append_nil]
  rw [residue, hlines, faultIn_eq_none unmarked, hopen]
  rfl

/-- The first line of a message comes back without the blanks around it, from behind
ended lines that are not marked. -/
theorem ofRun_report_error {message chatter : String} (ended : Ended chatter.toList)
    (unmarked : ∀ line ∈ lines chatter.toList, ¬ faultMark.toList <+: line)
    (signal : Option Int) (stderr : String) :
    ofRun (some 1) signal (chatter ++ report (.error message)) stderr =
      .faulted (String.ofList (trim (firstLine message.toList))) := by
  have hmessage : markedFault? (chatter ++ report (.error message)) =
      some (trim (firstLine message.toList)) := by
    rw [markedFault?_report, residue_error_of_ended ended unmarked]
    exact congrArg some (trim_cons (by decide) _)
  rw [ofRun, if_neg (by decide), hmessage]

/-! ## Chatter of any shape -/

/-- What is recovered depends on nothing of the chatter but its residue. -/
theorem ofRun_report_congr {loaded : Except String Json} {chatter other : String}
    (h : residue loaded chatter.toList = residue loaded other.toList) (signal : Option Int)
    (stderr : String) :
    ofRun (some (exitCode loaded)) signal (chatter ++ report loaded) stderr =
      ofRun (some (exitCode loaded)) signal (other ++ report loaded) stderr := by
  cases loaded with
  | ok v =>
      have hstart : trimStart (openLine chatter.toList) = trimStart (openLine other.toList) :=
        Residue.begun.inj h
      have hline : lastWord? (chatter ++ report (.ok v)) = lastWord? (other ++ report (.ok v)) := by
        rw [lastWord?_report, lastWord?_report, trim_append_congr hstart]
      change ofRun (some 0) _ _ _ = ofRun (some 0) _ _ _
      rw [ofRun, ofRun, if_pos rfl, if_pos rfl, hline]
  | error message =>
      have hmessage : markedFault? (chatter ++ report (.error message)) =
          markedFault? (other ++ report (.error message)) := by
        rw [markedFault?_report, markedFault?_report, h]
      change ofRun (some 1) _ _ _ = ofRun (some 1) _ _ _
      rw [ofRun, ofRun, if_neg (by decide), if_neg (by decide), hmessage]

/-- Texts that lead to the same outcomes on failure have the same marked fault. If only
one of them had one, what a run complained about would show in the other's outcome. -/
theorem markedFault?_eq_of_ofRun_eq {stdout stdout' : String}
    (h : ∀ stderr, ofRun (some 1) none stdout stderr = ofRun (some 1) none stdout' stderr) :
    markedFault? stdout = markedFault? stdout' := by
  have hcode : (some 1 : Option Int) ≠ some 0 := by decide
  have silent := h ""
  have loud := h "x"
  simp only [ofRun, if_neg hcode] at silent loud
  cases hs : markedFault? stdout with
  | none =>
      cases hs' : markedFault? stdout' with
      | none => rfl
      | some own =>
          simp only [hs, hs'] at silent loud
          rw [← silent] at loud
          exact absurd loud (by decide)
  | some own =>
      cases hs' : markedFault? stdout' with
      | none =>
          simp only [hs, hs'] at silent loud
          rw [silent] at loud
          exact absurd loud (by decide)
      | some own' =>
          simp only [hs, hs', Outcome.faulted.injEq, String.ofList_inj] at silent
          rw [silent]

/-- A beginning without blanks stands before a message as it is; without one, the message
stands alone. -/
theorem trim_begun {start : List Char} (h : trimStart start = start) {c : Char}
    (hc : isBlank c = false) :
    trim (start ++ [' ', c]) = if start = [] then [c] else start ++ [' ', c] := by
  by_cases hs : start = []
  · have tight : Tight [c] := by simp [Tight, hc]
    rw [if_pos hs, hs, List.nil_append, trim_cons (by decide), trim_eq_self_iff.mpr tight]
  · have hne : trimStart start ≠ [] := fun e => hs (h.symm.trans e)
    rw [if_neg hs, trim, trimStart_append _ hne, h]
    exact trimEnd_eq_self_iff.mpr (by simp [hc])

/-- The residue behind which two messages are found as these faults. -/
def Residue.ofFaults : (x y : Option (List Char)) → Residue
  | some x, some y => if x = y then .fault x else .begun x.dropLast.dropLast
  | _, _ => .hidden

/-- Two messages are enough to tell a residue: a fault of its own is found in place of
both, a beginning stands before both, and a hidden mark hides both. -/
theorem Residue.ofFaults_fault? {r : Residue}
    (hr : ∀ start, r = .begun start → trimStart start = start) :
    ofFaults (r.fault? ['x']) (r.fault? ['y']) = r := by
  cases r with
  | fault own => simp [fault?, ofFaults]
  | begun start =>
      have hx := trim_begun (hr start rfl) (by decide : isBlank 'x' = false)
      have hy := trim_begun (hr start rfl) (by decide : isBlank 'y' = false)
      change ofFaults (some (trim (start ++ [' ', 'x']))) (some (trim (start ++ [' ', 'y']))) = _
      rw [hx, hy, ofFaults]
      by_cases hs : start = []
      · simp [hs]
      · simp [hs]
  | hidden => decide

/-- Before faults, chatter can be told apart by what is recovered behind it exactly if
its residues differ. -/
theorem residue_eq_iff {chatter other : String} :
    residue (.error "") chatter.toList = residue (.error "") other.toList ↔
      ∀ message stderr, ofRun (some 1) none (chatter ++ report (.error message)) stderr =
        ofRun (some 1) none (other ++ report (.error message)) stderr := by
  constructor
  · intro h message stderr
    have h' : residue (.error message) chatter.toList = residue (.error message) other.toList := h
    exact ofRun_report_congr h' none stderr
  · intro h
    have hfault : ∀ message : String,
        (residue (.error "") chatter.toList).fault? message.toList =
          (residue (.error "") other.toList).fault? message.toList := by
      intro message
      have same := markedFault?_eq_of_ofRun_eq (h message)
      rwa [markedFault?_report, markedFault?_report] at same
    calc residue (.error "") chatter.toList
        = .ofFaults ((residue (.error "") chatter.toList).fault? ['x'])
            ((residue (.error "") chatter.toList).fault? ['y']) :=
          (Residue.ofFaults_fault? fun _ => trimStart_of_residue_eq_begun).symm
      _ = .ofFaults ((residue (.error "") other.toList).fault? ['x'])
            ((residue (.error "") other.toList).fault? ['y']) :=
          congrArg₂ _ (hfault "x") (hfault "y")
      _ = residue (.error "") other.toList :=
          Residue.ofFaults_fault? fun _ => trimStart_of_residue_eq_begun

end SyscallProfiler.Interpreter
