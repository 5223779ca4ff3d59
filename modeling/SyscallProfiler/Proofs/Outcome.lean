import SyscallProfiler.Outcome
import SyscallProfiler.Proofs.Json.Shape

/-!
# Reading an outcome off a text

An outcome is searched for in everything that a run wrote: the last line that is not
blank, or the first line that is marked. A text that is put before the line in question
takes part in both searches. What it can do to them depends on its ended lines, which
are lines of their own, and on its open line, which the next line continues.
-/

namespace SyscallProfiler.Outcome

open Text

/-- What a run shows is never that it took too long. -/
theorem isTimedOut_ofRun (code signal : Option Int) (stdout stderr : String) :
    (ofRun code signal stdout stderr).isTimedOut = false := by
  unfold ofRun
  split
  · split
    · rfl
    · split <;> rfl
  · split <;> rfl

/-! ## The last line -/

/-- A line of a value is the last line that is not blank, together with whatever it
continues. -/
theorem lastWord?_append {line : String} (h : Json.OneLine line.toList) (before : String) :
    lastWord? (before ++ (line ++ "\n")) =
      some (trim (openLine before.toList ++ line.toList)) := by
  have hfeed : '\n' ∉ openLine before.toList ++ line.toList := by
    rw [List.mem_append, not_or]
    exact ⟨feed_notMem_openLine _, h.feed_notMem⟩
  have hblank : allBlank (openLine before.toList ++ line.toList) = false := by
    rw [allBlank, List.all_append]
    exact Bool.and_eq_false_iff.mpr (Or.inr h.allBlank_eq_false)
  have htext : (before ++ (line ++ "\n")).toList =
      endedLines before.toList ++ (openLine before.toList ++ line.toList ++ '\n' :: []) := by
    conv_lhs => rw [String.toList_append, ← endedLines_append_openLine before.toList]
    simp
  rw [lastWord?, htext, lines_append (ended_endedLines _), lines_feed hfeed, lines,
    List.reverse_append, List.reverse_singleton, List.singleton_append,
    List.find?_cons_of_pos (by simp [allBlank_dropReturn, hblank]), Option.map_some,
    trim_dropReturn]

/-! ## The first marked line -/

/-- The fault on the first line of a text that is marked. -/
def faultIn (text : List Char) : Option (List Char) :=
  ((lines text).findSome? (after? faultMark.toList)).map trim

theorem markedFault?_eq (stdout : String) : markedFault? stdout = faultIn stdout.toList := rfl

theorem faultIn_append {text : List Char} (h : Ended text) (more : List Char) :
    faultIn (text ++ more) = (faultIn text).or (faultIn more) := by
  rw [faultIn, lines_append h, List.findSome?_append, Option.map_or]
  rfl

theorem faultIn_feed {line : List Char} (h : '\n' ∉ line) (rest : List Char) :
    faultIn (line ++ '\n' :: rest) =
      ((after? faultMark.toList (dropReturn line)).map trim).or (faultIn rest) := by
  rw [faultIn, lines_feed h, List.findSome?_cons]
  cases after? faultMark.toList (dropReturn line) <;> rfl

/-- Lines of which none is marked report no fault. -/
theorem faultIn_eq_none {text : List Char} (h : ∀ line ∈ lines text, ¬ faultMark.toList <+: line) :
    faultIn text = none := by
  rw [faultIn, Option.map_eq_none_iff, List.findSome?_eq_none_iff]
  intro line hl
  exact after?_eq_none_iff.mpr (h line hl)

/-- A reported fault is found in the ended lines before it, or on its own line, or on
the lines that its message goes on to. Its own line counts only if the mark is at the
beginning after the open line has been put before it. -/
theorem faultIn_report (before message : List Char) :
    faultIn (before ++ (faultMark.toList ++ ' ' :: (message ++ ['\n']))) =
      (faultIn (endedLines before)).or
        (((after? faultMark.toList (openLine before ++ faultMark.toList)).map fun start =>
          trim (start ++ ' ' :: firstLine message)).or (faultIn (otherLines message))) := by
  have hfeed : '\n' ∉ (openLine before ++ faultMark.toList) ++ ' ' :: firstLine message := by
    rw [List.mem_append, List.mem_append, List.mem_cons]
    rintro ((h | h) | h | h)
    · exact feed_notMem_openLine _ h
    · revert h
      decide
    · revert h
      decide
    · exact feed_notMem_firstLine _ h
  have hlength : faultMark.toList.length ≤ (openLine before ++ faultMark.toList).length := by
    rw [List.length_append]
    exact Nat.le_add_left _ _
  have htext : before ++ (faultMark.toList ++ ' ' :: (message ++ ['\n'])) =
      endedLines before ++ (((openLine before ++ faultMark.toList) ++ ' ' :: firstLine message) ++
        '\n' :: otherLines message) := by
    conv_lhs => rw [← endedLines_append_openLine before, ← firstLine_append_otherLines]
    simp
  rw [htext, faultIn_append (ended_endedLines _), faultIn_feed hfeed,
    dropReturn_append _ (List.cons_ne_nil _ _), after?_append hlength, Option.map_map]
  congr 3
  funext start
  rw [Function.comp_apply, ← dropReturn_append start (List.cons_ne_nil _ _), trim_dropReturn]

end SyscallProfiler.Outcome
