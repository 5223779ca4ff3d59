import SyscallProfiler.Proofs.Outcome

/-!
# What an outcome depends on

An outcome is read off one piece of evidence: after success the last line that is not blank,
after failure the first line that is marked, and if there is none, the way in which the run
ended together with its complaint. The lemmas say what the outcome is for each of the four
kinds of runs (a run that succeeded may also have written nothing), and so two runs with the
same evidence cannot be told apart by their outcomes, whatever else they wrote.
-/

namespace SyscallProfiler.Outcome

open Text

/-! ## Evidence in a text -/

/-- The last line of a text that is not blank. -/
def IsLastLine (text line : List Char) : Prop :=
  ∃ before after, lines text = before ++ line :: after ∧ allBlank line = false ∧
    ∀ l ∈ after, allBlank l = true

/-- A text with blank lines only, or with none. -/
def IsSilent (text : List Char) : Prop := ∀ line ∈ lines text, allBlank line = true

/-- A line that reports a fault. -/
def IsMarked (line : List Char) : Prop := faultMark.toList <+: line

/-- The first line of a text that reports a fault. -/
def IsFirstMarked (text line : List Char) : Prop :=
  ∃ before after, lines text = before ++ line :: after ∧ IsMarked line ∧
    ∀ l ∈ before, ¬IsMarked l

/-- A text that reports no fault. -/
def IsUnmarked (text : List Char) : Prop := ∀ line ∈ lines text, ¬IsMarked line

instance (line : List Char) : Decidable (IsMarked line) :=
  inferInstanceAs (Decidable (_ <+: line))

instance (text : List Char) : Decidable (IsSilent text) :=
  inferInstanceAs (Decidable (∀ line ∈ lines text, allBlank line = true))

instance (text : List Char) : Decidable (IsUnmarked text) :=
  inferInstanceAs (Decidable (∀ line ∈ lines text, ¬IsMarked line))

section Search

variable {stdout : String} {line : List Char}

theorem lastWord?_of_isLastLine (h : IsLastLine stdout.toList line) :
    lastWord? stdout = some (trim line) := by
  obtain ⟨before, after, hlines, hline, hafter⟩ := h
  have reversed : (lines stdout.toList).reverse = after.reverse ++ line :: before.reverse := by
    rw [hlines, List.reverse_append, List.reverse_cons, List.append_assoc, List.singleton_append]
  have found : (lines stdout.toList).reverse.find? (fun l => !allBlank l) = some line := by
    rw [List.find?_eq_some_iff_append]
    refine ⟨by rw [hline]; rfl, after.reverse, before.reverse, reversed, ?_⟩
    intro l hl
    rw [hafter l (List.mem_reverse.mp hl)]
    rfl
  rw [lastWord?, found, Option.map_some]

theorem lastWord?_of_isSilent (h : IsSilent stdout.toList) : lastWord? stdout = none := by
  have nothing : (lines stdout.toList).reverse.find? (fun l => !allBlank l) = none := by
    rw [List.find?_eq_none]
    intro l hl
    rw [h l (List.mem_reverse.mp hl)]
    exact Bool.false_ne_true
  rw [lastWord?, nothing, Option.map_none]

theorem markedFault?_of_isUnmarked (h : IsUnmarked stdout.toList) : markedFault? stdout = none :=
  faultIn_eq_none h

/-- The message on the first marked line is what follows its mark. -/
theorem markedFault?_of_isFirstMarked (h : IsFirstMarked stdout.toList line) :
    markedFault? stdout = some (trim (line.drop faultMark.toList.length)) := by
  obtain ⟨before, after, hlines, ⟨message, rfl⟩, hbefore⟩ := h
  have own : after? faultMark.toList (faultMark.toList ++ message) = some message :=
    after?_eq_some_iff.mpr rfl
  have others : before.findSome? (after? faultMark.toList) = none := by
    rw [List.findSome?_eq_none_iff]
    intro l hl
    exact after?_eq_none_iff.mpr (hbefore l hl)
  rw [markedFault?, hlines, List.findSome?_append, others, Option.none_or,
    List.findSome?_cons_of_isSome (by rw [own]; rfl), own, Option.map_some, List.drop_left]

end Search

/-! ## Outcomes from their evidence -/

section Outcomes

variable {code : Option Int} {stdout : String} {line : List Char}
variable (signal : Option Int) (stderr : String)

/-- The outcome of a run that succeeded is the value on its last line. -/
theorem ofRun_of_isLastLine (h : IsLastLine stdout.toList line) :
    ofRun (some 0) signal stdout stderr =
      match Json.read (trim line) with
      | .ok v => .returned v
      | .error _ => .faulted ("unparseable workload output: " ++ String.ofList (trim line)) := by
  rewrite [ofRun, if_pos rfl, lastWord?_of_isLastLine h]
  rfl

theorem ofRun_of_isSilent (h : IsSilent stdout.toList) :
    ofRun (some 0) signal stdout stderr = .faulted "workload produced no output" := by
  rw [ofRun, if_pos rfl, lastWord?_of_isSilent h]

/-- The outcome of a run that failed is the fault that it reported first. -/
theorem ofRun_of_isFirstMarked (failed : code ≠ some 0) (h : IsFirstMarked stdout.toList line) :
    ofRun code signal stdout stderr =
      .faulted (String.ofList (trim (line.drop faultMark.toList.length))) := by
  rw [ofRun, if_neg failed, markedFault?_of_isFirstMarked h]

/-- The outcome of a run that failed without a report is how it ended and what it complained
about. -/
theorem ofRun_of_isUnmarked (failed : code ≠ some 0) (h : IsUnmarked stdout.toList) :
    ofRun code signal stdout stderr =
      .faulted (exitText code signal ++
        if trimmed stderr = "" then "" else ": " ++ trimmed stderr) := by
  rw [ofRun, if_neg failed, markedFault?_of_isUnmarked h]

/-- A signal has no part in the description of a run that ended by itself. -/
theorem exitText_congr {signal signal' : Option Int} (h : code = none → signal = signal') :
    exitText code signal = exitText code signal' := by
  cases code with
  | some code => rfl
  | none => rw [h rfl]

end Outcomes

/-! ## Every text has its evidence -/

theorem isSilent_or_isLastLine (text : List Char) :
    IsSilent text ∨ ∃ line, IsLastLine text line := by
  cases hfind : (lines text).reverse.find? (fun l => !allBlank l) with
  | none =>
      left
      intro line hl
      have blank := List.find?_eq_none.mp hfind line (List.mem_reverse.mpr hl)
      simpa using blank
  | some line =>
      right
      obtain ⟨hline, after, before, hlines, hafter⟩ := List.find?_eq_some_iff_append.mp hfind
      refine ⟨line, before.reverse, after.reverse, ?_, by simpa using hline, ?_⟩
      · rw [← List.reverse_reverse (lines text), hlines]
        simp
      · intro l hl
        simpa using hafter l (List.mem_reverse.mp hl)

theorem isUnmarked_or_isFirstMarked (text : List Char) :
    IsUnmarked text ∨ ∃ line, IsFirstMarked text line := by
  cases hfind : (lines text).find? (fun l => decide (IsMarked l)) with
  | none =>
      left
      intro line hl
      have unmarked := List.find?_eq_none.mp hfind line hl
      simpa using unmarked
  | some line =>
      right
      obtain ⟨hline, before, after, hlines, hbefore⟩ := List.find?_eq_some_iff_append.mp hfind
      refine ⟨line, before, after, hlines, by simpa using hline, ?_⟩
      intro l hl
      simpa using hbefore l hl

/-! ## Runs with the same evidence -/

/-- What is left of a run that has ended. -/
structure Remains where
  code : Option Int
  signal : Option Int
  stdout : String
  stderr : String

namespace Remains

/-- The outcome that is recovered from what is left of a run. -/
def outcome (r : Remains) : Outcome := ofRun r.code r.signal r.stdout r.stderr

/-- Two runs with the same evidence. -/
inductive Alike (r r' : Remains) : Prop where
  /-- Both succeeded, and their last lines are the same but for the blanks around them. -/
  | spoke {line line' : List Char} (succeeded : r.code = some 0) (succeeded' : r'.code = some 0)
      (last : IsLastLine r.stdout.toList line) (last' : IsLastLine r'.stdout.toList line')
      (same : trim line = trim line')
  /-- Both succeeded without a word. -/
  | kept (succeeded : r.code = some 0) (succeeded' : r'.code = some 0)
      (silent : IsSilent r.stdout.toList) (silent' : IsSilent r'.stdout.toList)
  /-- Both failed, and their first marked lines are the same. -/
  | reported {line : List Char} (failed : r.code ≠ some 0) (failed' : r'.code ≠ some 0)
      (first : IsFirstMarked r.stdout.toList line) (first' : IsFirstMarked r'.stdout.toList line)
  /-- Both failed in the same way without a report, and complained about the same. -/
  | ended (failed : r.code ≠ some 0) (code : r.code = r'.code)
      (signal : r.code = none → r.signal = r'.signal)
      (unmarked : IsUnmarked r.stdout.toList) (unmarked' : IsUnmarked r'.stdout.toList)
      (complaint : trim r.stderr.toList = trim r'.stderr.toList)

/-- Every run has evidence of one of the four kinds. -/
theorem Alike.refl (r : Remains) : Alike r r := by
  by_cases succeeded : r.code = some 0
  · rcases isSilent_or_isLastLine r.stdout.toList with silent | ⟨line, last⟩
    · exact .kept succeeded succeeded silent silent
    · exact .spoke succeeded succeeded last last rfl
  · rcases isUnmarked_or_isFirstMarked r.stdout.toList with unmarked | ⟨line, first⟩
    · exact .ended succeeded rfl (fun _ => rfl) unmarked unmarked rfl
    · exact .reported succeeded succeeded first first

variable {r r' : Remains}

theorem outcome_eq_of_spoke {line line' : List Char} (succeeded : r.code = some 0)
    (succeeded' : r'.code = some 0) (last : IsLastLine r.stdout.toList line)
    (last' : IsLastLine r'.stdout.toList line') (same : trim line = trim line') :
    r.outcome = r'.outcome := by
  rw [outcome, outcome, succeeded, succeeded', ofRun_of_isLastLine r.signal r.stderr last,
    ofRun_of_isLastLine r'.signal r'.stderr last', same]

theorem outcome_eq_of_ended (failed : r.code ≠ some 0) (code : r.code = r'.code)
    (signal : r.code = none → r.signal = r'.signal) (unmarked : IsUnmarked r.stdout.toList)
    (unmarked' : IsUnmarked r'.stdout.toList)
    (complaint : trim r.stderr.toList = trim r'.stderr.toList) : r.outcome = r'.outcome := by
  have failed' : r'.code ≠ some 0 := code ▸ failed
  have ending : exitText r.code r.signal = exitText r'.code r'.signal := by
    rw [exitText_congr signal, code]
  have complained : trimmed r.stderr = trimmed r'.stderr := congrArg String.ofList complaint
  rw [outcome, outcome, ofRun_of_isUnmarked _ _ failed unmarked,
    ofRun_of_isUnmarked _ _ failed' unmarked', ending, complained]

/-- The outcome of a run never is that it took too long, it is a value only if the run succeeded,
and it depends on nothing but the evidence. -/
theorem outcome_of_evidence :
    (∀ r : Remains, r.outcome ≠ .timedOut ∧ ∀ v, r.outcome = .returned v → r.code = some 0) ∧
      ∀ r r' : Remains, Alike r r' → r.outcome = r'.outcome := by
  constructor
  · intro r
    constructor
    · intro late
      have timely : r.outcome.isTimedOut = false := isTimedOut_ofRun _ _ _ _
      rw [late] at timely
      cases timely
    · intro v returned
      by_contra failed
      rcases isUnmarked_or_isFirstMarked r.stdout.toList with unmarked | ⟨line, first⟩
      · rw [outcome, ofRun_of_isUnmarked _ _ failed unmarked] at returned
        cases returned
      · rw [outcome, ofRun_of_isFirstMarked _ _ failed first] at returned
        cases returned
  · rintro r r' alike
    cases alike with
    | spoke succeeded succeeded' last last' same =>
        exact outcome_eq_of_spoke succeeded succeeded' last last' same
    | kept succeeded succeeded' silent silent' =>
        rw [outcome, outcome, succeeded, succeeded', ofRun_of_isSilent _ _ silent,
          ofRun_of_isSilent _ _ silent']
    | reported failed failed' first first' =>
        rw [outcome, outcome, ofRun_of_isFirstMarked _ _ failed first,
          ofRun_of_isFirstMarked _ _ failed' first']
    | ended failed code signal unmarked unmarked' complaint =>
        exact outcome_eq_of_ended failed code signal unmarked unmarked' complaint

/-- Two runs that succeeded on the same last word, two that failed on the same report, and two that
were killed by the same signal. -/
theorem outcome_of_evidence_pairs :
    let spoken : Remains := ⟨some 0, none, "ERROR: 7\n [5] \r\n\n \n", "warned"⟩
    let spoken' : Remains := ⟨some 0, some 9, "[5]\u2028", ""⟩
    let reported : Remains := ⟨some 1, none, "5\nERROR: no image\r\nERROR: x", "warned"⟩
    let reported' : Remains := ⟨none, some 9, "ERROR: no image", ""⟩
    let killed : Remains := ⟨none, some 11, "5\n ERROR: none", " no memory\n"⟩
    let killed' : Remains := ⟨none, some 11, "", "no memory"⟩
    spoken.outcome = spoken'.outcome ∧ reported.outcome = reported'.outcome ∧
      killed.outcome = killed'.outcome := by
  intro spoken spoken' reported reported' killed killed'
  have last : IsLastLine spoken.stdout.toList " [5] ".toList :=
    ⟨["ERROR: 7".toList], [[], [' ']], by decide, by decide, by decide⟩
  have last' : IsLastLine spoken'.stdout.toList "[5]\u2028".toList :=
    ⟨[], [], by decide, by decide, by decide⟩
  have first : IsFirstMarked reported.stdout.toList "ERROR: no image".toList :=
    ⟨["5".toList], ["ERROR: x".toList], by decide, by decide, by decide⟩
  have first' : IsFirstMarked reported'.stdout.toList "ERROR: no image".toList :=
    ⟨[], [], by decide, by decide, by decide⟩
  refine ⟨?_, ?_, ?_⟩
  · exact outcome_of_evidence.2 spoken spoken' (.spoke rfl rfl last last' (by decide))
  · exact outcome_of_evidence.2 reported reported' (.reported (by decide) (by decide) first first')
  · exact outcome_of_evidence.2 killed killed'
      (.ended (by decide) rfl (fun _ => rfl) (by decide) (by decide) (by decide))

end Remains

end SyscallProfiler.Outcome
