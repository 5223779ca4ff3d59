import Mathlib.Data.List.DropRight
import SyscallProfiler.Text.Blank

/-!
# Lines of concatenated texts

A text is its ended lines followed by one line that nothing has ended yet, the open
line. Writing to the end of a text can change the open line only; the lines that are
ended stay as they are. The carriage return that reading a line drops is blank, so
it makes no difference to a line whose blanks are trimmed anyway.
-/

namespace SyscallProfiler.Text

/-! ## Blanks -/

/-- Blanks alone trim to nothing. -/
theorem trimStart_of_allBlank {text : List Char} (h : allBlank text = true) :
    trimStart text = [] := by
  rw [allBlank, List.all_eq_true] at h
  exact List.dropWhile_eq_nil_iff.mpr h

/-- Only blanks trim to nothing. -/
theorem allBlank_iff_trimStart {text : List Char} :
    allBlank text = true ↔ trimStart text = [] := by
  rw [allBlank, List.all_eq_true]
  exact List.dropWhile_eq_nil_iff.symm

/-- What is added to a text stays behind all blanks at its beginning. -/
theorem trimStart_append {text : List Char} (more : List Char) (h : trimStart text ≠ []) :
    trimStart (text ++ more) = trimStart text ++ more := by
  induction text with
  | nil => exact absurd rfl h
  | cons c rest ih =>
      by_cases hc : isBlank c = true
      · simp only [trimStart, List.dropWhile_cons_of_pos hc] at h ih ⊢
        rw [List.cons_append, List.dropWhile_cons_of_pos hc]
        exact ih h
      · simp only [trimStart, List.cons_append, List.dropWhile_cons_of_neg hc]

theorem trimStart_append_of_allBlank {text : List Char} (more : List Char)
    (h : allBlank text = true) : trimStart (text ++ more) = trimStart more := by
  rw [allBlank, List.all_eq_true] at h
  exact List.dropWhile_append_of_pos h

/-- A blank at the beginning of a text makes no difference to what it trims to. -/
theorem trim_cons {c : Char} (hc : isBlank c = true) (text : List Char) :
    trim (c :: text) = trim text := by
  rw [trim, trimStart, List.dropWhile_cons_of_pos hc]
  rfl

/-- A blank at the end of a text makes no difference to what it trims to. -/
theorem trim_concat {c : Char} (hc : isBlank c = true) (text : List Char) :
    trim (text ++ [c]) = trim text := by
  have trimEnd_concat : ∀ l : List Char, trimEnd (l ++ [c]) = trimEnd l := by
    intro l
    exact List.rdropWhile_concat_pos (p := isBlank) l c hc
  by_cases h : allBlank text = true
  · have hc' : trimStart [c] = [] := by simp [trimStart, hc]
    rw [trim, trim, trimStart_append_of_allBlank [c] h, hc', trimStart_of_allBlank h]
  · have hne : trimStart text ≠ [] := fun e => h (allBlank_iff_trimStart.mpr e)
    rw [trim, trim, trimStart_append [c] hne, trimEnd_concat]

/-- Blanks at the beginning of a text make no difference to what comes behind them. -/
theorem trim_append_congr {text other : List Char} (h : trimStart text = trimStart other)
    (more : List Char) : trim (text ++ more) = trim (other ++ more) := by
  have hs : trimStart (text ++ more) = trimStart (other ++ more) := by
    by_cases ht : trimStart text = []
    · rw [trimStart_append_of_allBlank more (allBlank_iff_trimStart.mpr ht),
        trimStart_append_of_allBlank more (allBlank_iff_trimStart.mpr (h ▸ ht))]
    · rw [trimStart_append more ht, trimStart_append more (h ▸ ht), h]
  rw [trim, trim, hs]

/-- A text that has no blank at either end. -/
def Tight (text : List Char) : Prop :=
  (∀ c ∈ text.head?, isBlank c = false) ∧ ∀ c ∈ text.getLast?, isBlank c = false

theorem trimStart_eq_self_iff {text : List Char} :
    trimStart text = text ↔ ∀ c ∈ text.head?, isBlank c = false := by
  rw [trimStart, List.dropWhile_eq_self_iff]
  cases text <;> simp

theorem trimEnd_eq_self_iff {text : List Char} :
    trimEnd text = text ↔ ∀ c ∈ text.getLast?, isBlank c = false := by
  change text.rdropWhile isBlank = text ↔ _
  rw [List.rdropWhile_eq_self_iff]
  by_cases h : text = []
  · simp [h]
  · simp [h, List.getLast?_eq_some_getLast]

/-- Trimming never makes a text longer. -/
theorem length_trim_le (text : List Char) : (trim text).length ≤ text.length := by
  have hs := (List.dropWhile_suffix (l := text) isBlank).length_le
  have he := (List.rdropWhile_prefix isBlank (trimStart text)).length_le
  exact Nat.le_trans he hs

/-- Trimming leaves a text alone exactly when it has no blank at either end. -/
theorem trim_eq_self_iff {text : List Char} : trim text = text ↔ Tight text := by
  constructor
  · intro h
    have hs : trimStart text = text := by
      apply (List.dropWhile_suffix (l := text) isBlank).eq_of_length_le
      calc text.length = (trim text).length := by rw [h]
        _ ≤ (trimStart text).length := (List.rdropWhile_prefix isBlank _).length_le
    have he : trimEnd text = text := by rwa [trim, hs] at h
    exact ⟨trimStart_eq_self_iff.mp hs, trimEnd_eq_self_iff.mp he⟩
  · rintro ⟨first, last⟩
    rw [trim, trimStart_eq_self_iff.mpr first, trimEnd_eq_self_iff.mpr last]

/-! ## Lines -/

/-- A line without the carriage return at its end. -/
def dropReturn : List Char → List Char
  | [] => []
  | ['\r'] => []
  | c :: rest => c :: dropReturn rest

/-- A line loses nothing at its end but possibly one carriage return. -/
theorem dropReturn_eq_or (line : List Char) :
    dropReturn line = line ∨ dropReturn line ++ ['\r'] = line := by
  fun_induction dropReturn line with
  | case1 => exact Or.inl rfl
  | case2 => exact Or.inr rfl
  | case3 c rest _ ih => exact ih.imp (congrArg (c :: ·)) (congrArg (c :: ·))

theorem trim_dropReturn (line : List Char) : trim (dropReturn line) = trim line := by
  rcases dropReturn_eq_or line with h | h
  · rw [h]
  · rw [← trim_concat (by decide : isBlank '\r' = true) (dropReturn line), h]

theorem allBlank_dropReturn (line : List Char) :
    allBlank (dropReturn line) = allBlank line := by
  rcases dropReturn_eq_or line with h | h
  · rw [h]
  · conv_rhs => rw [← h]
    simp [allBlank, show isBlank '\r' = true by decide]

/-- The carriage return of a line is not among the characters that begin it. -/
theorem dropReturn_append {line : List Char} (start : List Char) (h : line ≠ []) :
    dropReturn (start ++ line) = start ++ dropReturn line := by
  induction start with
  | nil => rfl
  | cons c start ih =>
      rw [List.cons_append, dropReturn, ih, List.cons_append]
      rintro rfl e
      exact h (List.append_eq_nil_iff.mp e).2

/-- A line that is ended is read without its carriage return, and reading goes on
behind its line feed. -/
theorem lines_feed {line : List Char} (h : '\n' ∉ line) (rest : List Char) :
    lines (line ++ '\n' :: rest) = dropReturn line :: lines rest := by
  fun_induction dropReturn line with
  | case1 => rfl
  | case2 => rfl
  | case3 c line hr ih =>
      rw [List.mem_cons, not_or] at h
      have next : ∀ later, c = '\r' → line ++ '\n' :: rest = '\n' :: later → False := by
        intro later hc e
        cases line with
        | nil => exact hr hc rfl
        | cons d line =>
            rw [List.cons_append, List.cons.injEq] at e
            exact h.2 (by simp [e.1])
      rw [List.cons_append, lines, ih h.2]
      · exact fun e => h.1 e.symm
      · exact next

/-- Every text comes from a text without line feeds by putting lines before it. -/
theorem lines_induction {motive : List Char → Prop}
    (last : ∀ line, '\n' ∉ line → motive line)
    (feed : ∀ line rest, '\n' ∉ line → motive rest → motive (line ++ '\n' :: rest))
    (text : List Char) : motive text := by
  induction hn : text.length using Nat.strongRecOn generalizing text with
  | ind n ih =>
      by_cases h : '\n' ∈ text
      · obtain ⟨line, rest, rfl, hl⟩ := List.eq_append_cons_of_mem h
        rw [List.length_append, List.length_cons] at hn
        exact feed line rest hl (ih rest.length (by omega) rest rfl)
      · exact last text h

/-- Every line of the text has been ended. -/
def Ended (text : List Char) : Prop := ∀ c ∈ text.getLast?, c = '\n'

instance (text : List Char) : Decidable (Ended text) := Option.decidableForallMem text.getLast?

theorem Ended.eq_nil_or {text : List Char} (h : Ended text) :
    text = [] ∨ ∃ before, text = before ++ ['\n'] := by
  rcases List.eq_nil_or_concat text with rfl | ⟨before, c, rfl⟩
  · exact Or.inl rfl
  · have hc : c = '\n' := h c (by simp)
    exact Or.inr ⟨before, by rw [hc, List.concat_eq_append]⟩

/-- Lines that have been ended are read independently of what comes after them. -/
theorem lines_append {text : List Char} (h : Ended text) (more : List Char) :
    lines (text ++ more) = lines text ++ lines more := by
  rcases h.eq_nil_or with rfl | ⟨before, rfl⟩
  · rfl
  · rw [List.append_assoc, List.singleton_append]
    induction before using lines_induction with
    | last line hl => rw [lines_feed hl, lines_feed hl, lines, List.singleton_append]
    | feed line rest hl ih =>
        have hrest : Ended (rest ++ ['\n']) := by simp [Ended]
        simp only [List.append_assoc, List.cons_append, lines_feed hl, ih hrest]

/-- The characters after the last line feed: a line that nothing has ended yet. -/
def openLine (text : List Char) : List Char := text.rtakeWhile (· ≠ '\n')

/-- Everything up to the last line feed. -/
def endedLines (text : List Char) : List Char := text.rdropWhile (· ≠ '\n')

theorem endedLines_append_openLine (text : List Char) : endedLines text ++ openLine text = text :=
  List.rdropWhile_append_rtakeWhile

theorem ended_endedLines (text : List Char) : Ended (endedLines text) := by
  intro c hc
  have hne : endedLines text ≠ [] := by
    intro e
    simp [e] at hc
  rw [List.getLast?_eq_some_getLast hne, Option.mem_some_iff] at hc
  have hlast := List.rdropWhile_last_not _ _ hne
  rw [← hc]
  simpa [endedLines] using hlast

theorem feed_notMem_openLine (text : List Char) : '\n' ∉ openLine text := by
  intro h
  simpa using List.mem_rtakeWhile_imp h

theorem openLine_eq_nil_iff {text : List Char} : openLine text = [] ↔ Ended text := by
  rw [openLine, List.rtakeWhile_eq_nil_iff]
  by_cases h : text = []
  · simp [h, Ended]
  · simp [h, Ended, List.getLast?_eq_some_getLast]

/-- The characters up to the first line feed. -/
def firstLine (text : List Char) : List Char := text.takeWhile (· ≠ '\n')

theorem feed_notMem_firstLine (text : List Char) : '\n' ∉ firstLine text := by
  intro h
  simpa using List.mem_takeWhile_imp h

/-- What comes after the first line of a text once its last line has been ended. -/
def otherLines (text : List Char) : List Char :=
  ((text ++ ['\n']).dropWhile (· ≠ '\n')).tail

/-- Ending the last line of a text ends its first line. -/
theorem firstLine_append_otherLines (text : List Char) :
    firstLine text ++ '\n' :: otherLines text = text ++ ['\n'] := by
  induction text with
  | nil => rfl
  | cons c text ih =>
      by_cases hc : c = '\n'
      · simp [firstLine, otherLines, hc]
      · simpa [firstLine, otherLines, hc] using ih

theorem firstLine_eq_self_iff {text : List Char} : firstLine text = text ↔ '\n' ∉ text := by
  rw [firstLine, List.takeWhile_eq_self_iff]
  constructor
  · intro h hm
    simpa using h _ hm
  · intro h c hc
    simpa using fun e : c = '\n' => h (e ▸ hc)

/-- Nothing is lost in the first line and its blanks only if there is no other line and
there are no blanks to lose. -/
theorem trim_firstLine_eq_self_iff {text : List Char} :
    trim (firstLine text) = text ↔ '\n' ∉ text ∧ Tight text := by
  constructor
  · intro h
    have hf : firstLine text = text := by
      apply (List.takeWhile_prefix _).eq_of_length_le
      calc text.length = (trim (firstLine text)).length := by rw [h]
        _ ≤ (firstLine text).length := length_trim_le _
    rw [hf] at h
    exact ⟨firstLine_eq_self_iff.mp hf, trim_eq_self_iff.mp h⟩
  · rintro ⟨hfeed, tight⟩
    rw [firstLine_eq_self_iff.mpr hfeed, trim_eq_self_iff.mpr tight]

/-! ## Beginnings -/

/-- What follows a beginning is all that is left of the text. -/
theorem after?_eq_some_iff {start text rest : List Char} :
    after? start text = some rest ↔ text = start ++ rest := by
  fun_induction after? start text with
  | case1 text => simp [eq_comm]
  | case2 => simp
  | case3 start c text ih => simpa using ih
  | case4 c start d text hne =>
      refine ⟨nofun, fun h => ?_⟩
      rw [List.cons_append, List.cons.injEq] at h
      exact absurd h.1.symm hne

/-- Nothing follows a beginning that a text does not have. -/
theorem after?_eq_none_iff {start text : List Char} :
    after? start text = none ↔ ¬start <+: text := by
  constructor
  · rintro h ⟨rest, rfl⟩
    rw [after?_eq_some_iff.mpr rfl] at h
    cases h
  · intro h
    cases hf : after? start text with
    | none => rfl
    | some rest => exact absurd ⟨rest, (after?_eq_some_iff.mp hf).symm⟩ h

/-- Whether a text begins in a certain way shows in as many characters as the beginning
has; the others are carried along. -/
theorem after?_append {start text : List Char} (h : start.length ≤ text.length)
    (more : List Char) : after? start (text ++ more) = (after? start text).map (· ++ more) := by
  fun_induction after? start text with
  | case1 text => rfl
  | case2 => simp at h
  | case3 start c text ih =>
      rw [List.cons_append, after?, if_pos rfl]
      exact ih (Nat.le_of_succ_le_succ h)
  | case4 c start d text hne => rw [List.cons_append, after?, if_neg hne, Option.map_none]

end SyscallProfiler.Text
