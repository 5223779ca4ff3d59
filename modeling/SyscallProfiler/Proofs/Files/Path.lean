import SyscallProfiler.Files.Path

/-!
# The names on a path

A lookup goes along the names on a path and passes over empty parts and single dots. The path of a
directory that is joined with a name leads wherever that of the directory leads, and from there to
one entry, which has that name.
-/

namespace SyscallProfiler.Path

/-! ## Joined paths -/

/-- The path that names lead to from a directory. -/
def descend (directory : String) (names : List String) : String := names.foldl join directory

theorem descend_concat (directory : String) (names : List String) (name : String) :
    descend directory (names ++ [name]) = join (descend directory names) name := by
  rw [descend, List.foldl_append]
  rfl

/-- What stands before a name in the path of an entry of a directory. -/
def lead (directory : String) : String :=
  match directory.toList.getLast? with
  | none => ""
  | some '/' => directory
  | some _ => directory ++ "/"

theorem join_eq_lead (directory : String) {name : String} (h : isAbsolute name = false) :
    join directory name = lead directory ++ name := by
  rw [join, lead, h, if_neg Bool.false_ne_true]
  split <;> simp [*]

/-- A joined path ends in the name that was joined last. -/
theorem exists_join_eq_append (directory name : String) :
    ∃ before, join directory name = before ++ name := by
  cases h : isAbsolute name with
  | false => exact ⟨_, join_eq_lead directory h⟩
  | true => exact ⟨"", by rw [join, if_pos h, String.empty_append]⟩

theorem dropWhile_lead (directory : String) :
    (lead directory).toList.reverse.dropWhile (· != '/') = (lead directory).toList.reverse := by
  rw [lead]
  split
  · rfl
  · obtain ⟨before, h⟩ := List.getLast?_eq_some_iff.mp ‹_›
    simp [h]
  · simp [String.toList_append]

/-- The file with another name in the directory of a file. -/
theorem withFileName_join (directory : String) {name file : String} (hname : '/' ∉ name.toList)
    (habsolute : isAbsolute name = false) (hfile : isAbsolute file = false) :
    withFileName (join directory name) file = join directory file := by
  have dropped : ∀ c ∈ name.toList.reverse, (c != '/') = true := by
    intro c hc
    have ne : c ≠ '/' := fun e => hname (e ▸ List.mem_reverse.mp hc)
    exact bne_iff_ne.mpr ne
  rw [withFileName, join_eq_lead directory habsolute, join_eq_lead directory hfile,
    String.toList_append, List.reverse_append, List.dropWhile_append_of_pos dropped, dropWhile_lead,
    List.reverse_reverse, String.ofList_toList]

/-! ## Parts of a path -/

theorem splitSlash_ne_nil (text : List Char) : splitSlash text ≠ [] := by
  cases text with
  | nil => nofun
  | cons c rest =>
      rw [splitSlash]
      split
      · nofun
      · split <;> nofun

theorem splitSlash_of_notMem {text : List Char} (h : '/' ∉ text) : splitSlash text = [text] := by
  induction text with
  | nil => rfl
  | cons c rest ih =>
      rw [List.mem_cons, not_or] at h
      rw [splitSlash, if_neg (Ne.symm h.1), ih h.2]

theorem splitSlash_append_slash (before after : List Char) :
    splitSlash (before ++ '/' :: after) = splitSlash before ++ splitSlash after := by
  induction before with
  | nil => rfl
  | cons c rest ih =>
      rw [List.cons_append, splitSlash, splitSlash, ih]
      split
      · rfl
      · cases h : splitSlash rest with
        | nil => exact absurd h (splitSlash_ne_nil rest)
        | cons part parts => rfl

theorem components_of_notMem {name : String} (h : '/' ∉ name.toList) :
    components name = [name] := by
  rw [components, splitSlash_of_notMem h, List.map_singleton, String.ofList_toList]

theorem components_append_slash (before after : String) :
    components (before ++ "/" ++ after) = components before ++ components after := by
  have text : (before ++ "/" ++ after).toList = before.toList ++ '/' :: after.toList := by simp
  rw [components, text, splitSlash_append_slash, List.map_append]
  rfl

/-! ## Names -/

/-- Whether a lookup goes anywhere at a part of a path. -/
def isStep (part : String) : Bool := part != "" && part != "."

theorem isStep_eq_false_iff {part : String} : isStep part = false ↔ part = "" ∨ part = "." := by
  simp [isStep, ← Decidable.or_iff_not_imp_left]

/-- The names on a path, without the parts at which a lookup stays where it is. -/
def names (path : String) : List String := (components path).filter isStep

theorem names_of_notMem {name : String} (h : '/' ∉ name.toList) (step : isStep name = true) :
    names name = [name] := by
  rw [names, components_of_notMem h, List.filter_cons_of_pos step, List.filter_nil]

theorem names_append_slash (before after : String) :
    names (before ++ "/" ++ after) = names before ++ names after := by
  rw [names, components_append_slash, List.filter_append]
  rfl

/-- A slash at the end of the path of a directory makes no difference. -/
theorem names_lead_append (directory name : String) :
    names (lead directory ++ name) = names directory ++ names name := by
  rw [lead]
  split
  · obtain rfl : directory = "" := by simpa using ‹directory.toList.getLast? = none›
    rw [String.empty_append]
    rfl
  · obtain ⟨before, h⟩ := List.getLast?_eq_some_iff.mp ‹_›
    obtain rfl : directory = String.ofList before ++ "/" := by simp [← String.toList_inj, h]
    have same : names (String.ofList before ++ "/") = names (String.ofList before) := by
      have empty := names_append_slash (String.ofList before) ""
      rwa [String.append_empty, show names "" = [] by decide, List.append_nil] at empty
    rw [names_append_slash, same]
  · exact names_append_slash directory name

/-! ## Entries of directories -/

/-- The path starts where that of a directory starts, leads through the same names, and then to an
entry with the given name. -/
structure IsEntryOf (directory name path : String) : Prop where
  isAbsolute_eq : isAbsolute path = isAbsolute directory
  names_eq : names path = names directory ++ [name]

theorem isAbsolute_of_notMem {name : String} (h : '/' ∉ name.toList) : isAbsolute name = false := by
  rw [isAbsolute]
  split
  · rename_i same
    exact absurd (same ▸ List.mem_cons_self) h
  · rfl

theorem isAbsolute_append {before : String} (h : before ≠ "") (after : String) :
    isAbsolute (before ++ after) = isAbsolute before := by
  rw [isAbsolute, isAbsolute, String.toList_append]
  cases chars : before.toList with
  | nil => exact absurd (String.toList_eq_nil_iff.mp chars) h
  | cons c rest => rw [List.cons_append]; split <;> simp_all

theorem isAbsolute_lead_append (directory : String) {name : String} (h : '/' ∉ name.toList) :
    isAbsolute (lead directory ++ name) = isAbsolute directory := by
  rw [lead]
  split
  · obtain rfl : directory = "" := by simpa using ‹directory.toList.getLast? = none›
    rw [String.empty_append, isAbsolute_of_notMem h]
    rfl
  · refine isAbsolute_append ?_ name
    rintro rfl
    contradiction
  · rw [String.append_assoc]
    refine isAbsolute_append ?_ _
    rintro rfl
    contradiction

/-- Whatever the path of a directory looks like, a name without a slash that is joined to it is
that of an entry. -/
theorem isEntryOf_join (directory : String) {name : String} (h : '/' ∉ name.toList)
    (step : isStep name = true) : IsEntryOf directory name (join directory name) where
  isAbsolute_eq := by
    rw [join_eq_lead directory (isAbsolute_of_notMem h), isAbsolute_lead_append directory h]
  names_eq := by
    rw [join_eq_lead directory (isAbsolute_of_notMem h), names_lead_append, names_of_notMem h step]

end SyscallProfiler.Path
