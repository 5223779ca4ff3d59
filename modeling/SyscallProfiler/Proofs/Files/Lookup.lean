import SyscallProfiler.Files.Basic
import SyscallProfiler.Proofs.Files.Path

/-!
# Looking up entries

A lookup that ends in a directory is decided by the names on the path alone, whatever links it
follows. So the path of an entry of a directory is that of the entry itself: it names what the
directory has under that name, at the location of the directory, and nothing anywhere else.
-/

namespace SyscallProfiler.Files

variable {files : Files} {links : Nat} {here location : Location} {todo todo' : List String}
  {entries : List (String × Node)} {cwd : Location} {directory name path : String}

/-! ## Parts that are passed over -/

theorem walk_append_of_idle {before : List String}
    (idle : ∀ part ∈ before, Path.isStep part = false) (rest : List String) :
    files.walk links here (before ++ rest) = files.walk links here rest := by
  induction before with
  | nil => rfl
  | cons part before ih =>
      obtain ⟨first, later⟩ := List.forall_mem_cons.mp idle
      rw [List.cons_append, walk, if_pos (Path.isStep_eq_false_iff.mp first), ih later]

theorem walk_of_filter_eq_nil (idle : todo.filter Path.isStep = []) :
    files.walk links here todo = files.walk links here [] := by
  have passed : ∀ part ∈ todo, Path.isStep part = false := fun part among =>
    Bool.eq_false_iff.mpr (List.filter_eq_nil_iff.mp idle part among)
  rw [← walk_append_of_idle passed [], List.append_nil]

/-- A lookup comes to the first name on the path. -/
theorem exists_walk_eq_cons {rest : List String} (step : Path.isStep name = true)
    (same : todo.filter Path.isStep = (name :: rest).filter Path.isStep) :
    ∃ rest', files.walk links here todo = files.walk links here (name :: rest') ∧
      rest'.filter Path.isStep = rest.filter Path.isStep := by
  rw [List.filter_cons_of_pos step, List.filter_eq_cons_iff] at same
  obtain ⟨before, rest', rfl, idle, -, same⟩ := same
  have passed : ∀ part ∈ before, Path.isStep part = false := fun part among =>
    Bool.eq_false_iff.mpr (idle part among)
  exact ⟨rest', walk_append_of_idle passed _, same⟩

/-! ## Ways to directories -/

/-- Nothing but the names on the way decides to which directory a lookup leads. The induction is
on the lookup, which goes on along the target of a link. -/
theorem walk_congr (found : files.walk links here todo = .ok (.found location (.directory entries)))
    (same : todo'.filter Path.isStep = todo.filter Path.isStep) :
    files.walk links here todo' = .ok (.found location (.directory entries)) := by
  have isStep {part : String} (h : ¬(part = "" ∨ part = ".")) : Path.isStep part = true := by
    rwa [← Path.isStep_eq_false_iff, Bool.not_eq_false] at h
  fun_induction walk files links here todo generalizing todo' with
  | case1 links here node there =>
      rw [walk_of_filter_eq_nil same, walk, there]
      exact found
  | case3 links here name rest idle ih =>
      have passed : ¬Path.isStep name = true :=
        Bool.eq_false_iff.mp (Path.isStep_eq_false_iff.mpr idle)
      rw [List.filter_cons_of_neg passed] at same
      exact ih found same
  | case4 links here rest step ih =>
      obtain ⟨rest', reached, same'⟩ := exists_walk_eq_cons (isStep step) same
      rw [reached, walk, if_neg step, if_pos rfl]
      exact ih found same'
  | case10 here name rest step notUp short target there links start =>
      rename_i ih
      obtain ⟨rest', reached, same'⟩ := exists_walk_eq_cons (isStep step) same
      rw [reached, walk, if_neg step, if_neg notUp, if_neg short, there]
      exact ih found (by rw [List.filter_append, List.filter_append, same'])
  | case11 links here name rest step notUp short below there ih =>
      obtain ⟨rest', reached, same'⟩ := exists_walk_eq_cons (isStep step) same
      rw [reached, walk, if_neg step, if_neg notUp, if_neg short, there]
      exact ih found same'
  | case12 links here name rest step notUp short node notLink notDirectory there last =>
      cases found
      exact absurd rfl (notDirectory _)
  | _ => cases found

theorem walk_of_find (found : files.find cwd path = .ok (location, .directory entries)) :
    files.walk maxLinks (if Path.isAbsolute path then [] else cwd) (Path.components path) =
      .ok (.found location (.directory entries)) := by
  have placed : files.place cwd path = .ok (.found location (.directory entries)) := by
    rw [find] at found
    split at found <;> cases found
    assumption
  rw [place] at placed
  split at placed
  · cases placed
  · split at placed
    · cases placed
    · split at placed
      · cases placed
      · simpa using placed

/-! ## Entries -/

/-- The path of an entry of a directory names what the directory has under the name of the entry,
and nothing that is elsewhere. It names it unless one of the two is too long. -/
theorem entry_eq_ok_iff {node : Node}
    (found : files.find cwd directory = .ok (here, .directory entries))
    (isEntry : Path.IsEntryOf directory name path) (notUp : name ≠ "..") :
    files.entry cwd path = .ok (location, node) ↔
      Path.isLong path = false ∧ Path.isLongPart name = false ∧
        location = here ++ [name] ∧ files.at? location = some node := by
  have reached : files.walk maxLinks (if Path.isAbsolute path then [] else cwd)
      (Path.names directory) = .ok (.found here (.directory entries)) := by
    rw [isEntry.isAbsolute_eq]
    exact walk_congr (walk_of_find found) (by rw [Path.names, List.filter_filter]; simp)
  have parts : (Path.components path).filter (fun part => part != "" && part != ".") =
      Path.names directory ++ [name] := isEntry.names_eq
  rw [entry, parts, List.getLast?_concat, List.dropLast_concat]
  split
  · cases ‹some name = none›
  · exact absurd (Option.some.inj ‹_›) notUp
  · obtain rfl : name = _ := Option.some.inj ‹_›
    simp only [reached, Node.isDirectory, Bool.not_true, Bool.false_eq_true, if_false]
    cases Path.isLong path with
    | true => simp
    | false => cases Path.isLongPart name with
      | true => simp
      | false =>
          simp only [Bool.false_eq_true, if_false, true_and]
          constructor
          · intro ok
            split at ok <;> cases ok
            exact ⟨rfl, ‹_›⟩
          · rintro ⟨rfl, there⟩
            rw [there]

end SyscallProfiler.Files
